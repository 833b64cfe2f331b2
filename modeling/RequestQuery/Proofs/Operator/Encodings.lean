import Mathlib.Data.List.TakeWhile
import RequestQuery.Operator.Set
import RequestQuery.Proofs.Pattern.Matching
import RequestQuery.Proofs.Text.Split
import RequestQuery.Proofs.Text.Trim

/-!
# The values that standard operators understand

* `IsRange`, `IsNumber`, `IsLine`, `IsItems` — what may stand behind the marker of an operator.
* `InList.contains_itemChars` — the characters of a list of values.
* `ValueEncoding.accepts_range`, `ValueEncoding.accepts_number`, `ValueEncoding.accepts_any`,
  `InList.accepts_iff` — an operator understands a text just if it is the marker and such a rest.
* `ValueEncoding.arguments_range`, `ValueEncoding.arguments_one`, `InList.items_of_isItems` — what is read
  from the rest.
-/

namespace RequestQuery

/-! ### Behind the marker -/

/-- An end of a range: not empty, and without a separator. -/
def IsBound (cs : List Char) : Prop :=
  cs ≠ [] ∧ '|' ∉ cs

/-- Two ends of a range with a separator between them. -/
def IsRange (cs : List Char) : Prop :=
  ∃ a b, IsBound a ∧ IsBound b ∧ cs = a ++ '|' :: b

/-- A point or a digit, and then anything on the same line. -/
def IsNumber (cs : List Char) : Prop :=
  ∃ c rest, (c = '.' ∨ Text.isDecimalDigit c = true) ∧ '\n' ∉ rest ∧ cs = c :: rest

/-- Something on one line. -/
def IsLine (cs : List Char) : Prop :=
  cs ≠ [] ∧ '\n' ∉ cs

/-- A letter or a digit of ASCII or a comma, or one of the two characters that differ from a letter of
ASCII in case only: the long s and the sign for kelvin. -/
def IsItemChar (c : Char) : Prop :=
  ('A' ≤ c ∧ c ≤ 'Z') ∨ ('a' ≤ c ∧ c ≤ 'z') ∨ ('0' ≤ c ∧ c ≤ '9') ∨ c = ',' ∨
    c = '\u017F' ∨ c = '\u212A'

/-- Some characters of a list of values. -/
def IsItems (cs : List Char) : Prop :=
  cs ≠ [] ∧ ∀ c ∈ cs, IsItemChar c

/-! ### Characters of a list -/

theorem Text.toNat_ofNat {n : Nat} (h : (Char.ofNat n).toNat ≠ 0) : (Char.ofNat n).toNat = n := by
  by_cases hn : n.isValidChar
  · rw [Char.ofNat, dif_pos hn]
    rfl
  · rw [Char.ofNat, dif_neg hn] at h
    exact absurd rfl h

theorem InList.contains_listRanges {c : Char} :
    (CharSet.ranges [(0x41, 0x5A), (0x30, 0x39), (0x2C, 0x2C)]).contains c = true ↔
      (0x41 ≤ c.toNat ∧ c.toNat ≤ 0x5A) ∨ (0x30 ≤ c.toNat ∧ c.toNat ≤ 0x39) ∨ c.toNat = 0x2C := by
  simp only [CharSet.contains, Text.CharRanges.contains, List.any_cons, List.any_nil, Bool.or_false,
    Bool.or_eq_true, Bool.and_eq_true, decide_eq_true_eq]
  omega

theorem isItemChar_iff_toNat {c : Char} :
    IsItemChar c ↔ (0x41 ≤ c.toNat ∧ c.toNat ≤ 0x5A) ∨ (0x61 ≤ c.toNat ∧ c.toNat ≤ 0x7A) ∨
      (0x30 ≤ c.toNat ∧ c.toNat ≤ 0x39) ∨ c.toNat = 0x2C ∨ c.toNat = 0x17F ∨ c.toNat = 0x212A := by
  simp only [IsItemChar, Char.le_def, UInt32.le_iff_toNat_le, ← Char.toNat_inj]
  rfl

/-- Only the capital letters of ASCII stand before the folded letters among the runs. -/
theorem Text.foldRuns_first : ∀ r ∈ Text.foldRuns, r.first ≤ 0x5A → r.first = 0x41 ∧ r.target = 0x61 := by
  decide +kernel

/-- What folds to a letter of ASCII is a capital letter, the long s or the sign for kelvin. -/
theorem Text.foldRuns_target : ∀ r ∈ Text.foldRuns, r.target ≤ 0x7A →
    (r.first = 0x41 ∧ r.last = 0x5A) ∨ (r.first = 0x17F ∧ r.last = 0x17F) ∨
      (r.first = 0x212A ∧ r.last = 0x212A) := by
  decide +kernel

theorem Text.foldCase_eq (c : Char) :
    Text.foldCase c = c ∨ ∃ r ∈ Text.foldRuns, r.first ≤ c.toNat ∧ c.toNat ≤ r.last ∧
      Text.foldCase c = Char.ofNat (r.target + (c.toNat - r.first)) := by
  rw [Text.foldCase]
  split
  · rename_i r hr
    have hcovers := List.find?_some hr
    simp only [Text.FoldRun.covers, Bool.and_eq_true, decide_eq_true_eq] at hcovers
    exact .inr ⟨r, List.mem_of_find?_eq_some hr, hcovers.1.1, hcovers.1.2, rfl⟩
  · exact .inl rfl

theorem Text.mem_unfoldCase {c v : Char} (h : v ∈ Text.unfoldCase c) :
    v = c ∨ ∃ r ∈ Text.foldRuns, r.target ≤ c.toNat ∧ v = Char.ofNat (r.first + (c.toNat - r.target)) := by
  rw [Text.unfoldCase, List.mem_cons, List.mem_filterMap] at h
  rcases h with rfl | ⟨r, hr, hv⟩
  · exact .inl rfl
  · simp only [Option.ite_none_right_eq_some, Option.some.injEq, Bool.and_eq_true,
      decide_eq_true_eq] at hv
    exact .inr ⟨r, hr, hv.1.1, hv.2.symm⟩

/-- A character with a variant in the list of ranges has a folded form of ASCII. -/
theorem Text.toNat_bounds_of_variant {c v : Char} (hv : v ∈ Text.unfoldCase c)
    (h : (0x41 ≤ v.toNat ∧ v.toNat ≤ 0x5A) ∨ (0x30 ≤ v.toNat ∧ v.toNat ≤ 0x39) ∨ v.toNat = 0x2C) :
    (0x61 ≤ c.toNat ∧ c.toNat ≤ 0x7A) ∨ (0x41 ≤ c.toNat ∧ c.toNat ≤ 0x5A) ∨
      (0x30 ≤ c.toNat ∧ c.toNat ≤ 0x39) ∨ c.toNat = 0x2C := by
  rcases Text.mem_unfoldCase hv with rfl | ⟨r, hr, htarget, rfl⟩
  · exact .inr h
  · have hvalue := Text.toNat_ofNat (n := r.first + (c.toNat - r.target)) (by omega)
    obtain ⟨hfirst, hfolded⟩ := Text.foldRuns_first r hr (by omega)
    omega

theorem InList.isItemChar_of_contains {c : Char} (h : InList.itemChars.contains c = true) : IsItemChar c := by
  rw [InList.itemChars, CharSet.contains, List.any_eq_true] at h
  obtain ⟨v, hv, hcontains⟩ := h
  have hfolded := Text.toNat_bounds_of_variant hv (InList.contains_listRanges.1 hcontains)
  rw [isItemChar_iff_toNat]
  rcases Text.foldCase_eq c with heq | ⟨r, hr, hfirst, hlast, heq⟩
  · rw [heq] at hfolded
    omega
  · rw [heq] at hfolded
    have hvalue := Text.toNat_ofNat (n := r.target + (c.toNat - r.first)) (by omega)
    rcases Text.foldRuns_target r hr (by omega) with hrun | hrun | hrun <;> omega

theorem InList.contains_of_ascii : ∀ n < 0x7B, (0x41 ≤ n ∧ n ≤ 0x5A) ∨ (0x61 ≤ n ∧ n ≤ 0x7A) ∨
    (0x30 ≤ n ∧ n ≤ 0x39) ∨ n = 0x2C → InList.itemChars.contains (Char.ofNat n) = true := by
  decide +kernel

theorem InList.contains_itemChars {c : Char} : InList.itemChars.contains c = true ↔ IsItemChar c := by
  refine ⟨InList.isItemChar_of_contains, fun h => ?_⟩
  rw [isItemChar_iff_toNat] at h
  rw [← Char.ofNat_toNat c]
  generalize c.toNat = n at h ⊢
  by_cases hn : n < 0x7B
  · exact InList.contains_of_ascii n hn (by omega)
  · have hlarge : n = 0x17F ∨ n = 0x212A := by omega
    rcases hlarge with rfl | rfl <;> decide +kernel

/-! ### Patterns behind the marker -/

namespace Pattern

variable {before after : Option Char} {cs : List Char}

theorem forall_contains_complement {d : Char} :
    (∀ c ∈ cs, (CharSet.complement (.single d)).contains c = true) ↔ d ∉ cs := by
  simp only [CharSet.contains_complement_single]
  exact ⟨fun h hd => h d hd rfl, fun h c hc hcd => h (hcd ▸ hc)⟩

theorem matches_range :
    Matches before cs after
      (sequence [.plus (.char (.complement (.single '|'))), .literal '|',
        .plus (.char (.complement (.single '|')))]) ↔ IsRange cs := by
  simp only [matches_sequence_cons, matches_sequence_nil, matches_plus_char, matches_literal,
    forall_contains_complement]
  constructor
  · rintro ⟨a, v, rfl, ha, u, w, rfl, rfl, b, x, rfl, hb, rfl⟩
    exact ⟨a, b, ha, hb, by simp⟩
  · rintro ⟨a, b, ha, hb, rfl⟩
    exact ⟨a, '|' :: b, rfl, ha, ['|'], b, rfl, rfl, b, [], by simp, hb, rfl⟩

theorem matches_number :
    Matches before cs after (sequence [.alt (.literal '.') (.char .digit), .star withinLine]) ↔
      IsNumber cs := by
  have hdigit : ∀ c, CharSet.digit.contains c = Text.isDecimalDigit c := fun _ => rfl
  simp only [matches_sequence_cons, matches_sequence_nil, withinLine, matches_star_char, matches_alt,
    matches_literal, matches_char, forall_contains_complement, hdigit]
  constructor
  · rintro ⟨u, v, rfl, hu, rest, w, rfl, hrest, rfl⟩
    rcases hu with rfl | ⟨c, rfl, hc⟩
    · exact ⟨'.', rest, .inl rfl, hrest, by simp⟩
    · exact ⟨c, rest, .inr hc, hrest, by simp⟩
  · rintro ⟨c, rest, hc, hrest, rfl⟩
    have hfirst : [c] = ['.'] ∨ ∃ d, [c] = [d] ∧ Text.isDecimalDigit d = true := by
      rcases hc with rfl | hc
      · exact .inl rfl
      · exact .inr ⟨c, rfl, hc⟩
    exact ⟨[c], rest, rfl, hfirst, rest, [], by simp, hrest, rfl⟩

/-- One repeated character set is all there is. -/
theorem matches_sequence_plus_char {s : CharSet} :
    Matches before cs after (sequence [.plus (.char s)]) ↔ cs ≠ [] ∧ ∀ c ∈ cs, s.contains c = true := by
  simp only [matches_sequence_cons, matches_sequence_nil, matches_plus_char]
  constructor
  · rintro ⟨u, v, rfl, hu, rfl⟩
    rw [List.append_nil]
    exact hu
  · intro h
    exact ⟨cs, [], (List.append_nil cs).symm, h, rfl⟩

theorem matches_line : Matches before cs after (sequence [.plus withinLine]) ↔ IsLine cs := by
  rw [withinLine, matches_sequence_plus_char, forall_contains_complement]
  rfl

theorem matches_items :
    Matches before cs after (sequence [.plus (.char InList.itemChars)]) ↔ IsItems cs := by
  rw [matches_sequence_plus_char]
  simp only [InList.contains_itemChars]
  rfl

end Pattern

/-! ### Accepted values -/

section

variable {marker : String} {comparison : Comparison} {arity : Arity} {s : String}

/-- A text is understood just if it is a marker and a rest that matches the pattern behind the marker. -/
theorem accepts_marker {ps : List Pattern} {rest : List Char → Prop}
    (hrest : ∀ {before cs}, Pattern.Matches before cs none (.sequence ps) ↔ rest cs) :
    ((Text.stripStart? marker.toList s.toList).isSome &&
      (Pattern.sequence (.assertion .textStart :: .text marker :: ps ++ [.assertion .textEnd])).search s) = true ↔
      ∃ cs, s.toList = marker.toList ++ cs ∧ rest cs := by
  rw [Bool.and_eq_true, Pattern.search_marker]
  simp only [hrest]
  refine and_iff_right_of_imp ?_
  rintro ⟨cs, hs, -⟩
  rw [Text.stripStart?_eq_some.2 hs]
  rfl

theorem ValueEncoding.accepts_range :
    (ValueEncoding.mk marker comparison (rangePattern marker) arity).accepts s = true ↔
      ∃ cs, s.toList = marker.toList ++ cs ∧ IsRange cs :=
  accepts_marker Pattern.matches_range

theorem ValueEncoding.accepts_number :
    (ValueEncoding.mk marker comparison (numberPattern marker) arity).accepts s = true ↔
      ∃ cs, s.toList = marker.toList ++ cs ∧ IsNumber cs :=
  accepts_marker Pattern.matches_number

theorem ValueEncoding.accepts_any :
    (ValueEncoding.mk marker comparison (anyPattern marker) arity).accepts s = true ↔
      ∃ cs, s.toList = marker.toList ++ cs ∧ IsLine cs :=
  accepts_marker Pattern.matches_line

theorem InList.accepts_iff :
    InList.accepts s = true ↔ ∃ cs, s.toList = InList.marker.toList ++ cs ∧ IsItems cs :=
  accepts_marker Pattern.matches_items

end

/-! ### Arguments -/

theorem ValueEncoding.payload_eq {e : ValueEncoding} {s : String} {cs : List Char}
    (h : s.toList = e.marker.toList ++ cs) : e.payload s = Text.trim cs := by
  rw [ValueEncoding.payload, Text.stripStart?_eq_some.2 h, Option.getD_some]

theorem ValueEncoding.arguments_one (e : ValueEncoding) (he : e.arity = .one) {s : String} {cs : List Char}
    (h : s.toList = e.marker.toList ++ cs) : e.arguments s = .text (String.ofList (Text.trim cs)) := by
  rw [ValueEncoding.arguments, ValueEncoding.payload_eq h, he]

theorem ValueEncoding.arguments_range (e : ValueEncoding) (he : e.arity = .two) {s : String}
    {cs lower upper : List Char} (h : s.toList = e.marker.toList ++ cs)
    (hcut : Text.trim cs = lower ++ '|' :: upper) (hlower : '|' ∉ lower) :
    e.arguments s = .range (String.ofList lower) (String.ofList upper) := by
  have hcut' : Text.cut? ValueEncoding.rangeSeparator (Text.trim cs) = some (lower, upper) :=
    Text.cut?_eq_some.2 ⟨hcut, hlower⟩
  rw [ValueEncoding.arguments, ValueEncoding.payload_eq h, he, hcut']

/-- The blanks at the ends of a range stand in front of its lower end and behind its upper one. -/
theorem trim_range {a : List Char} (ha : '|' ∉ a) (b : List Char) :
    Text.trim (a ++ '|' :: b) = Text.trimStart a ++ '|' :: Text.trimEnd b ∧ '|' ∉ Text.trimStart a :=
  ⟨Text.trim_append_cons (by decide) a b, fun hmem => ha ((List.dropWhile_sublist _).subset hmem)⟩

/-- A range without the blanks at its ends can be cut. -/
theorem exists_cut_of_isRange {cs : List Char} (h : IsRange cs) :
    ∃ lower upper, Text.trim cs = lower ++ '|' :: upper ∧ '|' ∉ lower := by
  obtain ⟨a, b, ⟨-, ha⟩, -, rfl⟩ := h
  exact ⟨_, _, trim_range ha b⟩

/-- The list of values behind a marker is found at once. -/
theorem InList.run_of_isItems {cs : List Char} (h : IsItems cs) : InList.run (InList.marker.toList ++ cs) = cs := by
  obtain ⟨hne, hitems⟩ := h
  have htake : cs.takeWhile InList.itemChars.contains = cs :=
    List.takeWhile_eq_self_iff.2 fun c hc => InList.contains_itemChars.2 (hitems c hc)
  have hempty : cs.isEmpty = false := by simpa using hne
  have hstrip : Text.stripStart? InList.marker.toList (InList.marker.toList ++ cs) = some cs :=
    Text.stripStart?_eq_some.2 rfl
  change InList.run ('<' :: ('<' :: '>' :: '>' :: cs)) = cs
  change Text.stripStart? InList.marker.toList ('<' :: ('<' :: '>' :: '>' :: cs)) = some cs at hstrip
  rw [InList.run, hstrip]
  simp [htake, hempty]

theorem InList.items_of_isItems {s : String} {cs : List Char} (hs : s.toList = InList.marker.toList ++ cs)
    (h : IsItems cs) :
    InList.items s = ((cs.splitOn ',').filter fun item => !item.isEmpty).map String.ofList := by
  rw [InList.items, hs, InList.run_of_isItems h, Text.splitOn_eq]

end RequestQuery
