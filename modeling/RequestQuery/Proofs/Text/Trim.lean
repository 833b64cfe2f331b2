import Mathlib.Data.List.TakeWhile
import RequestQuery.Text.Characters

/-!
# Blanks at the ends of texts

* `trim_append_cons` — the ends of a text are trimmed apart from each other if a character between them is
  no blank.
* `trim_padded` — blanks around a word that neither begins nor ends with one are taken away, and no more.
* `HasContent`, `trimStart_ne_nil`, `trimEnd_ne_nil`, `trim_ne_nil` — something is left of a text just if
  it has a character that is no blank.
* `isBlank_of_isDecimalDigit` — digits are no blanks.
-/

namespace RequestQuery.Text

theorem dropWhile_append_cons {p : Char → Bool} {c : Char} (hc : p c = false) (a b : List Char) :
    (a ++ c :: b).dropWhile p = a.dropWhile p ++ c :: b := by
  induction a with
  | nil => simp [hc]
  | cons d a ih =>
    by_cases hd : p d = true
    · simp [hd, ih]
    · simp [hd]

/-- Blanks at the ends of a text stand before and behind any character of it that is none. -/
theorem trim_append_cons {c : Char} (hc : isBlank c = false) (a b : List Char) :
    trim (a ++ c :: b) = trimStart a ++ c :: trimEnd b := by
  have hstart : trimStart (a ++ c :: b) = trimStart a ++ c :: b := dropWhile_append_cons hc a b
  rw [trim, hstart, trimEnd, trimEnd, List.reverse_append, List.reverse_cons, List.append_assoc,
    List.singleton_append, dropWhile_append_cons hc]
  simp

/-! ### Words among blanks -/

/-- Whether a text neither begins nor ends with a blank. -/
def IsTrimmed (cs : List Char) : Prop :=
  (∀ c ∈ cs.head?, isBlank c = false) ∧ ∀ c ∈ cs.getLast?, isBlank c = false

-- by looking at the two ends only
instance (cs : List Char) : Decidable (IsTrimmed cs) :=
  decidable_of_iff ((cs.head?.all fun c => !isBlank c) = true ∧ (cs.getLast?.all fun c => !isBlank c) = true)
    (by simp [IsTrimmed, Option.all_eq_true])

theorem trimStart_padded {before cs : List Char} (hbefore : ∀ c ∈ before, isBlank c = true)
    (hfirst : ∀ c ∈ cs.head?, isBlank c = false) : trimStart (before ++ cs) = cs := by
  rw [trimStart, List.dropWhile_append_of_pos hbefore]
  cases cs with
  | nil => rfl
  | cons c cs => simp [hfirst c rfl]

theorem trimEnd_padded {cs after : List Char} (hafter : ∀ c ∈ after, isBlank c = true)
    (hlast : ∀ c ∈ cs.getLast?, isBlank c = false) : trimEnd (cs ++ after) = cs := by
  -- from the back, the blanks behind stand in front
  have hreversed : trimStart (after.reverse ++ cs.reverse) = cs.reverse := by
    apply trimStart_padded
    · simpa using hafter
    · rw [List.head?_reverse]
      exact hlast
  show (trimStart (cs ++ after).reverse).reverse = cs
  rw [List.reverse_append, hreversed, List.reverse_reverse]

/-- Blanks around a word are taken away, and nothing of the word. -/
theorem trim_padded {before word after : List Char} (hword : IsTrimmed word) (hne : word ≠ [])
    (hbefore : ∀ c ∈ before, isBlank c = true) (hafter : ∀ c ∈ after, isBlank c = true) :
    trim (before ++ word ++ after) = word := by
  obtain ⟨hfirst, hlast⟩ := hword
  have hstart : trimStart (before ++ (word ++ after)) = word ++ after := by
    apply trimStart_padded hbefore
    obtain ⟨c, cs, rfl⟩ := List.exists_cons_of_ne_nil hne
    exact hfirst
  rw [List.append_assoc, trim, hstart]
  exact trimEnd_padded hafter hlast

/-! ### What is left -/

/-- Whether some character of a text is no blank. -/
def HasContent (cs : List Char) : Prop :=
  ∃ c ∈ cs, isBlank c = false

theorem trimStart_ne_nil {cs : List Char} : trimStart cs ≠ [] ↔ HasContent cs := by
  rw [trimStart, Ne, List.dropWhile_eq_nil_iff]
  simp [HasContent]

theorem trimEnd_ne_nil {cs : List Char} : trimEnd cs ≠ [] ↔ HasContent cs := by
  rw [trimEnd, Ne, List.reverse_eq_nil_iff, List.dropWhile_eq_nil_iff]
  simp [HasContent]

theorem trim_ne_nil {cs : List Char} : trim cs ≠ [] ↔ HasContent cs := by
  constructor
  · intro h
    apply trimStart_ne_nil.1
    intro hstart
    rw [trim, hstart] at h
    exact h rfl
  · intro ⟨c, hc, hblank⟩
    obtain ⟨a, b, rfl⟩ := List.append_of_mem hc
    rw [trim_append_cons hblank]
    simp

/-! ### Digits -/

/-- The ranges of digits and of blanks have no code point in common. -/
theorem decimalDigitRanges_blankRanges :
    ∀ r ∈ decimalDigitRanges, ∀ b ∈ blankRanges, r.2 < b.1 ∨ b.2 < r.1 := by
  decide +kernel

theorem isBlank_of_isDecimalDigit {c : Char} (h : isDecimalDigit c = true) : isBlank c = false := by
  rw [isDecimalDigit, CharRanges.contains, List.any_eq_true] at h
  obtain ⟨r, hr, hdigit⟩ := h
  rw [Bool.eq_false_iff]
  intro hblank
  rw [isBlank, CharRanges.contains, List.any_eq_true] at hblank
  obtain ⟨b, hb, hblank⟩ := hblank
  rw [Bool.and_eq_true, decide_eq_true_eq, decide_eq_true_eq] at hdigit hblank
  have hapart := decimalDigitRanges_blankRanges r hr b hb
  omega

end RequestQuery.Text
