import Mathlib.Data.List.Basic
import RequestQuery.Pattern.Basic

/-!
# What patterns match

* `Pattern.Matches` — the texts that a pattern matches between two characters, read off the expression.
* `Pattern.nullable_iff`, `Pattern.step_iff` — the empty text is matched just if `nullable` says so, and a
  longer text just if one of the steps after its first character matches the rest.
* `Pattern.searchFrom_iff`, `Pattern.search_iff` — searching finds a pattern just where it matches.
* `Pattern.search_anchored`, `Pattern.search_marker` — a pattern that is tied to both ends of a text is
  found just if it matches the whole text, where a text that it begins with can be taken away.
-/

namespace RequestQuery

theorem CharSet.contains_single {c d : Char} : (single d).contains c = true ↔ c = d := by
  simp only [single, contains, Text.CharRanges.contains, List.any_cons, List.any_nil,
    Bool.or_false, Bool.and_eq_true, decide_eq_true_eq]
  rw [← Char.toNat_inj]
  omega

theorem CharSet.contains_complement_single {c d : Char} :
    (complement (single d)).contains c = true ↔ c ≠ d := by
  rw [contains, Bool.not_eq_true', ← Bool.not_eq_true, contains_single]

namespace Pattern

/-- The texts that a pattern matches between two characters, either of which may be missing. -/
inductive Matches : Option Char → List Char → Option Char → Pattern → Prop
  | empty {before after : Option Char} : Matches before [] after .empty
  | char {before after : Option Char} {s : CharSet} {c : Char} (hc : s.contains c = true) :
    Matches before [c] after (.char s)
  | assertion {before after : Option Char} {a : Assertion} (ha : a.holds before after = true) :
    Matches before [] after (.assertion a)
  | seq {before after : Option Char} {u v : List Char} {p q : Pattern}
    (hp : Matches before u (v.head?.or after) p) (hq : Matches (u.getLast?.or before) v after q) :
    Matches before (u ++ v) after (.seq p q)
  | altLeft {before after : Option Char} {u : List Char} {p q : Pattern} (hp : Matches before u after p) :
    Matches before u after (.alt p q)
  | altRight {before after : Option Char} {u : List Char} {p q : Pattern} (hq : Matches before u after q) :
    Matches before u after (.alt p q)
  | repeatDone {before after : Option Char} {p : Pattern} {extra : Option Nat} :
    Matches before [] after (.repeat p 0 extra)
  | repeatLeast {before after : Option Char} {u v : List Char} {p : Pattern} {least : Nat}
    {extra : Option Nat} (hp : Matches before u (v.head?.or after) p)
    (hq : Matches (u.getLast?.or before) v after (.repeat p least extra)) :
    Matches before (u ++ v) after (.repeat p (least + 1) extra)
  | repeatAny {before after : Option Char} {u v : List Char} {p : Pattern}
    (hp : Matches before u (v.head?.or after) p)
    (hq : Matches (u.getLast?.or before) v after (.repeat p 0 none)) :
    Matches before (u ++ v) after (.repeat p 0 none)
  | repeatExtra {before after : Option Char} {u v : List Char} {p : Pattern} {k : Nat}
    (hp : Matches before u (v.head?.or after) p)
    (hq : Matches (u.getLast?.or before) v after (.repeat p 0 (some k))) :
    Matches before (u ++ v) after (.repeat p 0 (some (k + 1)))

variable {before after : Option Char} {w : List Char} {p q : Pattern} {c : Char}

theorem matches_empty : Matches before w after .empty ↔ w = [] := by
  constructor
  · intro h
    cases h
    rfl
  · rintro rfl
    exact .empty

theorem matches_char {s : CharSet} :
    Matches before w after (.char s) ↔ ∃ c, w = [c] ∧ s.contains c = true := by
  constructor
  · intro h
    cases h with
    | char hc => exact ⟨_, rfl, hc⟩
  · rintro ⟨c, rfl, hc⟩
    exact .char hc

theorem matches_assertion {a : Assertion} :
    Matches before w after (.assertion a) ↔ w = [] ∧ a.holds before after = true := by
  constructor
  · intro h
    cases h with
    | assertion ha => exact ⟨rfl, ha⟩
  · rintro ⟨rfl, ha⟩
    exact .assertion ha

theorem matches_seq :
    Matches before w after (.seq p q) ↔
      ∃ u v, w = u ++ v ∧ Matches before u (v.head?.or after) p ∧
        Matches (u.getLast?.or before) v after q := by
  constructor
  · intro h
    cases h with
    | seq hp hq => exact ⟨_, _, rfl, hp, hq⟩
  · rintro ⟨u, v, rfl, hp, hq⟩
    exact .seq hp hq

theorem matches_alt :
    Matches before w after (.alt p q) ↔ Matches before w after p ∨ Matches before w after q := by
  constructor
  · intro h
    cases h with
    | altLeft hp => exact .inl hp
    | altRight hq => exact .inr hq
  · rintro (hp | hq)
    · exact .altLeft hp
    · exact .altRight hq

theorem matches_andThen : Matches before w after (andThen p q) ↔ Matches before w after (.seq p q) := by
  rw [andThen]
  split
  · rename_i hempty
    subst hempty
    rw [matches_seq]
    constructor
    · intro hq
      exact ⟨[], w, rfl, .empty, hq⟩
    · rintro ⟨u, v, rfl, hp, hq⟩
      rw [matches_empty] at hp
      subst hp
      exact hq
  · rfl

/-! ### The empty text -/

theorem matches_of_nullable (h : p.nullable before after = true) : Matches before [] after p := by
  induction p with
  | empty => exact .empty
  | char s => cases h
  | assertion a => exact .assertion h
  | seq p q ihp ihq =>
    rw [nullable, Bool.and_eq_true] at h
    exact .seq (u := []) (v := []) (ihp h.1) (ihq h.2)
  | alt p q ihp ihq =>
    rw [nullable, Bool.or_eq_true] at h
    exact h.elim (fun hp => .altLeft (ihp hp)) (fun hq => .altRight (ihq hq))
  | «repeat» p least extra ihp =>
    rw [nullable, Bool.or_eq_true, beq_iff_eq] at h
    rcases h with rfl | hp
    · exact .repeatDone
    · induction least with
      | zero => exact .repeatDone
      | succ least ih => exact .repeatLeast (u := []) (v := []) (ihp hp) ih

theorem nullable_of_matches (h : Matches before w after p) (hw : w = []) :
    p.nullable before after = true := by
  induction h with
  | empty => rfl
  | char => cases hw
  | assertion ha => exact ha
  | seq _ _ ihp ihq =>
    obtain ⟨rfl, rfl⟩ := List.append_eq_nil_iff.1 hw
    rw [nullable, Bool.and_eq_true]
    exact ⟨ihp rfl, ihq rfl⟩
  | altLeft _ ih =>
    rw [nullable, ih hw]
    rfl
  | altRight _ ih =>
    rw [nullable, ih hw, Bool.or_true]
  | repeatDone => rfl
  | repeatLeast _ _ ihp _ =>
    obtain ⟨rfl, rfl⟩ := List.append_eq_nil_iff.1 hw
    have hp := ihp rfl
    rw [nullable, Bool.or_eq_true]
    exact .inr hp
  | repeatAny => rfl
  | repeatExtra => rfl

/-- A pattern matches the empty text between two characters just if it is nullable there. -/
theorem nullable_iff : p.nullable before after = true ↔ Matches before [] after p :=
  ⟨matches_of_nullable, fun h => nullable_of_matches h rfl⟩

/-! ### One more character -/

/-- One repetition more may be left out. -/
theorem Matches.repeat_succ {k : Nat} (h : Matches before w after (.repeat p 0 (some k))) :
    Matches before w after (.repeat p 0 (some (k + 1))) := by
  generalize hr : Pattern.repeat p 0 (some k) = r at h
  induction h generalizing k with
  | repeatDone =>
    cases hr
    exact .repeatDone
  | repeatExtra hp _ _ ih =>
    cases hr
    exact .repeatExtra hp (ih rfl)
  | _ => cases hr

theorem getLast?_cons_or (c : Char) (u : List Char) (before : Option Char) :
    (c :: u).getLast?.or before = u.getLast?.or (some c) := by
  cases u with
  | nil => rfl
  | cons d u => simp [List.getLast?_cons]

/-- Whether the steps of a pattern match what the pattern matches after a first character. -/
def StepsRight (p : Pattern) : Prop :=
  ∀ before after c w, (∃ r ∈ p.step before c, Matches (some c) w after r) ↔ Matches before (c :: w) after p

/-- The rests of `p` and then `q` match just what is left of a text that `p` takes the first character of,
and `q` the end. -/
theorem matches_map_andThen (hp : StepsRight p) :
    (∃ r ∈ (p.step before c).map fun r => andThen r q, Matches (some c) w after r) ↔
      ∃ u v, w = u ++ v ∧ Matches before (c :: u) (v.head?.or after) p ∧
        Matches ((c :: u).getLast?.or before) v after q := by
  simp only [List.mem_map, exists_exists_and_eq_and, matches_andThen, matches_seq, getLast?_cons_or,
    ← hp before _ c]
  constructor
  · rintro ⟨r, hr, u, v, hw, hu, hv⟩
    exact ⟨u, v, hw, ⟨r, hr, hu⟩, hv⟩
  · rintro ⟨u, v, hw, ⟨r, hr, hu⟩, hv⟩
    exact ⟨r, hr, u, v, hw, hu, hv⟩

theorem stepsRight_seq (hp : StepsRight p) (hq : StepsRight q) : StepsRight (.seq p q) := by
  intro before after c w
  rw [step, matches_seq]
  simp only [List.mem_append, or_and_right, exists_or, matches_map_andThen hp]
  constructor
  · rintro (⟨u, v, rfl, hu, hv⟩ | ⟨r, hr, hmatch⟩)
    · exact ⟨c :: u, v, rfl, hu, hv⟩
    · split at hr
      · rename_i hnull
        exact ⟨[], c :: w, rfl, matches_of_nullable hnull, (hq _ _ _ _).1 ⟨r, hr, hmatch⟩⟩
      · cases hr
  · rintro ⟨u, v, hw, hu, hv⟩
    cases u with
    | nil =>
      rw [List.nil_append] at hw
      subst hw
      have hnull : p.nullable before (some c) = true := nullable_iff.2 hu
      rw [if_pos hnull]
      exact .inr ((hq _ _ _ _).2 hv)
    | cons d u =>
      rw [List.cons_append] at hw
      cases hw
      exact .inl ⟨u, v, rfl, hu, hv⟩

theorem matches_of_stepRepeat (hp : StepsRight p) {extra : Option Nat} {least : Nat} {r : Pattern}
    (hr : r ∈ stepRepeat p (p.step before c) (p.nullable before (some c)) extra least)
    (h : Matches (some c) w after r) : Matches before (c :: w) after (.repeat p least extra) := by
  induction least with
  | zero =>
    match extra, hr with
    | none, hr =>
      obtain ⟨u, v, rfl, hu, hv⟩ := (matches_map_andThen hp).1 ⟨r, hr, h⟩
      exact .repeatAny hu hv
    | some (k + 1), hr =>
      obtain ⟨u, v, rfl, hu, hv⟩ := (matches_map_andThen hp).1 ⟨r, hr, h⟩
      exact .repeatExtra hu hv
  | succ least ih =>
    rw [stepRepeat, List.mem_append] at hr
    rcases hr with hr | hr
    · obtain ⟨u, v, rfl, hu, hv⟩ := (matches_map_andThen hp).1 ⟨r, hr, h⟩
      exact .repeatLeast hu hv
    · split at hr
      · rename_i hnull
        exact .repeatLeast (u := []) (matches_of_nullable hnull) (ih hr)
      · cases hr

/-- The other direction goes along the repetitions that match: those that match the empty text are passed
over until one takes the character. -/
theorem exists_stepRepeat (hp : StepsRight p) {extra : Option Nat} {least : Nat}
    (h : Matches before (c :: w) after (.repeat p least extra)) :
    ∃ r ∈ stepRepeat p (p.step before c) (p.nullable before (some c)) extra least,
      Matches (some c) w after r := by
  generalize hcw : c :: w = cw at h
  generalize hr : Pattern.repeat p least extra = r at h
  induction h generalizing least extra with
  | repeatDone => cases hcw
  | @repeatLeast before after u v p' least' extra' hu hv _ ihv =>
    cases hr
    rw [stepRepeat]
    simp only [List.mem_append, or_and_right, exists_or]
    cases u with
    | nil =>
      rw [List.nil_append] at hcw
      subst hcw
      have hnull : p.nullable before (some c) = true := nullable_iff.2 hu
      rw [if_pos hnull]
      exact .inr (ihv rfl rfl)
    | cons d u =>
      cases hcw
      exact .inl ((matches_map_andThen hp).2 ⟨u, v, rfl, hu, hv⟩)
  | @repeatAny before after u v p' hu hv _ ihv =>
    cases hr
    cases u with
    | nil => exact ihv hcw rfl
    | cons d u =>
      cases hcw
      exact (matches_map_andThen hp).2 ⟨u, v, rfl, hu, hv⟩
  | @repeatExtra before after u v p' k hu hv _ ihv =>
    cases hr
    cases u with
    | nil =>
      obtain ⟨r, hr, hmatch⟩ := ihv hcw rfl
      match k, hr with
      | k + 1, hr =>
        obtain ⟨u', v', hw, hu', hv'⟩ := (matches_map_andThen hp).1 ⟨r, hr, hmatch⟩
        exact (matches_map_andThen hp).2 ⟨u', v', hw, hu', hv'.repeat_succ⟩
    | cons d u =>
      cases hcw
      exact (matches_map_andThen hp).2 ⟨u, v, rfl, hu, hv⟩
  | _ => cases hr

theorem stepsRight (p : Pattern) : StepsRight p := by
  induction p with
  | empty => simp [StepsRight, step, matches_empty]
  | char s =>
    intro before after c w
    by_cases hc : s.contains c = true
    · simp [step, hc, matches_char, matches_empty]
    · simp [step, hc, matches_char]
  | assertion a => simp [StepsRight, step, matches_assertion]
  | seq p q ihp ihq => exact stepsRight_seq ihp ihq
  | alt p q ihp ihq =>
    intro before after c w
    rw [matches_alt, ← ihp, ← ihq, step]
    simp only [List.mem_append, or_and_right, exists_or]
  | «repeat» p least extra ihp =>
    intro before after c w
    exact ⟨fun ⟨_, hr, h⟩ => matches_of_stepRepeat ihp hr h, exists_stepRepeat ihp⟩

/-- A pattern matches a text that is not empty just if one of its steps after the first character matches
the rest. -/
theorem step_iff :
    (∃ r ∈ p.step before c, Matches (some c) w after r) ↔ Matches before (c :: w) after p :=
  stepsRight p before after c w

/-! ### Searching -/

/-- Whether a pattern matches the start of a text that stands behind a character. -/
def MatchesStart (p : Pattern) (before : Option Char) (cs : List Char) : Prop :=
  ∃ u v, cs = u ++ v ∧ Matches before u v.head? p

/-- Whether a pattern matches some part of a text that stands behind a character. -/
def MatchesWithin (p : Pattern) (before : Option Char) (cs : List Char) : Prop :=
  ∃ x rest, cs = x ++ rest ∧ p.MatchesStart (x.getLast?.or before) rest

theorem matchesStart_nil : p.MatchesStart before [] ↔ p.nullable before none = true := by
  rw [nullable_iff]
  constructor
  · rintro ⟨u, v, hw, h⟩
    obtain ⟨rfl, rfl⟩ := List.append_eq_nil_iff.1 hw.symm
    exact h
  · intro h
    exact ⟨[], [], rfl, h⟩

theorem matchesStart_cons {cs : List Char} :
    p.MatchesStart before (c :: cs) ↔
      p.nullable before (some c) = true ∨ ∃ r ∈ p.step before c, r.MatchesStart (some c) cs := by
  rw [nullable_iff]
  constructor
  · rintro ⟨u, v, hw, h⟩
    cases u with
    | nil =>
      rw [List.nil_append] at hw
      subst hw
      exact .inl h
    | cons d u =>
      cases hw
      obtain ⟨r, hr, hmatch⟩ := step_iff.2 h
      exact .inr ⟨r, hr, u, v, rfl, hmatch⟩
  · rintro (h | ⟨r, hr, u, v, rfl, hmatch⟩)
    · exact ⟨[], c :: cs, rfl, h⟩
    · exact ⟨c :: u, v, rfl, step_iff.1 ⟨r, hr, hmatch⟩⟩

theorem matchesWithin_nil : p.MatchesWithin before [] ↔ p.MatchesStart before [] := by
  constructor
  · rintro ⟨x, rest, hw, h⟩
    obtain ⟨rfl, rfl⟩ := List.append_eq_nil_iff.1 hw.symm
    exact h
  · intro h
    exact ⟨[], [], rfl, h⟩

theorem matchesWithin_cons {cs : List Char} :
    p.MatchesWithin before (c :: cs) ↔ p.MatchesStart before (c :: cs) ∨ p.MatchesWithin (some c) cs := by
  constructor
  · rintro ⟨x, rest, hw, h⟩
    cases x with
    | nil =>
      rw [List.nil_append] at hw
      subst hw
      exact .inl h
    | cons d x =>
      cases hw
      rw [getLast?_cons_or] at h
      exact .inr ⟨x, rest, rfl, h⟩
  · rintro (h | ⟨x, rest, rfl, h⟩)
    · exact ⟨[], c :: cs, rfl, h⟩
    · refine ⟨c :: x, rest, rfl, ?_⟩
      rw [getLast?_cons_or]
      exact h

/-- Searching holds patterns for what was begun before, and begins the pattern anew at every place. -/
theorem searchFrom_iff {states : List Pattern} {cs : List Char} :
    searchFrom p before states cs = true ↔
      (∃ q ∈ states, q.MatchesStart before cs) ∨ p.MatchesWithin before cs := by
  induction cs generalizing before states with
  | nil =>
    rw [searchFrom, List.any_eq_true, matchesWithin_nil]
    simp only [matchesStart_nil, List.exists_mem_cons_iff]
    exact or_comm
  | cons c cs ih =>
    rw [searchFrom, Bool.or_eq_true, List.any_eq_true, ih, matchesWithin_cons]
    simp only [matchesStart_cons, List.exists_mem_cons_iff, List.mem_eraseDups, List.mem_flatMap]
    grind

theorem search_iff {text : String} : p.search text = true ↔ p.MatchesWithin none text.toList := by
  rw [search, searchFrom_iff]
  simp

/-! ### Patterns for whole texts -/

theorem matches_literal {d : Char} : Matches before w after (literal d) ↔ w = [d] := by
  rw [literal, matches_char]
  simp only [CharSet.contains_single]
  simp

theorem matches_text {s : String} : Matches before w after (text s) ↔ w = s.toList := by
  rw [text]
  generalize s.toList = ds
  induction ds generalizing before w with
  | nil => exact matches_empty
  | cons d ds ih =>
    rw [List.foldr_cons, matches_seq]
    simp only [matches_literal, ih]
    constructor
    · rintro ⟨u, v, rfl, rfl, rfl⟩
      rfl
    · rintro rfl
      exact ⟨[d], ds, rfl, rfl, rfl⟩

theorem matches_star_char {s : CharSet} :
    Matches before w after (.star (.char s)) ↔ ∀ c ∈ w, s.contains c = true := by
  constructor
  · intro h
    rw [star] at h
    generalize hr : Pattern.repeat (.char s) 0 none = r at h
    induction h with
    | repeatDone => exact fun c hc => absurd hc List.not_mem_nil
    | repeatAny hu _ _ ih =>
      cases hr
      obtain ⟨c, rfl, hc⟩ := matches_char.1 hu
      exact List.forall_mem_cons.2 ⟨hc, ih rfl⟩
    | _ => cases hr
  · intro h
    induction w generalizing before with
    | nil => exact .repeatDone
    | cons c w ih =>
      obtain ⟨hc, hw⟩ := List.forall_mem_cons.1 h
      exact .repeatAny (u := [c]) (.char hc) (ih hw)

theorem matches_plus_char {s : CharSet} :
    Matches before w after (.plus (.char s)) ↔ w ≠ [] ∧ ∀ c ∈ w, s.contains c = true := by
  constructor
  · intro h
    cases h with
    | repeatLeast hu hv =>
      obtain ⟨c, rfl, hc⟩ := matches_char.1 hu
      have hw := matches_star_char.1 hv
      exact ⟨List.cons_ne_nil _ _, List.forall_mem_cons.2 ⟨hc, hw⟩⟩
  · rintro ⟨hne, h⟩
    cases w with
    | nil => exact absurd rfl hne
    | cons c w =>
      obtain ⟨hc, hw⟩ := List.forall_mem_cons.1 h
      exact .repeatLeast (u := [c]) (.char hc) (matches_star_char.2 hw)

theorem matches_sequence_nil : Matches before w after (sequence []) ↔ w = [] :=
  matches_empty

theorem matches_sequence_cons {ps : List Pattern} :
    Matches before w after (sequence (p :: ps)) ↔
      ∃ u v, w = u ++ v ∧ Matches before u (v.head?.or after) p ∧
        Matches (u.getLast?.or before) v after (sequence ps) :=
  matches_seq

theorem matches_sequence_textEnd {ps : List Pattern} :
    Matches before w after (sequence (ps ++ [.assertion .textEnd])) ↔
      after = none ∧ Matches before w after (sequence ps) := by
  induction ps generalizing before w with
  | nil =>
    simp only [List.nil_append, matches_sequence_cons, matches_assertion, matches_sequence_nil]
    constructor
    · rintro ⟨u, v, rfl, ⟨rfl, hend⟩, rfl⟩
      exact ⟨Option.isNone_iff_eq_none.1 hend, rfl⟩
    · rintro ⟨rfl, rfl⟩
      exact ⟨[], [], rfl, ⟨rfl, rfl⟩, rfl⟩
  | cons p ps ih =>
    simp only [List.cons_append, matches_sequence_cons, ih]
    constructor
    · rintro ⟨u, v, rfl, hu, hend, hv⟩
      exact ⟨hend, u, v, rfl, hu, hv⟩
    · rintro ⟨hend, u, v, rfl, hu, hv⟩
      exact ⟨u, v, rfl, hu, hend, hv⟩

/-- A pattern that is tied to both ends of a text is found just if it matches the whole text. -/
theorem search_anchored {ps : List Pattern} {text : String} :
    (sequence (.assertion .textStart :: ps ++ [.assertion .textEnd])).search text = true ↔
      Matches none text.toList none (sequence ps) := by
  rw [search_iff]
  simp only [MatchesWithin, MatchesStart, List.cons_append, matches_sequence_cons, matches_assertion,
    matches_sequence_textEnd]
  constructor
  · rintro ⟨x, rest, hw, u, v, rfl, u', v', rfl, ⟨rfl, hstart⟩, hend, h⟩
    -- nothing stands before and nothing behind what is matched
    have hx : x = [] := by simpa [Assertion.holds] using hstart
    have hv : v = [] := by simpa using hend
    subst hx hv
    simpa [hw] using h
  · intro h
    exact ⟨[], text.toList, rfl, text.toList, [], by simp, [], text.toList, rfl, ⟨rfl, rfl⟩, rfl, h⟩

/-- A pattern that is tied to both ends and begins with a marker is found in a text just if the text begins
with the marker and the pattern matches the rest. -/
theorem search_marker {marker s : String} {ps : List Pattern} :
    (sequence (.assertion .textStart :: text marker :: ps ++ [.assertion .textEnd])).search s = true ↔
      ∃ cs, s.toList = marker.toList ++ cs ∧ Matches marker.toList.getLast? cs none (sequence ps) := by
  have hanchored := @search_anchored (text marker :: ps) s
  simp only [List.cons_append] at hanchored ⊢
  rw [hanchored, matches_sequence_cons]
  simp only [matches_text]
  constructor
  · rintro ⟨u, v, hs, rfl, hv⟩
    rw [Option.or_none] at hv
    exact ⟨v, hs, hv⟩
  · rintro ⟨cs, hs, hcs⟩
    refine ⟨marker.toList, cs, hs, rfl, ?_⟩
    rw [Option.or_none]
    exact hcs

end Pattern

end RequestQuery
