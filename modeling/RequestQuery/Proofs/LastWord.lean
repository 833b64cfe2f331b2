import RequestQuery.Proofs.FirstFault

/-!
# Who has a say in a list

A relation `F` says which values an element of a list stands for, if any. Two readings of a list follow
from it: the value of the last element that has one, and the values of all elements in order.

* `LastWord` — the value of the last element that has one.
* `lastWord_concat`, `lastWord_filterMap` — finding it from the back, and in a list that was picked from
  another.
* `exists_lastWord` — there is one just if some element has a value.
* `Collects` — the values of the elements in order, elements without a value left out.
* `collects_filterMap`, `collects_congr` — the same in a list that was picked from another.
-/

namespace RequestQuery

variable {α β γ : Type} {F : α → β → Prop}

/-! ### The last word -/

/-- The value of the last element of a list that has one. -/
def LastWord (F : α → β → Prop) (as : List α) (b : β) : Prop :=
  ∃ before a after, as = before ++ a :: after ∧ F a b ∧ ∀ x ∈ after, ∀ b', ¬ F x b'

/-- Read from the back, the last word is the first. -/
theorem lastWord_iff_reverse {as : List α} {b : β} : LastWord F as b ↔ FirstFault F as.reverse b := by
  constructor
  · intro h
    obtain ⟨before, a, after, rfl, ha, hafter⟩ := h
    refine ⟨after.reverse, a, before.reverse, by simp, ha, fun x hx => ?_⟩
    exact hafter x (List.mem_reverse.1 hx)
  · intro h
    obtain ⟨before, a, after, hsplit, ha, hbefore⟩ := h
    have has : as = after.reverse ++ a :: before.reverse := by
      rw [← List.reverse_reverse as, hsplit]
      simp
    refine ⟨after.reverse, a, before.reverse, has, ha, fun x hx => ?_⟩
    exact hbefore x (List.mem_reverse.1 hx)

theorem lastWord_nil {b : β} : ¬ LastWord F [] b := by
  rw [lastWord_iff_reverse, List.reverse_nil]
  exact firstFault_nil

/-- A new element at the end has the last word, or it is silent and the others have it. -/
theorem lastWord_concat {as : List α} {a : α} {b : β} :
    LastWord F (as ++ [a]) b ↔ F a b ∨ (∀ b', ¬ F a b') ∧ LastWord F as b := by
  rw [lastWord_iff_reverse, lastWord_iff_reverse, List.reverse_append]
  exact firstFault_cons

/-- Someone has the last word just if someone has a say. -/
theorem exists_lastWord {as : List α} : (∃ b, LastWord F as b) ↔ ∃ a ∈ as, ∃ b, F a b := by
  simp only [lastWord_iff_reverse, exists_firstFault, List.mem_reverse]

theorem lastWord_congr {G : α → β → Prop} {as : List α} (h : ∀ a ∈ as, ∀ b, F a b ↔ G a b) {b : β} :
    LastWord F as b ↔ LastWord G as b := by
  rw [lastWord_iff_reverse, lastWord_iff_reverse]
  exact firstFault_congr fun a ha => h a (List.mem_reverse.1 ha)

theorem lastWord_filterMap {G : γ → β → Prop} {f : α → Option γ} {as : List α} {b : β} :
    LastWord G (as.filterMap f) b ↔ LastWord (fun a b => ∃ x, f a = some x ∧ G x b) as b := by
  rw [lastWord_iff_reverse, lastWord_iff_reverse, ← List.filterMap_reverse]
  exact firstFault_filterMap

/-! ### All words -/

/-- The values of the elements of a list in order; elements without a value are left out. -/
inductive Collects (F : α → β → Prop) : List α → List β → Prop
  | nil : Collects F [] []
  | take {a : α} {b : β} {as : List α} {bs : List β} (h : F a b) (hs : Collects F as bs) :
    Collects F (a :: as) (b :: bs)
  | skip {a : α} {as : List α} {bs : List β} (h : ∀ b, ¬ F a b) (hs : Collects F as bs) :
    Collects F (a :: as) bs

theorem collects_congr {G : α → β → Prop} {as : List α} {bs : List β}
    (h : ∀ a ∈ as, ∀ b, F a b ↔ G a b) (hs : Collects F as bs) : Collects G as bs := by
  induction hs with
  | nil => exact .nil
  | take hab _ ih =>
    obtain ⟨ha, hrest⟩ := List.forall_mem_cons.1 h
    exact .take ((ha _).1 hab) (ih hrest)
  | skip hnone _ ih =>
    obtain ⟨ha, hrest⟩ := List.forall_mem_cons.1 h
    exact .skip (fun b hb => hnone b ((ha b).2 hb)) (ih hrest)

theorem collects_filterMap {G : γ → β → Prop} {f : α → Option γ} {as : List α} {bs : List β}
    (h : Collects G (as.filterMap f) bs) : Collects (fun a b => ∃ x, f a = some x ∧ G x b) as bs := by
  induction as generalizing bs with
  | nil =>
    cases h
    exact .nil
  | cons a as ih =>
    cases hf : f a with
    | none =>
      rw [List.filterMap_cons_none hf] at h
      exact .skip (by simp [hf]) (ih h)
    | some x =>
      rw [List.filterMap_cons_some hf] at h
      cases h with
      | take hx hs => exact .take ⟨x, hf, hx⟩ (ih hs)
      | skip hnone hs =>
        refine .skip (fun b hb => ?_) (ih hs)
        obtain ⟨y, hy, hyb⟩ := hb
        rw [hf] at hy
        cases hy
        exact hnone b hyb

/-- Lists of at most one value, one after the other, are collected. -/
theorem collects_flatMap {f : α → List β} {as : List α} (hone : ∀ a ∈ as, (f a).length ≤ 1) :
    Collects (fun a b => f a = [b]) as (as.flatMap f) := by
  induction as with
  | nil => exact .nil
  | cons a as ih =>
    obtain ⟨ha, hrest⟩ := List.forall_mem_cons.1 hone
    rw [List.flatMap_cons]
    cases hf : f a with
    | nil => exact .skip (by simp [hf]) (ih hrest)
    | cons b bs =>
      have hbs : bs = [] := by
        rw [hf, List.length_cons] at ha
        exact List.eq_nil_of_length_eq_zero (by omega)
      rw [hbs] at hf ⊢
      exact .take hf (ih hrest)

end RequestQuery
