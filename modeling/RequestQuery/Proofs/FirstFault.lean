import RequestQuery.Proofs.Except

/-!
# The first fault

A relation `F` between the elements of a list and errors says what is wrong with an element. Where several
elements are at fault, the first one decides.

* `FirstFault` — the error of the first element that is at fault.
* `firstFault_cons`, `firstFault_filterMap`, `firstFault_filter` — finding it from the front, and in a list
  that was picked from another.
* `exists_firstFault` — some element decides just if some element is at fault.
* `mapM_error`, `foldlM_error` — steps that fail on the elements at fault fail with the error of the first.
* `bind_error_or`, `bind_firstFault` — computations one after the other, as a list of their faults.
-/

namespace RequestQuery

variable {ε α β γ : Type} {F : α → ε → Prop}

/-- The error of the first element of a list that is at fault. -/
def FirstFault (F : α → ε → Prop) (as : List α) (e : ε) : Prop :=
  ∃ before a after, as = before ++ a :: after ∧ F a e ∧ ∀ b ∈ before, ∀ e', ¬ F b e'

theorem FirstFault.exists_mem {as : List α} {e : ε} (h : FirstFault F as e) : ∃ a ∈ as, F a e := by
  obtain ⟨before, a, after, rfl, ha, -⟩ := h
  exact ⟨a, List.mem_append_right _ List.mem_cons_self, ha⟩

@[simp] theorem firstFault_nil {e : ε} : ¬ FirstFault F [] e := by
  intro h
  obtain ⟨a, hmem, -⟩ := h.exists_mem
  cases hmem

/-- The first element decides, or it is not at fault and the others decide. -/
theorem firstFault_cons {a : α} {as : List α} {e : ε} :
    FirstFault F (a :: as) e ↔ F a e ∨ (∀ e', ¬ F a e') ∧ FirstFault F as e := by
  constructor
  · intro h
    obtain ⟨before, b, after, heq, hb, hbefore⟩ := h
    cases before with
    | nil =>
      obtain ⟨rfl, rfl⟩ := List.cons.inj heq
      exact .inl hb
    | cons c before =>
      obtain ⟨rfl, rfl⟩ := List.cons.inj heq
      obtain ⟨ha, hrest⟩ := List.forall_mem_cons.1 hbefore
      exact .inr ⟨ha, before, b, after, rfl, hb, hrest⟩
  · intro h
    cases h with
    | inl ha => exact ⟨[], a, as, rfl, ha, nofun⟩
    | inr hrest =>
      obtain ⟨ha, before, b, after, rfl, hb, hbefore⟩ := hrest
      have hnone : ∀ d ∈ a :: before, ∀ e', ¬ F d e' := List.forall_mem_cons.2 ⟨ha, hbefore⟩
      exact ⟨a :: before, b, after, rfl, hb, hnone⟩

theorem exists_firstFault {as : List α} : (∃ e, FirstFault F as e) ↔ ∃ a ∈ as, ∃ e, F a e := by
  induction as with
  | nil => simp
  | cons a as ih =>
    simp only [firstFault_cons, List.mem_cons, exists_eq_or_imp]
    constructor
    · intro h
      obtain ⟨e, ha | ⟨-, hrest⟩⟩ := h
      · exact .inl ⟨e, ha⟩
      · exact .inr (ih.1 ⟨e, hrest⟩)
    · intro h
      by_cases ha : ∃ e, F a e
      · obtain ⟨e, ha⟩ := ha
        exact ⟨e, .inl ha⟩
      · obtain ⟨e, hrest⟩ := ih.2 (h.resolve_left ha)
        exact ⟨e, .inr ⟨fun e' he' => ha ⟨e', he'⟩, hrest⟩⟩

theorem firstFault_congr {G : α → ε → Prop} {as : List α} (h : ∀ a ∈ as, ∀ e, F a e ↔ G a e) {e : ε} :
    FirstFault F as e ↔ FirstFault G as e := by
  induction as with
  | nil => simp
  | cons a as ih =>
    obtain ⟨ha, hrest⟩ := List.forall_mem_cons.1 h
    rw [firstFault_cons, firstFault_cons, ih hrest, ha e]
    simp only [ha]

/-- In a list that was picked from another, the first fault is that of the first element of which a faulty
one was made. -/
theorem firstFault_filterMap {G : β → ε → Prop} {f : α → Option β} {as : List α} {e : ε} :
    FirstFault G (as.filterMap f) e ↔ FirstFault (fun a e => ∃ b, f a = some b ∧ G b e) as e := by
  induction as with
  | nil => simp
  | cons a as ih =>
    rw [firstFault_cons, ← ih]
    cases hf : f a with
    | none =>
      rw [List.filterMap_cons_none hf]
      simp
    | some b =>
      rw [List.filterMap_cons_some hf, firstFault_cons]
      simp

theorem firstFault_filter {p : α → Bool} {as : List α} {e : ε} :
    FirstFault F (as.filter p) e ↔ FirstFault (fun a e => p a = true ∧ F a e) as e := by
  rw [← List.filterMap_eq_filter, firstFault_filterMap]
  refine firstFault_congr fun a _ e => ?_
  simp [Option.guard, and_assoc]

/-- Where every chosen element is at fault, the first chosen one decides. -/
theorem firstFault_find? {p : α → Bool} {g : α → ε} {as : List α} {e : ε} :
    FirstFault (fun a e => p a = true ∧ e = g a) as e ↔ ∃ a, as.find? p = some a ∧ e = g a := by
  induction as with
  | nil => simp
  | cons a as ih =>
    rw [firstFault_cons, ih]
    cases hp : p a with
    | true => simp [hp]
    | false => simp [hp]

/-! ### Computations -/

/-- A computation before another fails for its own faults, or has none and the other fails. -/
theorem bind_error_or {x : Except ε β} {f : β → Except ε γ} {fault rest : ε → Prop}
    (hx : ∀ e, x = .error e ↔ fault e) (hf : ∀ b e, f b = .error e ↔ rest e) {e : ε} :
    x >>= f = .error e ↔ fault e ∨ (∀ e', ¬ fault e') ∧ rest e := by
  rw [bind_error, hx]
  refine or_congr_right ?_
  constructor
  · intro h
    obtain ⟨b, hb, hrest⟩ := h
    refine ⟨fun e' he' => ?_, (hf b e).1 hrest⟩
    rw [(hx e').2 he'] at hb
    cases hb
  · intro h
    obtain ⟨hnone, hrest⟩ := h
    cases hb : x with
    | error e' => exact absurd ((hx e').1 hb) (hnone e')
    | ok b => exact ⟨b, rfl, (hf b e).2 hrest⟩

/-- Steps of a list fail with the error of the first that fails. -/
theorem mapM_error {f : α → Except ε β} (hf : ∀ a e, f a = .error e ↔ F a e) {as : List α} {e : ε} :
    as.mapM f = .error e ↔ FirstFault F as e := by
  induction as generalizing e with
  | nil => simp [pure, Except.pure]
  | cons a as ih =>
    rw [List.mapM_cons, firstFault_cons]
    refine bind_error_or (hf a) fun b e => ?_
    rw [bind_error, ih]
    exact or_iff_left nofun

/-- The same for steps that each go on from what the one before has made, as long as this does not matter
for failing. -/
theorem foldlM_error {f : β → α → Except ε β} (hf : ∀ b a e, f b a = .error e ↔ F a e) {as : List α}
    {b : β} {e : ε} : as.foldlM f b = .error e ↔ FirstFault F as e := by
  induction as generalizing b e with
  | nil => simp [pure, Except.pure]
  | cons a as ih =>
    rw [List.foldlM_cons, firstFault_cons]
    exact bind_error_or (hf b a) fun c e => ih

/-- A computation before others adds its faults in front of theirs. -/
theorem bind_firstFault {x : Except ε β} {f : β → Except ε γ} {fault : ε → Prop}
    {faults : List (ε → Prop)} (hx : ∀ e, x = .error e ↔ fault e)
    (hf : ∀ b e, f b = .error e ↔ FirstFault id faults e) (e : ε) :
    x >>= f = .error e ↔ FirstFault id (fault :: faults) e := by
  rw [firstFault_cons]
  exact bind_error_or hx hf

end RequestQuery
