import Mathlib.Data.List.Forall2

/-!
# Computations that may fail

* `bind_ok`, `bind_error` — two steps succeed just if the first does and then the second, and fail just if
  one of them does.
* `ok_bind` — a first step that succeeds leaves the second.
* `exists_ok_of_map_toOption` — what can be read off a result shows that there is one.
* `mapM_ok` — the steps of a list succeed just if each of them does.
* `mapM_congr`, `foldlM_congr` — steps matter only on the elements of the list.
* `foldlM_preserves` — what every step keeps, all steps keep.
* `foldlM_map_ok` — where each step puts one result into what was made before, the results can be made
  first.
* `StepsCommute`, `foldlM_perm` — steps that may change places can be made in any order.
-/

namespace RequestQuery

variable {ε α β γ : Type}

theorem bind_ok {x : Except ε α} {f : α → Except ε β} {b : β} :
    x >>= f = .ok b ↔ ∃ a, x = .ok a ∧ f a = .ok b := by
  cases x with
  | error e => simp [bind, Except.bind]
  | ok a => simp [bind, Except.bind]

theorem bind_error {x : Except ε α} {f : α → Except ε β} {e : ε} :
    x >>= f = .error e ↔ x = .error e ∨ ∃ a, x = .ok a ∧ f a = .error e := by
  cases x with
  | error e' => simp [bind, Except.bind]
  | ok a => simp [bind, Except.bind]

/-- A first step that succeeds is not seen any more. -/
theorem ok_bind (a : α) (f : α → Except ε β) : Except.ok a >>= f = f a := by
  simp only [bind, Except.bind]

/-- What can be read off a result shows that there is one. -/
theorem exists_ok_of_map_toOption {x : Except ε α} {f : α → β} {b : β}
    (h : x.toOption.map f = some b) : ∃ a, x = .ok a ∧ f a = b := by
  cases x with
  | error e => cases h
  | ok a => exact ⟨a, rfl, Option.some.inj h⟩

theorem mapM_ok {f : α → Except ε β} {as : List α} {bs : List β} :
    as.mapM f = .ok bs ↔ List.Forall₂ (fun a b => f a = .ok b) as bs := by
  induction as generalizing bs with
  | nil =>
    rw [List.mapM_nil, List.forall₂_nil_left_iff]
    constructor
    · intro h
      cases h
      rfl
    · rintro rfl
      rfl
  | cons a as ih =>
    rw [List.mapM_cons, bind_ok, List.forall₂_cons_left_iff]
    constructor
    · rintro ⟨b, hb, h⟩
      obtain ⟨bs', hbs, h⟩ := bind_ok.1 h
      cases h
      exact ⟨b, bs', hb, ih.1 hbs, rfl⟩
    · rintro ⟨b, bs', hb, hbs, rfl⟩
      exact ⟨b, hb, bind_ok.2 ⟨bs', ih.2 hbs, rfl⟩⟩

theorem mapM_congr {f g : α → Except ε β} {as : List α} (h : ∀ a ∈ as, f a = g a) :
    as.mapM f = as.mapM g := by
  induction as with
  | nil => rfl
  | cons a as ih =>
    obtain ⟨ha, hrest⟩ := List.forall_mem_cons.1 h
    rw [List.mapM_cons, List.mapM_cons, ha, ih hrest]

theorem foldlM_congr {f g : β → α → Except ε β} {as : List α} (h : ∀ a ∈ as, ∀ b, f b a = g b a) (b : β) :
    as.foldlM f b = as.foldlM g b := by
  induction as generalizing b with
  | nil => rfl
  | cons a as ih =>
    obtain ⟨ha, hrest⟩ := List.forall_mem_cons.1 h
    rw [List.foldlM_cons, List.foldlM_cons, ha b]
    exact bind_congr fun c => ih hrest c

theorem foldlM_preserves {f : β → α → Except ε β} {P : β → Prop} {as : List α} {b b' : β}
    (step : ∀ a ∈ as, ∀ b b', P b → f b a = .ok b' → P b') (hb : P b)
    (h : as.foldlM f b = .ok b') : P b' := by
  induction as generalizing b with
  | nil =>
    cases h
    exact hb
  | cons a as ih =>
    rw [List.foldlM_cons] at h
    obtain ⟨c, hc, h⟩ := bind_ok.1 h
    have hnext : P c := step a List.mem_cons_self b c hb hc
    exact ih (fun a ha => step a (List.mem_cons_of_mem _ ha)) hnext h

theorem foldlM_map_ok {g : α → Except ε γ} {put : β → γ → β} {as : List α} {b b' : β}
    (h : as.foldlM (fun b a => (g a).map (put b)) b = .ok b') :
    b' = (as.filterMap fun a => (g a).toOption).foldl put b := by
  induction as generalizing b with
  | nil =>
    cases h
    rfl
  | cons a as ih =>
    rw [List.foldlM_cons] at h
    obtain ⟨next, hnext, h⟩ := bind_ok.1 h
    cases hga : g a with
    | error e =>
      rw [hga] at hnext
      cases hnext
    | ok x =>
      rw [hga] at hnext
      cases hnext
      rw [List.filterMap_cons, hga]
      exact ih h

/-! ### The order of steps -/

/-- Two elements whose steps may change places. -/
def StepsCommute (f : β → α → Except ε β) (a a' : α) : Prop :=
  ∀ b, (f b a >>= fun c => f c a') = (f b a' >>= fun c => f c a)

theorem StepsCommute.symm {f : β → α → Except ε β} {a a' : α} (h : StepsCommute f a a') :
    StepsCommute f a' a :=
  fun b => (h b).symm

theorem foldlM_perm {f : β → α → Except ε β} {as as' : List α} (hperm : as.Perm as')
    (h : as.Pairwise (StepsCommute f)) (b : β) : as.foldlM f b = as'.foldlM f b := by
  induction hperm generalizing b with
  | nil => rfl
  | cons a _ ih =>
    obtain ⟨-, hrest⟩ := List.pairwise_cons.1 h
    rw [List.foldlM_cons, List.foldlM_cons]
    exact bind_congr fun c => ih hrest c
  | swap a a' as =>
    obtain ⟨hswap, -⟩ := List.pairwise_cons.1 h
    simp only [List.foldlM_cons, ← bind_assoc]
    rw [hswap a List.mem_cons_self b]
  | trans hfirst _ ih ih' =>
    have hnext := (hfirst.pairwise_iff StepsCommute.symm).1 h
    rw [ih h, ih' hnext]

end RequestQuery
