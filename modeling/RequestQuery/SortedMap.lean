/-!
# Maps kept in key order

* `SortedMap κ α` — a finite map, held as the list of its entries with strictly increasing keys.
* `SortedMap.get?` — the value at a key.
* `SortedMap.upsert` — the one way to write: the new value is worked out from the old one, if any.
* `SortedMap.insert`, `SortedMap.insertIfAbsent` — the two common writes.
* `SortedMap.ofList` — the map of a list of entries, in which a later entry wins.

Two maps with the same value at every key are equal (`SortedMap.ext_get?`), so a law about maps can
be checked key by key.
-/

namespace RequestQuery

/-- A finite map as its list of entries, keys strictly increasing. -/
structure SortedMap (κ α : Type) [Ord κ] where
  /-- The entries, in key order. -/
  toList : List (κ × α)
  /-- Every key is smaller than the keys after it. -/
  sorted : toList.Pairwise fun a b => compare a.1 b.1 = .lt
deriving DecidableEq

namespace SortedMap

variable {κ α β : Type} [Ord κ]

/-! ### Reading -/

/-- The value of the first entry with key `k`. -/
def lookup (k : κ) : List (κ × α) → Option α
  | [] => none
  | (k', a) :: rest => if compare k k' = .eq then some a else lookup k rest

/-- The value at `k`. -/
def get? (m : SortedMap κ α) (k : κ) : Option α :=
  lookup k m.toList

/-- Whether there is a value at `k`. -/
def contains (m : SortedMap κ α) (k : κ) : Bool :=
  (m.get? k).isSome

/-- The number of entries. -/
def size (m : SortedMap κ α) : Nat :=
  m.toList.length

/-- Whether the map has no entry. -/
def isEmpty (m : SortedMap κ α) : Bool :=
  m.toList.isEmpty

/-- The map without entries. -/
def empty : SortedMap κ α :=
  ⟨[], .nil⟩

instance : EmptyCollection (SortedMap κ α) :=
  ⟨empty⟩

instance : Inhabited (SortedMap κ α) :=
  ⟨empty⟩

/-- Two maps agree when their entries do, in order. -/
instance [BEq κ] [BEq α] : BEq (SortedMap κ α) :=
  ⟨fun m n => m.toList == n.toList⟩

/-! ### Writing -/

/-- Put `f old` at `k` in an ordered list of entries, `old` being the value found there. -/
def upsertList (k : κ) (f : Option α → α) : List (κ × α) → List (κ × α)
  | [] => [(k, f none)]
  | (k', a) :: rest =>
    match compare k k' with
    | .lt => (k, f none) :: (k', a) :: rest
    | .eq => (k', f (some a)) :: rest
    | .gt => (k', a) :: upsertList k f rest

/-- A key below `k` and below every key of the list is below every key after the write. -/
theorem lt_of_mem_upsertList {k k₀ : κ} {f : Option α → α} {es : List (κ × α)}
    (hk : compare k₀ k = .lt) (hes : ∀ e ∈ es, compare k₀ e.1 = .lt) :
    ∀ e ∈ upsertList k f es, compare k₀ e.1 = .lt := by
  induction es with
  | nil => simp [upsertList, hk]
  | cons e₁ es ih =>
    obtain ⟨k₁, a₁⟩ := e₁
    have h₁ : compare k₀ k₁ = .lt := hes (k₁, a₁) (by simp)
    have hrest : ∀ e ∈ es, compare k₀ e.1 = .lt := fun e he => hes e (by simp [he])
    unfold upsertList
    split
    · intro e he
      rcases List.mem_cons.1 he with rfl | he
      · exact hk
      · exact hes e he
    · intro e he
      rcases List.mem_cons.1 he with rfl | he
      · exact h₁
      · exact hrest e he
    · intro e he
      rcases List.mem_cons.1 he with rfl | he
      · exact h₁
      · exact ih hrest e he

/-- A write keeps the entries in order. -/
theorem sorted_upsertList [Std.TransOrd κ] (k : κ) (f : Option α → α) {es : List (κ × α)}
    (h : es.Pairwise fun a b => compare a.1 b.1 = .lt) :
    (upsertList k f es).Pairwise fun a b => compare a.1 b.1 = .lt := by
  induction es with
  | nil => simp [upsertList]
  | cons e₁ es ih =>
    obtain ⟨k₁, a₁⟩ := e₁
    obtain ⟨hall, hes⟩ := List.pairwise_cons.1 h
    unfold upsertList
    split
    · next hlt =>
      refine List.pairwise_cons.2 ⟨fun e he => ?_, h⟩
      rcases List.mem_cons.1 he with rfl | he
      · exact hlt
      · exact Std.TransCmp.lt_trans hlt (hall e he)
    · exact List.pairwise_cons.2 ⟨hall, hes⟩
    · next hgt =>
      exact List.pairwise_cons.2
        ⟨lt_of_mem_upsertList (Std.OrientedCmp.lt_of_gt hgt) hall, ih hes⟩

variable [Std.TransOrd κ]

/-- Put `f old` at `k`, `old` being the value found there. -/
def upsert (m : SortedMap κ α) (k : κ) (f : Option α → α) : SortedMap κ α :=
  ⟨upsertList k f m.toList, sorted_upsertList k f m.sorted⟩

/-- Put `a` at `k`, in place of what was there. -/
def insert (m : SortedMap κ α) (k : κ) (a : α) : SortedMap κ α :=
  m.upsert k fun _ => a

/-- Put `a` at `k` unless there is a value already. -/
def insertIfAbsent (m : SortedMap κ α) (k : κ) (a : α) : SortedMap κ α :=
  m.upsert k fun old => old.getD a

/-- The map of a list of entries; a later entry with the same key wins. -/
def ofList (es : List (κ × α)) : SortedMap κ α :=
  es.foldl (fun m e => m.insert e.1 e.2) empty

/-! ### Laws -/

omit [Std.TransOrd κ] in
@[simp] theorem get?_empty (k : κ) : (empty : SortedMap κ α).get? k = none := rfl

omit [Std.TransOrd κ] in
/-- A key below every key of a list is not found in it. -/
theorem lookup_eq_none_of_lt {k : κ} {es : List (κ × α)} (h : ∀ e ∈ es, compare k e.1 = .lt) :
    lookup k es = none := by
  induction es with
  | nil => rfl
  | cons e es ih =>
    have he : compare k e.1 = .lt := h e (by simp)
    rw [lookup, if_neg (by simp [he])]
    exact ih fun e he => h e (by simp [he])

variable [Std.LawfulEqOrd κ]

/-- What is found at a key after a write, entry by entry. -/
theorem lookup_upsertList [DecidableEq κ] (k j : κ) (f : Option α → α) {es : List (κ × α)}
    (h : es.Pairwise fun a b => compare a.1 b.1 = .lt) :
    lookup j (upsertList k f es) = if j = k then some (f (lookup k es)) else lookup j es := by
  induction es with
  | nil =>
    by_cases hj : j = k
    · subst hj; simp [upsertList, lookup]
    · simp [upsertList, lookup, hj]
  | cons e₁ es ih =>
    obtain ⟨k₁, a₁⟩ := e₁
    obtain ⟨hall, hes⟩ := List.pairwise_cons.1 h
    unfold upsertList
    split
    · next hlt =>
      have hnone : lookup k ((k₁, a₁) :: es) = none := by
        refine lookup_eq_none_of_lt fun e he => ?_
        rcases List.mem_cons.1 he with rfl | he
        · exact hlt
        · exact Std.TransCmp.lt_trans hlt (hall e he)
      rw [hnone]
      by_cases hj : j = k
      · subst hj; simp [lookup]
      · simp [lookup, hj]
    · next heq =>
      have hk : k = k₁ := Std.LawfulEqCmp.eq_of_compare heq
      subst hk
      by_cases hj : j = k
      · subst hj; simp [lookup]
      · simp [lookup, hj]
    · next hgt =>
      have hk : k ≠ k₁ := by
        rintro rfl
        simp at hgt
      by_cases hj : j = k
      · subst hj
        simp [lookup, hk, ih hes]
      · simp [lookup, hj, ih hes]

/-- A write changes the value at its key only. -/
theorem get?_upsert [DecidableEq κ] (m : SortedMap κ α) (k j : κ) (f : Option α → α) :
    (m.upsert k f).get? j = if j = k then some (f (m.get? k)) else m.get? j :=
  lookup_upsertList k j f m.sorted

theorem get?_insert [DecidableEq κ] (m : SortedMap κ α) (k j : κ) (a : α) :
    (m.insert k a).get? j = if j = k then some a else m.get? j :=
  m.get?_upsert k j _

/-- Two ordered lists of entries with the same value at every key are the same list. -/
theorem eq_of_lookup_eq {es fs : List (κ × α)}
    (hes : es.Pairwise fun a b => compare a.1 b.1 = .lt)
    (hfs : fs.Pairwise fun a b => compare a.1 b.1 = .lt)
    (h : ∀ k, lookup k es = lookup k fs) : es = fs := by
  induction es generalizing fs with
  | nil =>
    cases fs with
    | nil => rfl
    | cons f fs =>
      have := h f.1
      simp [lookup] at this
  | cons e es ih =>
    obtain ⟨k, a⟩ := e
    obtain ⟨heall, hes'⟩ := List.pairwise_cons.1 hes
    cases fs with
    | nil =>
      have := h k
      simp [lookup] at this
    | cons f fs =>
      obtain ⟨j, b⟩ := f
      obtain ⟨hfall, hfs'⟩ := List.pairwise_cons.1 hfs
      have hkj : k = j := by
        rcases hc : compare k j with _ | _ | _
        · have hn : lookup k ((j, b) :: fs) = none := by
            refine lookup_eq_none_of_lt fun e he => ?_
            rcases List.mem_cons.1 he with rfl | he
            · exact hc
            · exact Std.TransCmp.lt_trans hc (hfall e he)
          have := h k
          rw [hn] at this
          simp [lookup] at this
        · exact Std.LawfulEqCmp.eq_of_compare hc
        · have hc' : compare j k = .lt := Std.OrientedCmp.lt_of_gt hc
          have hn : lookup j ((k, a) :: es) = none := by
            refine lookup_eq_none_of_lt fun e he => ?_
            rcases List.mem_cons.1 he with rfl | he
            · exact hc'
            · exact Std.TransCmp.lt_trans hc' (heall e he)
          have := h j
          rw [hn] at this
          simp [lookup] at this
      subst hkj
      have hab : a = b := by
        have := h k
        simpa [lookup] using this
      subst hab
      congr 1
      refine ih hes' hfs' fun i => ?_
      by_cases hi : i = k
      · subst hi
        rw [lookup_eq_none_of_lt heall, lookup_eq_none_of_lt hfall]
      · have := h i
        simpa [lookup, hi] using this

/-- Maps with the same value at every key are equal. -/
theorem ext_get? {m n : SortedMap κ α} (h : ∀ k, m.get? k = n.get? k) : m = n := by
  obtain ⟨es, hes⟩ := m
  obtain ⟨fs, hfs⟩ := n
  have : es = fs := eq_of_lookup_eq hes hfs h
  subst this
  rfl

end SortedMap

end RequestQuery
