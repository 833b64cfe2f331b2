import RequestQuery.SortedMap

/-!
# Writing one map into another

* `SortedMap.get?_foldl_upsert` — the value at a key after every entry of a map was written into
  another one: each entry is written once.
* `SortedMap.union` — two maps as one, the first taking precedence, with its law `get?_union`.
* `SortedMap.mem_toList_iff` — the entries of a map are the pairs that reading it finds.
* `SortedMap.isEmpty_upsert`, `SortedMap.isEmpty_union` — what is written into is not empty.
-/

namespace RequestQuery.SortedMap

variable {κ α β : Type} [Ord κ] [Std.TransOrd κ] [Std.LawfulEqOrd κ]

/-! ### Entries and values -/

omit [Std.TransOrd κ] [Std.LawfulEqOrd κ] in
/-- An entry with another key is passed over. -/
theorem lookup_cons_of_ne {k j : κ} {a : α} {es : List (κ × α)} (h : compare j k ≠ .eq) :
    lookup j ((k, a) :: es) = lookup j es := by
  rw [lookup, if_neg h]

omit [Std.TransOrd κ] in
/-- In an ordered list of entries, the pairs in the list are the pairs that are found. -/
theorem mem_iff_lookup {es : List (κ × α)}
    (hes : es.Pairwise fun a b => compare a.1 b.1 = .lt) (k : κ) (a : α) :
    (k, a) ∈ es ↔ lookup k es = some a := by
  induction es with
  | nil => simp [lookup]
  | cons e es ih =>
    obtain ⟨j, b⟩ := e
    obtain ⟨hall, htail⟩ := List.pairwise_cons.1 hes
    by_cases hc : compare k j = .eq
    · have hkj : k = j := Std.LawfulEqCmp.eq_of_compare hc
      subst hkj
      have hnot : (k, a) ∉ es := by
        intro hmem
        have := hall _ hmem
        simp at this
      simp [lookup, hnot, eq_comm]
    · have hkj : k ≠ j := by
        rintro rfl
        simp at hc
      rw [lookup_cons_of_ne hc, ← ih htail]
      simp [hkj]

omit [Std.TransOrd κ] in
/-- The entries of a map are the pairs that reading it finds. -/
theorem mem_toList_iff (m : SortedMap κ α) (k : κ) (a : α) :
    (k, a) ∈ m.toList ↔ m.get? k = some a :=
  mem_iff_lookup m.sorted k a

omit [Std.TransOrd κ] in
/-- A map without entries is one in which nothing is found. -/
theorem isEmpty_iff_get? (m : SortedMap κ α) : m.isEmpty = true ↔ ∀ k, m.get? k = none := by
  constructor
  · intro h k
    have hnil : m.toList = [] := List.isEmpty_iff.1 h
    rw [get?, hnil, lookup]
  · intro h
    rw [isEmpty, List.isEmpty_iff, List.eq_nil_iff_forall_not_mem]
    rintro ⟨k, a⟩ hmem
    rw [mem_toList_iff, h k] at hmem
    cases hmem

omit [Std.TransOrd κ] in
/-- A map in which something is found is not empty. -/
theorem isEmpty_of_get? {m : SortedMap κ α} {k : κ} {a : α} (h : m.get? k = some a) :
    m.isEmpty = false := by
  refine Bool.eq_false_iff.2 fun hempty => ?_
  rw [(isEmpty_iff_get? m).1 hempty k] at h
  cases h

omit [Std.TransOrd κ] in
/-- In a map that is not empty, something is found. -/
theorem exists_get?_of_isEmpty {m : SortedMap κ α} (h : m.isEmpty = false) :
    ∃ k a, m.get? k = some a := by
  cases hes : m.toList with
  | nil =>
    rw [isEmpty, hes] at h
    cases h
  | cons e es =>
    have hmem : (e.1, e.2) ∈ m.toList := hes ▸ List.mem_cons_self
    exact ⟨e.1, e.2, (mem_toList_iff m e.1 e.2).1 hmem⟩

/-! ### Writing every entry -/

variable [DecidableEq κ]

/-- A map that is written into is not empty. -/
theorem isEmpty_upsert (m : SortedMap κ α) (k : κ) (f : Option α → α) :
    (m.upsert k f).isEmpty = false := by
  have hget : (m.upsert k f).get? k = some (f (m.get? k)) := by rw [get?_upsert, if_pos rfl]
  exact isEmpty_of_get? hget

/-- Writing ordered entries one after the other reaches the value at a key at most once. -/
theorem get?_foldl_upsert_list (g : β → Option α → α) (es : List (κ × β)) (acc : SortedMap κ α)
    (j : κ) (hes : es.Pairwise fun a b => compare a.1 b.1 = .lt) :
    (es.foldl (fun acc e => acc.upsert e.1 (g e.2)) acc).get? j
      = match lookup j es with
        | none => acc.get? j
        | some b => some (g b (acc.get? j)) := by
  induction es generalizing acc with
  | nil => rfl
  | cons e es ih =>
    obtain ⟨k, b⟩ := e
    obtain ⟨hall, htail⟩ := List.pairwise_cons.1 hes
    rw [List.foldl_cons, ih _ htail, get?_upsert]
    by_cases hjk : j = k
    · subst hjk
      -- the key just written does not come again
      rw [lookup_eq_none_of_lt hall]
      simp [lookup]
    · have hc : compare j k ≠ .eq := fun hc => hjk (Std.LawfulEqCmp.eq_of_compare hc)
      rw [lookup_cons_of_ne hc, if_neg hjk]

/-- What is found at a key after every entry of `m` was written into `acc`. -/
theorem get?_foldl_upsert (m : SortedMap κ β) (g : β → Option α → α) (acc : SortedMap κ α) (j : κ) :
    (m.toList.foldl (fun acc e => acc.upsert e.1 (g e.2)) acc).get? j
      = match m.get? j with
        | none => acc.get? j
        | some b => some (g b (acc.get? j)) :=
  get?_foldl_upsert_list g m.toList acc j m.sorted

/-- Two maps as one; where both have a value, the first one's stays. -/
def union (m n : SortedMap κ α) : SortedMap κ α :=
  n.toList.foldl (fun known e => known.insertIfAbsent e.1 e.2) m

theorem get?_union (m n : SortedMap κ α) (j : κ) :
    (m.union n).get? j = (m.get? j).or (n.get? j) := by
  have h := get?_foldl_upsert n (fun b (old : Option α) => old.getD b) m j
  rw [union]
  simp only [insertIfAbsent]
  rw [h]
  cases n.get? j <;> cases m.get? j <;> rfl

/-- A map with some entries of another one is not empty. -/
theorem isEmpty_union (m : SortedMap κ α) {n : SortedMap κ α} (h : n.isEmpty = false) :
    (m.union n).isEmpty = false := by
  obtain ⟨k, a, hk⟩ := exists_get?_of_isEmpty h
  have hget : (m.union n).get? k = some ((m.get? k).getD a) := by
    rw [get?_union, hk]
    cases m.get? k <;> rfl
  exact isEmpty_of_get? hget

theorem union_self (m : SortedMap κ α) : m.union m = m := by
  refine ext_get? fun j => ?_
  rw [get?_union, Option.or_self]

theorem empty_union (m : SortedMap κ α) : union empty m = m := by
  refine ext_get? fun j => ?_
  rw [get?_union, get?_empty, Option.none_or]

theorem union_assoc (m n o : SortedMap κ α) : (m.union n).union o = m.union (n.union o) := by
  refine ext_get? fun j => ?_
  rw [get?_union, get?_union, get?_union, get?_union, Option.or_assoc]

end RequestQuery.SortedMap
