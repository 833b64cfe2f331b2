import RequestQuery.Join
import RequestQuery.Proofs.FilterTree

/-!
# Equal joins among siblings

* `gather` — the first of several equal joins with what the later ones bring along.
* `withKey` — the joins of a list that have a given key.
* `withKey_collapse`, `map_key_collapse` — a collapsed list key by key: one join for each key, in the
  order in which the keys occur first.
* `depthAll_joins_collapse_lt` — the lists that merging goes on with have fewer levels.
* `settle`, `merge_eq` — merging is collapsing, and then merging below each join that is left.

Merging is defined with a bound on the number of levels; `mergeWithin_eq` shows that any bound that
reaches the lowest level gives the same result, and `merge_eq` no longer mentions one.
-/

namespace RequestQuery.Join

/-! ### Taking in equal joins -/

@[simp] theorem key_absorb (j other : Join) : (j.absorb other).key = j.key := rfl

@[simp] theorem isRequired_absorb (j other : Join) :
    (j.absorb other).isRequired = (j.isRequired || other.isRequired) := rfl

@[simp] theorem filter_absorb (j other : Join) :
    (j.absorb other).filter = FilterTree.combine j.filter other.filter := rfl

@[simp] theorem joins_absorb (j other : Join) : (j.absorb other).joins = j.joins ++ other.joins := rfl

/-- Joins with the same key, requirement, conditions and joins from there are the same. -/
theorem eq_of_parts {i j : Join} (hkey : i.key = j.key) (hrequired : i.isRequired = j.isRequired)
    (hfilter : i.filter = j.filter) (hjoins : i.joins = j.joins) : i = j := by
  obtain ⟨a, m, n, r, f, js⟩ := i
  obtain ⟨b, p, q, s, g, ks⟩ := j
  cases hkey
  cases hrequired
  cases hfilter
  cases hjoins
  rfl

/-- Equal joins may be taken in one by one or several at once. -/
theorem absorb_assoc (i j k : Join) : (i.absorb j).absorb k = i.absorb (j.absorb k) := by
  refine eq_of_parts rfl ?_ ?_ ?_
  · exact Bool.or_assoc i.isRequired j.isRequired k.isRequired
  · exact FilterTree.combine_assoc i.filter j.filter k.filter
  · exact List.append_assoc i.joins j.joins k.joins

/-- The first of several equal joins with what the later ones bring along. -/
def gather (first : Join) (later : List Join) : Join :=
  later.foldl absorb first

theorem gather_concat (first : Join) (later : List Join) (j : Join) :
    gather first (later ++ [j]) = (gather first later).absorb j :=
  List.foldl_append

theorem gather_append (first : Join) (as bs : List Join) :
    gather first (as ++ bs) = gather (gather first as) bs :=
  List.foldl_append

/-- Joins that were gathered before are taken in like each of them. -/
theorem absorb_gather (j first : Join) (later : List Join) :
    j.absorb (gather first later) = gather (j.absorb first) later := by
  induction later using List.reverseRecOn with
  | nil => rfl
  | append_singleton later k ih => rw [gather_concat, gather_concat, ← absorb_assoc, ih]

@[simp] theorem key_gather (first : Join) (later : List Join) :
    (gather first later).key = first.key := by
  induction later using List.reverseRecOn with
  | nil => rfl
  | append_singleton later j ih => rw [gather_concat, key_absorb, ih]

theorem isRequired_gather (first : Join) (later : List Join) :
    (gather first later).isRequired = (first :: later).any isRequired := by
  induction later using List.reverseRecOn with
  | nil => simp [gather]
  | append_singleton later j ih =>
    rw [gather_concat, isRequired_absorb, ih, ← List.cons_append, List.any_append]
    simp

theorem joins_gather (first : Join) (later : List Join) :
    (gather first later).joins = (first :: later).flatMap joins := by
  induction later using List.reverseRecOn with
  | nil => simp [gather]
  | append_singleton later j ih =>
    rw [gather_concat, joins_absorb, ih, ← List.cons_append, List.flatMap_append]
    simp

/-! ### Collapsing, key by key -/

/-- The joins of a list that have the key `k`. -/
def withKey (joins : List Join) (k : Key) : List Join :=
  joins.filter fun j => j.key = k

@[simp] theorem withKey_nil (k : Key) : withKey [] k = [] := rfl

theorem withKey_cons (j : Join) (js : List Join) (k : Key) :
    withKey (j :: js) k = if j.key = k then j :: withKey js k else withKey js k := by
  by_cases h : j.key = k
  · rw [if_pos h, withKey, List.filter_cons_of_pos (by simpa using h), withKey]
  · rw [if_neg h, withKey, List.filter_cons_of_neg (by simpa using h), withKey]

theorem withKey_append (as bs : List Join) (k : Key) :
    withKey (as ++ bs) k = withKey as k ++ withKey bs k :=
  List.filter_append as bs

theorem mem_withKey {joins : List Join} {k : Key} {j : Join} :
    j ∈ withKey joins k ↔ j ∈ joins ∧ j.key = k := by
  rw [withKey, List.mem_filter, decide_eq_true_eq]

theorem withKey_eq_nil {joins : List Join} {k : Key} :
    withKey joins k = [] ↔ k ∉ joins.map key := by
  rw [withKey, List.filter_eq_nil_iff, List.mem_map]
  simp

/-- Several joins as at most one. -/
def fuse : List Join → List Join
  | [] => []
  | first :: later => [gather first later]

theorem fuse_concat (js : List Join) (j : Join) :
    fuse (js ++ [j]) = match fuse js with
      | [] => [j]
      | gathered :: _ => [gathered.absorb j] := by
  cases js with
  | nil => rfl
  | cons first later => exact congrArg (fun g => [g]) (gather_concat first later j)

/-- Placing a join among others touches only joins of its key, and of these the first. -/
theorem withKey_place (other : Join) (joins : List Join) (k : Key) :
    withKey (place other joins) k
      = if other.key = k then
          match withKey joins k with
          | [] => [other]
          | j :: js => j.absorb other :: js
        else withKey joins k := by
  induction joins with
  | nil =>
    rw [place, withKey_cons]
    rfl
  | cons j js ih =>
    rw [place]
    by_cases hj : j.key = other.key
    · rw [if_pos hj, withKey_cons, withKey_cons, key_absorb, hj]
      split <;> rfl
    · rw [if_neg hj, withKey_cons, withKey_cons, ih]
      by_cases hk : j.key = k
      · have hother : other.key ≠ k := fun h => hj (hk.trans h.symm)
        rw [if_pos hk, if_pos hk, if_neg hother, if_neg hother]
      · rw [if_neg hk, if_neg hk]

theorem map_key_place (other : Join) (joins : List Join) :
    (place other joins).map key
      = if (joins.map key).contains other.key then joins.map key
        else joins.map key ++ [other.key] := by
  induction joins with
  | nil => rfl
  | cons j js ih =>
    rw [place]
    by_cases hj : j.key = other.key
    · rw [if_pos hj, if_pos (by simp [hj])]
      rfl
    · rw [if_neg hj, List.map_cons, ih, List.map_cons, List.contains_cons]
      have hne : (other.key == j.key) = false := beq_false_of_ne fun h => hj h.symm
      rw [hne, Bool.false_or]
      split <;> rfl

theorem collapse_concat (joins : List Join) (j : Join) :
    collapse (joins ++ [j]) = place j (collapse joins) :=
  List.foldl_append

/-- **The joins of one key are gathered into one.** -/
theorem withKey_collapse (joins : List Join) (k : Key) :
    withKey (collapse joins) k = fuse (withKey joins k) := by
  induction joins using List.reverseRecOn with
  | nil => rfl
  | append_singleton joins j ih =>
    rw [collapse_concat, withKey_place, ih, withKey_append, withKey_cons, withKey_nil]
    by_cases hj : j.key = k
    · rw [if_pos hj, if_pos hj, fuse_concat]
      cases withKey joins k <;> rfl
    · rw [if_neg hj, if_neg hj, List.append_nil]

/-- **Each key stands where it occurs first.** -/
theorem map_key_collapse (joins : List Join) :
    (collapse joins).map key = (joins.map key).eraseDups := by
  induction joins using List.reverseRecOn with
  | nil => rfl
  | append_singleton joins j ih =>
    rw [collapse_concat, map_key_place, ih, List.map_append, List.map_singleton, eraseDups_concat]

/-- Lists with the same distinct keys and the same joins for each key are equal. -/
theorem ext_withKey {as bs : List Join} (hkeys : as.map key = bs.map key)
    (hnodup : (as.map key).Nodup) (h : ∀ k, withKey as k = withKey bs k) : as = bs := by
  induction as generalizing bs with
  | nil => exact (List.map_eq_nil_iff.1 hkeys.symm).symm
  | cons a as ih =>
    cases bs with
    | nil => cases hkeys
    | cons b bs =>
      obtain ⟨hkey, hrest⟩ := List.cons.inj hkeys
      obtain ⟨hnot, htail⟩ := List.nodup_cons.1 hnodup
      have hnot' : b.key ∉ bs.map key := by rwa [← hkey, ← hrest]
      have hhead := h a.key
      rw [withKey_cons, withKey_cons, if_pos rfl, if_pos hkey.symm, withKey_eq_nil.2 hnot, hkey,
        withKey_eq_nil.2 hnot'] at hhead
      obtain ⟨hab, -⟩ := List.cons.inj hhead
      subst hab
      have hsame : ∀ k, withKey as k = withKey bs k := by
        intro k
        have hk := h k
        rw [withKey_cons, withKey_cons] at hk
        split at hk
        · exact (List.cons.inj hk).2
        · exact hk
      rw [ih hrest htail hsame]

/-! ### Levels -/

theorem depth_eq (j : Join) : j.depth = depthAll j.joins + 1 := by
  obtain ⟨a, m, n, r, f, js⟩ := j
  rw [depth]

theorem depthAll_append (as bs : List Join) :
    depthAll (as ++ bs) = max (depthAll as) (depthAll bs) := by
  induction as with
  | nil => rw [List.nil_append, depthAll, Nat.zero_max]
  | cons a as ih => rw [List.cons_append, depthAll, depthAll, ih, Nat.max_assoc]

theorem depth_le_depthAll {j : Join} {joins : List Join} (h : j ∈ joins) :
    j.depth ≤ depthAll joins := by
  induction joins with
  | nil => cases h
  | cons k ks ih =>
    rw [depthAll]
    rcases List.mem_cons.1 h with rfl | h
    · exact Nat.le_max_left _ _
    · exact Nat.le_trans (ih h) (Nat.le_max_right _ _)

/-- The joins from a join have fewer levels than the list that the join stands in. -/
theorem depthAll_joins_lt {j : Join} {joins : List Join} (h : j ∈ joins) :
    depthAll j.joins < depthAll joins := by
  have hle := depth_le_depthAll h
  rw [depth_eq] at hle
  exact hle

theorem depth_absorb (j other : Join) : (j.absorb other).depth = max j.depth other.depth := by
  rw [depth_eq, depth_eq, depth_eq, joins_absorb, depthAll_append, Nat.add_max_add_right]

theorem depthAll_place (other : Join) (joins : List Join) :
    depthAll (place other joins) = max (depthAll joins) other.depth := by
  induction joins with
  | nil =>
    rw [place, depthAll]
    exact Nat.max_comm _ _
  | cons j js ih =>
    rw [place]
    split
    · rw [depthAll, depthAll, depth_absorb]
      omega
    · rw [depthAll, depthAll, ih]
      omega

/-- Collapsing adds no level and loses none. -/
theorem depthAll_collapse (joins : List Join) : depthAll (collapse joins) = depthAll joins := by
  induction joins using List.reverseRecOn with
  | nil => rfl
  | append_singleton joins j ih =>
    rw [collapse_concat, depthAll_place, ih, depthAll_append, depthAll, depthAll, Nat.max_zero]

/-- The lists that merging goes on with have fewer levels. -/
theorem depthAll_joins_collapse_lt {joins : List Join} {j : Join} (h : j ∈ collapse joins) :
    depthAll j.joins < depthAll joins := by
  rw [← depthAll_collapse joins]
  exact depthAll_joins_lt h

/-! ### Merging, without a bound on the levels -/

/-- Every bound that reaches the lowest level gives the same result. -/
theorem mergeWithin_eq {n m : Nat} {joins : List Join} (hn : depthAll joins ≤ n)
    (hm : depthAll joins ≤ m) : mergeWithin n joins = mergeWithin m joins := by
  induction n generalizing m joins with
  | zero =>
    cases joins with
    | nil => cases m <;> rfl
    | cons j js =>
      have hlt := depthAll_joins_lt (List.mem_cons_self (a := j) (l := js))
      omega
  | succ n ih =>
    cases m with
    | zero =>
      cases joins with
      | nil => rfl
      | cons j js =>
        have hlt := depthAll_joins_lt (List.mem_cons_self (a := j) (l := js))
        omega
    | succ m =>
      rw [mergeWithin, mergeWithin]
      refine List.map_congr_left fun j hj => ?_
      have hlt := depthAll_joins_collapse_lt hj
      rw [ih (by omega) (m := m) (by omega)]

/-- A join with the joins from there merged. -/
def settle (j : Join) : Join :=
  { j with joins := merge j.joins }

@[simp] theorem key_settle (j : Join) : j.settle.key = j.key := rfl

@[simp] theorem filter_settle (j : Join) : j.settle.filter = j.filter := rfl

/-- **Merging is collapsing, and then merging below each join that is left.** -/
theorem merge_eq (joins : List Join) : merge joins = (collapse joins).map settle := by
  cases joins with
  | nil => rfl
  | cons j js =>
    have hlt := depthAll_joins_lt (List.mem_cons_self (a := j) (l := js))
    obtain ⟨n, hn⟩ : ∃ n, depthAll (j :: js) = n + 1 := ⟨depthAll (j :: js) - 1, by omega⟩
    rw [merge, hn, mergeWithin]
    refine List.map_congr_left fun k hk => ?_
    have hlt := depthAll_joins_collapse_lt hk
    rw [hn] at hlt
    rw [settle, merge, mergeWithin_eq (Nat.le_of_lt_succ hlt) (Nat.le_refl _)]

/-- What holds of a list of joins if it holds of all lists with fewer levels holds of every list. -/
theorem levels_induction {P : List Join → Prop}
    (step : ∀ joins, (∀ others, depthAll others < depthAll joins → P others) → P joins)
    (joins : List Join) : P joins := by
  generalize hn : depthAll joins = n
  induction n using Nat.strongRecOn generalizing joins with
  | ind n ih =>
    subst hn
    exact step joins fun others hlt => ih _ hlt others rfl

/-- **The joins of one key in a merged list: they are gathered, and merged below.** -/
theorem withKey_merge (joins : List Join) (k : Key) :
    withKey (merge joins) k = (fuse (withKey joins k)).map settle := by
  rw [merge_eq, ← withKey_collapse, withKey, withKey, List.filter_map]
  rfl

theorem map_key_merge (joins : List Join) :
    (merge joins).map key = (joins.map key).eraseDups := by
  rw [merge_eq, List.map_map, ← map_key_collapse]
  rfl

/-- A list is what merging gives if it has the distinct keys in order and the right join for each. -/
theorem merge_eq_of_withKey {as bs : List Join} (hkeys : (as.map key).eraseDups = bs.map key)
    (h : ∀ k, (fuse (withKey as k)).map settle = withKey bs k) : merge as = bs := by
  refine ext_withKey ?_ ?_ fun k => ?_
  · rw [map_key_merge, hkeys]
  · rw [map_key_merge]
    exact nodup_eraseDups _
  · rw [withKey_merge, h]

end RequestQuery.Join
