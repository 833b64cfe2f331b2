import RequestQuery.Proofs.Join.Collapse

/-!
# What merging means along paths

A path of keys leads through a list of joins: at each level it follows every join with the next key.

* `siblingsAt`, `nodesAt` — the joins that stand below a path, and those of them that have a given key.
* `siblingsAt_merge` — following a path and merging may be exchanged.
* `Summary` — one join that says what several equal joins say together.
* `nodesAt_merge` — a merged list has one join for each path that leads anywhere, the summary of all
  joins there, and siblings stand in the order in which their keys occur first.
-/

namespace RequestQuery.Join

/-! ### Following a path -/

/-- The joins below a path: at each level, those from all joins with the next key, one after the
other. -/
def siblingsAt (joins : List Join) : List Key → List Join
  | [] => joins
  | k :: path => siblingsAt ((withKey joins k).flatMap fun j => j.joins) path

/-- The joins at the end of a path that ends in the key `k`. -/
def nodesAt (joins : List Join) (path : List Key) (k : Key) : List Join :=
  withKey (siblingsAt joins path) k

theorem siblingsAt_cons (joins : List Join) (k : Key) (path : List Key) :
    siblingsAt joins (k :: path) = siblingsAt ((withKey joins k).flatMap fun j => j.joins) path := rfl

theorem siblingsAt_append (as bs : List Join) (path : List Key) :
    siblingsAt (as ++ bs) path = siblingsAt as path ++ siblingsAt bs path := by
  induction path generalizing as bs with
  | nil => rfl
  | cons k path ih =>
    rw [siblingsAt_cons, withKey_append, List.flatMap_append, ih]
    rfl

theorem siblingsAt_nil (path : List Key) : siblingsAt [] path = [] := by
  induction path with
  | nil => rfl
  | cons k path ih => exact ih

theorem siblingsAt_concat (joins : List Join) (path : List Key) (k : Key) :
    siblingsAt joins (path ++ [k]) = (nodesAt joins path k).flatMap fun j => j.joins := by
  induction path generalizing joins with
  | nil => rfl
  | cons k' path ih => exact ih _

theorem siblingsAt_flatMap {α : Type} (as : List α) (f : α → List Join) (path : List Key) :
    siblingsAt (as.flatMap f) path = as.flatMap fun a => siblingsAt (f a) path := by
  induction as with
  | nil => exact siblingsAt_nil path
  | cons a as ih => rw [List.flatMap_cons, siblingsAt_append, ih, List.flatMap_cons]

theorem nodesAt_flatMap {α : Type} (as : List α) (f : α → List Join) (path : List Key) (k : Key) :
    nodesAt (as.flatMap f) path k = as.flatMap fun a => nodesAt (f a) path k := by
  rw [nodesAt, siblingsAt_flatMap]
  exact List.filter_flatMap

/-- The joins from the joins of one key, after merging. -/
theorem flatMap_joins_withKey_merge (joins : List Join) (k : Key) :
    (withKey (merge joins) k).flatMap (fun j => j.joins)
      = merge ((withKey joins k).flatMap fun j => j.joins) := by
  rw [withKey_merge]
  cases withKey joins k with
  | nil => rfl
  | cons first later =>
    rw [← joins_gather]
    exact List.append_nil _

/-- **Following a path and merging may be exchanged.** -/
theorem siblingsAt_merge (joins : List Join) (path : List Key) :
    siblingsAt (merge joins) path = merge (siblingsAt joins path) := by
  induction path generalizing joins with
  | nil => rfl
  | cons k path ih => rw [siblingsAt_cons, flatMap_joins_withKey_merge, ih, siblingsAt_cons]

/-! ### What a gathered join says -/

/-- The conditions of a join; none if they are absent. -/
def conditions (j : Join) : FilterTree :=
  j.filter.getD ∅

theorem conditions_absorb (j other : Join) :
    (j.absorb other).conditions = j.conditions.mergeMissing other.conditions := by
  rw [conditions, conditions, conditions, filter_absorb]
  cases other.filter <;> rfl

/-- One join that says what several equal joins say together, the first taking precedence. -/
structure Summary (first : Join) (later : List Join) (j : Join) : Prop where
  /-- It is required if one of them is. -/
  required : j.isRequired = (first :: later).any isRequired
  /-- Conditions are absent only if they are absent from all of them. -/
  absent : j.filter = none ↔ ∀ n ∈ first :: later, n.filter = none
  /-- Its fields are the fields of all of them. -/
  fields : ∀ field, (j.conditions.get? field).isSome
    = (first :: later).any fun n => (n.conditions.get? field).isSome
  /-- A comparison of a field has the arguments of the first that makes it. -/
  arguments : ∀ field c, j.conditions.argument? field c
    = (first :: later).findSome? fun n => n.conditions.argument? field c
  /-- Up to repetitions, its groups are the groups of all of them in order of first occurrence. -/
  groups : j.conditions.groups.eraseDups
    = ((first :: later).flatMap fun n => n.conditions.groups).eraseDups
  /-- A group can only be repeated among those of the first. -/
  repetitions : ∃ added, j.conditions.groups = first.conditions.groups ++ added ∧
    (∀ g ∈ added, first.conditions.groups.contains g = false) ∧
    added.Pairwise fun g h => (h == g) = false

theorem filter_gather_eq_none (first : Join) (later : List Join) :
    (gather first later).filter = none ↔ ∀ n ∈ first :: later, n.filter = none := by
  induction later using List.reverseRecOn with
  | nil => simp [gather]
  | append_singleton later j ih =>
    rw [gather_concat, filter_absorb, FilterTree.combine_eq_none, ih, ← List.cons_append]
    simp only [List.mem_append, List.mem_singleton, or_imp, forall_and, forall_eq]

theorem isSome_get?_gather (first : Join) (later : List Join) (field : String) :
    ((gather first later).conditions.get? field).isSome
      = (first :: later).any fun n => (n.conditions.get? field).isSome := by
  induction later using List.reverseRecOn with
  | nil => simp [gather]
  | append_singleton later j ih =>
    rw [gather_concat, conditions_absorb, FilterTree.isSome_get?_mergeMissing, ih, ← List.cons_append,
      List.any_append]
    simp

theorem argument?_gather (first : Join) (later : List Join) (field : String) (c : Comparison) :
    (gather first later).conditions.argument? field c
      = (first :: later).findSome? fun n => n.conditions.argument? field c := by
  induction later using List.reverseRecOn with
  | nil => simp [gather]
  | append_singleton later j ih =>
    rw [gather_concat, conditions_absorb, FilterTree.argument?_mergeMissing, ih, ← List.cons_append,
      List.findSome?_append]
    simp

theorem groups_gather (first : Join) (later : List Join) :
    (gather first later).conditions.groups
      = addMissing first.conditions.groups (later.flatMap fun n => n.conditions.groups) := by
  induction later using List.reverseRecOn with
  | nil => rfl
  | append_singleton later j ih =>
    rw [gather_concat, conditions_absorb, FilterTree.groups_mergeMissing, ih, List.flatMap_append,
      addMissing_append, List.flatMap_singleton]

/-- What the later joins add to the groups of the first is new, and stands once. -/
theorem groups_gather_repetitions (first : Join) (later : List Join) :
    ∃ added, (gather first later).conditions.groups = first.conditions.groups ++ added ∧
      (∀ g ∈ added, first.conditions.groups.contains g = false) ∧
      added.Pairwise fun g h => (h == g) = false := by
  refine ⟨_, (groups_gather first later).trans (addMissing_eq _ _), fun g hg => ?_,
    pairwise_eraseDups _⟩
  have hnew := (List.mem_filter.1 (mem_of_mem_eraseDups hg)).2
  simpa using hnew

theorem summary_settle_gather (first : Join) (later : List Join) :
    Summary first later (gather first later).settle where
  required := isRequired_gather first later
  absent := filter_gather_eq_none first later
  fields := isSome_get?_gather first later
  arguments := argument?_gather first later
  groups := by
    rw [List.flatMap_cons, ← eraseDups_addMissing, ← groups_gather]
    rfl
  repetitions := groups_gather_repetitions first later

theorem nodesAt_merge_eq (joins : List Join) (path : List Key) (k : Key) :
    nodesAt (merge joins) path k = (fuse (nodesAt joins path k)).map settle := by
  rw [nodesAt, siblingsAt_merge, withKey_merge, nodesAt]

/-- Below a path, each key stands where it occurs first. -/
theorem map_key_siblingsAt_merge (joins : List Join) (path : List Key) :
    (siblingsAt (merge joins) path).map key = ((siblingsAt joins path).map key).eraseDups := by
  rw [siblingsAt_merge, map_key_merge]

/-- **What merging means.** Where no join stands at the end of a path, none stands there in the merged
list; where some do, exactly one does, which is their summary. And below every path, the keys stand in
the order in which they occur first. -/
theorem nodesAt_merge (joins : List Join) (path : List Key) (k : Key) :
    (match nodesAt joins path k with
      | [] => nodesAt (merge joins) path k = []
      | first :: later => ∃ j, nodesAt (merge joins) path k = [j] ∧ Summary first later j) ∧
    (siblingsAt (merge joins) path).map key = ((siblingsAt joins path).map key).eraseDups := by
  refine ⟨?_, map_key_siblingsAt_merge joins path⟩
  rw [nodesAt_merge_eq]
  cases nodesAt joins path k with
  | nil => rfl
  | cons first later => exact ⟨_, rfl, summary_settle_gather first later⟩

end RequestQuery.Join
