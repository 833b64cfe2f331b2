import RequestQuery.Proofs.Equality
import RequestQuery.Proofs.Repetition
import RequestQuery.Proofs.SortedMap

/-!
# Merging filter trees

* `FilterTree.argument?` — what a tree compares a field with.
* `FilterTree.get?_mergeMissing`, `FilterTree.argument?_mergeMissing` — a merged tree field by field:
  the conditions that are there already stay.
* `FilterTree.groups_mergeMissing` — its groups: the own ones, then the new ones of the other tree.
* `FilterTree.get?_mergeMissing_eq_some`, `FilterTree.mem_groups_mergeMissing` — where the parts of a merged
  tree come from.
* `FilterTree.mergeMissing_assoc`, `FilterTree.mergeMissing_self` — bracketing does not matter, and a
  tree without NaN brings nothing new to itself.
* `FilterTree.combine` — the same for conditions that may be absent.
-/

namespace RequestQuery.FilterTree

/-- What a tree compares a field with, for one comparison. -/
def argument? (t : FilterTree) (field : String) (c : Comparison) : Option Arguments :=
  (t.get? field).bind fun conditions => conditions.get? c

@[simp] theorem get?_empty (field : String) : (∅ : FilterTree).get? field = none := rfl

/-! ### A merged tree in parts -/

/-- The comparisons of a field in a merged tree. -/
theorem get?_mergeMissing (t other : FilterTree) (field : String) :
    (t.mergeMissing other).get? field
      = match other.get? field with
        | none => t.get? field
        | some conditions => some (((t.get? field).getD ∅).union conditions) := by
  have h := SortedMap.get?_foldl_upsert other.fields
    (fun conditions (old : Option FieldConditions) => (old.getD ∅).union conditions) t.fields field
  unfold get?
  refine Eq.trans ?_ (h.trans ?_)
  · rfl
  · cases other.fields.get? field <;> rfl

/-- The groups of a merged tree. -/
theorem groups_mergeMissing (t other : FilterTree) :
    (t.mergeMissing other).groups = addMissing t.groups other.groups := rfl

/-- The comparisons of a field in a merged tree are the own ones, or the other tree has the field too. -/
theorem get?_mergeMissing_eq_some {t other : FilterTree} {field : String} {conditions : FieldConditions}
    (h : (t.mergeMissing other).get? field = some conditions) :
    t.get? field = some conditions ∨
      ∃ added, other.get? field = some added ∧ conditions = ((t.get? field).getD ∅).union added := by
  rw [get?_mergeMissing] at h
  cases hother : other.get? field with
  | none =>
    rw [hother] at h
    exact .inl h
  | some added =>
    rw [hother] at h
    exact .inr ⟨added, rfl, (Option.some.inj h).symm⟩

/-- A group of a merged tree is a group of one of the two. -/
theorem mem_groups_mergeMissing {t other : FilterTree} {g : ConditionMap}
    (h : g ∈ (t.mergeMissing other).groups) : g ∈ t.groups ∨ g ∈ other.groups := by
  rw [groups_mergeMissing, addMissing_eq] at h
  refine (List.mem_append.1 h).imp_right fun hg => ?_
  exact (List.mem_filter.1 (mem_of_mem_eraseDups hg)).1

/-- A merged tree has the fields of both. -/
theorem isSome_get?_mergeMissing (t other : FilterTree) (field : String) :
    ((t.mergeMissing other).get? field).isSome
      = ((t.get? field).isSome || (other.get? field).isSome) := by
  rw [get?_mergeMissing]
  cases other.get? field with
  | none => rw [Option.isSome_none, Bool.or_false]
  | some conditions => rw [Option.isSome_some, Option.isSome_some, Bool.or_true]

/-- A merged tree keeps the own arguments and takes the others where there are none. -/
theorem argument?_mergeMissing (t other : FilterTree) (field : String) (c : Comparison) :
    (t.mergeMissing other).argument? field c
      = (t.argument? field c).or (other.argument? field c) := by
  rw [argument?, argument?, argument?, get?_mergeMissing]
  cases other.get? field with
  | none => rw [Option.bind_none, Option.or_none]
  | some conditions =>
    cases t.get? field with
    | none => exact SortedMap.get?_union ∅ conditions c
    | some own => exact SortedMap.get?_union own conditions c

/-! ### Laws -/

/-- Trees with the same comparisons at every field and the same groups are equal. -/
theorem ext_get? {s t : FilterTree} (hfields : ∀ field, s.get? field = t.get? field)
    (hgroups : s.groups = t.groups) : s = t := by
  obtain ⟨fs, gs⟩ := s
  obtain ⟨fs', gs'⟩ := t
  have : fs = fs' := SortedMap.ext_get? hfields
  subst this
  cases hgroups
  rfl

theorem mergeMissing_assoc (s t u : FilterTree) :
    (s.mergeMissing t).mergeMissing u = s.mergeMissing (t.mergeMissing u) := by
  refine ext_get? (fun field => ?_) ?_
  · simp only [get?_mergeMissing]
    cases hu : u.get? field with
    | none => rfl
    | some conditions =>
      cases ht : t.get? field with
      | none =>
        show some _ = some (SortedMap.union _ (SortedMap.union SortedMap.empty conditions))
        rw [SortedMap.empty_union]
      | some own => exact congrArg some (SortedMap.union_assoc _ own conditions)
  · simp only [groups_mergeMissing]
    exact (addMissing_assoc s.groups t.groups u.groups).symm

/-- A tree whose groups equal themselves brings nothing new to itself. -/
theorem mergeMissing_self {t : FilterTree} (h : t.hasNaN = false) : t.mergeMissing t = t := by
  refine ext_get? (fun field => ?_) ?_
  · rw [get?_mergeMissing]
    cases t.get? field with
    | none => rfl
    | some conditions => exact congrArg some (SortedMap.union_self conditions)
  · rw [groups_mergeMissing]
    exact addMissing_of_contained fun g hg =>
      List.contains_iff_exists_mem_beq.2 ⟨g, hg, groups_beq_self h g hg⟩

/-! ### Conditions that may be absent -/

/-- Conditions with others that may be absent: absent ones add nothing, and where there are none yet
the others come to an empty tree. -/
def combine (own other : Option FilterTree) : Option FilterTree :=
  match other with
  | none => own
  | some conditions => some ((own.getD ∅).mergeMissing conditions)

theorem combine_assoc (a b c : Option FilterTree) :
    combine (combine a b) c = combine a (combine b c) := by
  cases c with
  | none => rfl
  | some t =>
    cases b with
    | none => exact congrArg some (mergeMissing_assoc (a.getD ∅) ∅ t)
    | some s => exact congrArg some (mergeMissing_assoc (a.getD ∅) s t)

theorem combine_eq_none {a b : Option FilterTree} : combine a b = none ↔ a = none ∧ b = none := by
  cases b with
  | none => simp [combine]
  | some t => simp [combine]

end RequestQuery.FilterTree
