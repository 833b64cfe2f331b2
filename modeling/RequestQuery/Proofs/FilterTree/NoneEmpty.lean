import RequestQuery.Proofs.Predicate

/-!
# Trees hold nothing empty

A field comes into a tree together with a comparison, and a group together with a field. So however a tree is
built, no field is left without comparisons, and no group without alternatives.

* `ConditionMap.NoneEmpty`, `FilterTree.NoneEmpty` — nothing in the map or the tree is empty.
* `FilterTree.NoneEmpty.push`, `FilterTree.NoneEmpty.mergeMissing` — each step keeps it so.
* `FilterTree.isEmpty_iff_toJson`, `FilterTree.NoneEmpty.isEmpty_iff` — the empty tree is the one that is
  written as the empty object, and the one that makes no comparison.
* `FilterTree.Keeps`, `FilterTree.keeps_mergeMissing` — merging takes nothing away and changes nothing.
* `FilterTree.Building` — a way of building a tree; merged trees are built in their turn.
* `FilterTree.Building.holds_nothing_empty` — all this of every tree that is built.
-/

namespace RequestQuery

/-! ### Fields -/

namespace ConditionMap

/-- Whether every field has a comparison. -/
def NoneEmpty (fields : ConditionMap) : Prop :=
  ∀ field conditions, fields.get? field = some conditions → conditions.isEmpty = false

/-- Whether some field is compared with something. -/
def Compares (fields : ConditionMap) : Prop :=
  ∃ field conditions c, fields.get? field = some conditions ∧ (conditions.get? c).isSome = true

theorem noneEmpty_empty : NoneEmpty ∅ := by
  intro field conditions h
  cases h

/-- A field that is written anew must have a comparison at once, whatever it had before. -/
theorem NoneEmpty.upsert {fields : ConditionMap} {field : String}
    {f : Option FieldConditions → FieldConditions} (h : fields.NoneEmpty)
    (hf : ∀ old, (f old).isEmpty = false) : NoneEmpty (SortedMap.upsert fields field f) := by
  intro other conditions hget
  rw [SortedMap.get?_upsert] at hget
  split at hget
  · cases hget
    exact hf _
  · exact h other conditions hget

theorem NoneEmpty.push {fields : ConditionMap} (h : fields.NoneEmpty) (c : Condition) :
    (fields.push c).NoneEmpty :=
  h.upsert fun old => SortedMap.isEmpty_upsert (old.getD ∅) c.comparison _

/-- Where no field is without comparisons, there is no field just if there is no comparison. -/
theorem NoneEmpty.isEmpty_iff {fields : ConditionMap} (h : fields.NoneEmpty) :
    fields.isEmpty = true ↔ ¬ fields.Compares := by
  rw [SortedMap.isEmpty_iff_get?]
  constructor
  · intro hnone hcompares
    obtain ⟨field, conditions, c, hget, -⟩ := hcompares
    rw [hnone field] at hget
    cases hget
  · intro hnot field
    refine Option.eq_none_iff_forall_ne_some.2 fun conditions hget => hnot ?_
    obtain ⟨c, arguments, hc⟩ := SortedMap.exists_get?_of_isEmpty (h field conditions hget)
    exact ⟨field, conditions, c, hget, Option.isSome_of_eq_some hc⟩

end ConditionMap

namespace FilterTree

/-! ### Steps of building -/

theorem noneEmpty_groupOf (conditions : List Condition) : (groupOf conditions).NoneEmpty := by
  induction conditions using List.reverseRecOn with
  | nil => exact ConditionMap.noneEmpty_empty
  | append_singleton conditions c ih =>
    rw [groupOf_concat]
    exact ih.push c

/-- A tree in which nothing is empty. -/
structure NoneEmpty (t : FilterTree) : Prop where
  /-- Every field has a comparison. -/
  fields : t.fields.NoneEmpty
  /-- Every group has an alternative. -/
  groups : ∀ g ∈ t.groups, g.isEmpty = false
  /-- Every field of a group has a comparison. -/
  alternatives : ∀ g ∈ t.groups, ConditionMap.NoneEmpty g

theorem noneEmpty_empty : NoneEmpty ∅ where
  fields := ConditionMap.noneEmpty_empty
  groups := nofun
  alternatives := nofun

theorem NoneEmpty.push {t : FilterTree} (h : t.NoneEmpty) (p : Predicate) : (t.push p).NoneEmpty where
  fields := by
    cases p with
    | field c => exact h.fields.push c
    | anyOf conditions =>
      rw [fields_push_anyOf]
      exact h.fields
  groups g hg := by
    rcases mem_groups_push hg with hold | ⟨conditions, -, -, hsome⟩
    · exact h.groups g hold
    · exact hsome
  alternatives g hg := by
    rcases mem_groups_push hg with hold | ⟨conditions, -, rfl, -⟩
    · exact h.alternatives g hold
    · exact noneEmpty_groupOf conditions

theorem noneEmpty_ofPredicate (p : Predicate) : (ofPredicate p).NoneEmpty :=
  noneEmpty_empty.push p

theorem NoneEmpty.mergeMissing {t other : FilterTree} (ht : t.NoneEmpty) (hother : other.NoneEmpty) :
    (t.mergeMissing other).NoneEmpty where
  fields := by
    intro field conditions hget
    rcases get?_mergeMissing_eq_some hget with hold | ⟨added, hnew, rfl⟩
    · exact ht.fields field conditions hold
    · exact SortedMap.isEmpty_union _ (hother.fields field added hnew)
  groups g hg := (mem_groups_mergeMissing hg).elim (ht.groups g) (hother.groups g)
  alternatives g hg := (mem_groups_mergeMissing hg).elim (ht.alternatives g) (hother.alternatives g)

/-! ### Empty trees -/

/-- A tree is written as the empty object just if it is empty. -/
theorem isEmpty_iff_toJson (t : FilterTree) : t.isEmpty = true ↔ t.toJson = .object [] := by
  have hfields : fieldsToJson t.fields = [] ↔ t.fields.isEmpty = true := by
    rw [fieldsToJson, List.map_eq_nil_iff, SortedMap.isEmpty, List.isEmpty_iff]
  have hgroups : (if t.groups.isEmpty then [] else [(groupsKey, groupsToJson t.groups)]) = []
      ↔ t.groups.isEmpty = true := by
    cases t.groups.isEmpty <;> simp
  rw [isEmpty, toJson, Json.object.injEq, List.append_eq_nil_iff, hfields, hgroups, Bool.and_eq_true]

/-- Whether a tree makes any comparison, outside or inside groups. -/
def Compares (t : FilterTree) : Prop :=
  t.fields.Compares ∨ ∃ g ∈ t.groups, ConditionMap.Compares g

/-- **Where nothing is empty**, the empty tree is the one that makes no comparison. -/
theorem NoneEmpty.isEmpty_iff {t : FilterTree} (h : t.NoneEmpty) :
    t.isEmpty = true ↔ ¬ t.Compares := by
  have hgroups : t.groups.isEmpty = true ↔ ¬ ∃ g ∈ t.groups, ConditionMap.Compares g := by
    rw [List.isEmpty_iff]
    constructor
    · intro hnil hcompares
      obtain ⟨g, hg, -⟩ := hcompares
      rw [hnil] at hg
      cases hg
    · intro hnot
      refine List.eq_nil_iff_forall_not_mem.2 fun g hg => ?_
      have hsilent : ¬ ConditionMap.Compares g := fun hcompares => hnot ⟨g, hg, hcompares⟩
      rw [← (h.alternatives g hg).isEmpty_iff, h.groups g hg] at hsilent
      cases hsilent
  rw [isEmpty, Bool.and_eq_true, h.fields.isEmpty_iff, hgroups, Compares, not_or]

/-! ### What merging keeps -/

/-- Whether all that a tree holds is held by another one, unchanged. -/
structure Keeps (t s : FilterTree) : Prop where
  fields : ∀ field, (t.get? field).isSome = true → (s.get? field).isSome = true
  /-- A comparison has the arguments that it had. -/
  arguments : ∀ field c a, t.argument? field c = some a → s.argument? field c = some a
  /-- The groups stand in front, in their order. -/
  groups : t.groups <+: s.groups

theorem Keeps.refl (t : FilterTree) : t.Keeps t :=
  ⟨fun _ h => h, fun _ _ _ h => h, List.prefix_rfl⟩

theorem Keeps.trans {t s u : FilterTree} (hts : t.Keeps s) (hsu : s.Keeps u) : t.Keeps u where
  fields field h := hsu.fields field (hts.fields field h)
  arguments field c a h := hsu.arguments field c a (hts.arguments field c a h)
  groups := hts.groups.trans hsu.groups

theorem keeps_mergeMissing (t other : FilterTree) : t.Keeps (t.mergeMissing other) where
  fields field h := by
    rw [isSome_get?_mergeMissing, h, Bool.true_or]
  arguments field c a h := by
    rw [argument?_mergeMissing, h, Option.some_or]
  groups := by
    rw [groups_mergeMissing, addMissing_eq]
    exact List.prefix_append _ _

/-- What a tree holds stays there, whatever is merged into it later on. -/
theorem keeps_foldl_mergeMissing (t : FilterTree) (others : List FilterTree) :
    t.Keeps (others.foldl mergeMissing t) := by
  induction others using List.reverseRecOn with
  | nil => exact .refl t
  | append_singleton others other ih =>
    rw [List.foldl_append]
    exact ih.trans (keeps_mergeMissing _ other)

/-! ### Trees as they are built -/

/-- A way of building a tree. -/
inductive Building where
  /-- No conditions yet. -/
  | start
  | ofPredicate (p : Predicate)
  | push (before : Building) (p : Predicate)
  /-- The conditions of another tree are added as far as they are missing. -/
  | merge (before other : Building)

/-- The tree that is built. -/
def Building.tree : Building → FilterTree
  | .start => ∅
  | .ofPredicate p => .ofPredicate p
  | .push before p => before.tree.push p
  | .merge before other => before.tree.mergeMissing other.tree

theorem Building.noneEmpty (b : Building) : b.tree.NoneEmpty := by
  induction b with
  | start => exact noneEmpty_empty
  | ofPredicate p => exact noneEmpty_ofPredicate p
  | push before p ih => exact ih.push p
  | merge before other ih ihother => exact ih.mergeMissing ihother

/-- **However a tree is built, it holds nothing empty.** So the empty tree is the one that is written as the
empty object, and the one that makes no comparison; and whatever is merged into a tree, what it holds already
stays as it is. -/
theorem Building.holds_nothing_empty (b : Building) :
    b.tree.NoneEmpty ∧
    (b.tree.isEmpty = true ↔ b.tree.toJson = .object []) ∧
    (b.tree.isEmpty = true ↔ ¬ b.tree.Compares) ∧
    ∀ others : List FilterTree, b.tree.Keeps (others.foldl mergeMissing b.tree) :=
  ⟨b.noneEmpty, b.tree.isEmpty_iff_toJson, b.noneEmpty.isEmpty_iff, keeps_foldl_mergeMissing b.tree⟩

end FilterTree

end RequestQuery
