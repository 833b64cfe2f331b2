import RequestQuery.Proofs.Compiler.Faults

/-!
# Conditions as JSON objects

The JSON object of a tree has the fields of the tree and the key of its groups side by side. No condition
of a query is about a field of that name, so nothing is written over.

* `StandFor` — the members of a JSON object, one for each entry of a map.
* `FilterTree.WrittenOut`, `FilterTree.toJson_writtenOut` — a tree without a field of the name of the
  groups is written out in full: one member for each field, and one for all groups.
* `Descriptor.Holds` — the conditions of a query, on the root model and on joins at any level.
* `Compiler.compile_writtenOut` — all conditions of a query are written out in full.
-/

namespace RequestQuery

/-! ### Objects of maps -/

/-- The members of a JSON object stand for a map: each entry has one member, under its name. -/
structure StandFor {κ α : Type} [Ord κ] (name : κ → String) (shows : α → Json → Prop) (m : SortedMap κ α)
    (members : List (String × Json)) : Prop where
  once : (members.map Prod.fst).Nodup
  entry : ∀ k a, m.get? k = some a → ∃ json, (name k, json) ∈ members ∧ shows a json
  only : ∀ key json, (key, json) ∈ members → ∃ k a, m.get? k = some a ∧ key = name k

section

variable {κ α : Type} [Ord κ] [Std.TransOrd κ] [Std.LawfulEqOrd κ] {name : κ → String}
  {shows : α → Json → Prop} {write : α → Json}

omit [Std.TransOrd κ] [Std.LawfulEqOrd κ] in
/-- Names that tell keys apart occur once. -/
theorem nodup_map_name [Std.LawfulEqOrd κ] (hname : ∀ j k, name j = name k → j = k)
    (m : SortedMap κ α) : (m.toList.map fun e => name e.1).Nodup := by
  refine List.pairwise_map.2 (m.sorted.imp fun {d e} hlt heq => ?_)
  rw [hname _ _ heq] at hlt
  simp at hlt

omit [Std.TransOrd κ] in
/-- Writing entry by entry gives the members that stand for a map. -/
theorem standFor_map (hname : ∀ j k, name j = name k → j = k) (hshows : ∀ a, shows a (write a))
    (m : SortedMap κ α) :
    StandFor name shows m (m.toList.map fun e => (name e.1, write e.2)) := by
  constructor
  case once =>
    rw [List.map_map]
    exact nodup_map_name hname m
  case entry =>
    intro k a hget
    have hmem := (SortedMap.mem_toList_iff m k a).2 hget
    exact ⟨write a, List.mem_map.2 ⟨(k, a), hmem, rfl⟩, hshows a⟩
  case only =>
    intro key json hmem
    obtain ⟨⟨k, a⟩, he, heq⟩ := List.mem_map.1 hmem
    cases heq
    exact ⟨k, a, (SortedMap.mem_toList_iff m k a).1 he, rfl⟩

end

theorem Comparison.ofTag?_tag (c : Comparison) : ofTag? c.tag = some c := by
  cases c <;> decide

theorem Comparison.tag_inj {b c : Comparison} (h : b.tag = c.tag) : b = c := by
  have hsome := ofTag?_tag b
  rw [h, ofTag?_tag c] at hsome
  exact (Option.some.inj hsome).symm

/-! ### Objects of conditions -/

/-- A JSON object with the comparisons of one field, each under its word. -/
def FieldConditions.Shown (conditions : FieldConditions) (json : Json) : Prop :=
  ∃ members, json = .object members ∧
    StandFor Comparison.tag (fun arguments json => arguments.toJson = json) conditions members

/-- A JSON object with the comparisons of several fields, each under its field. -/
def ConditionMap.Shown (fields : ConditionMap) (json : Json) : Prop :=
  ∃ members, json = .object members ∧ StandFor id FieldConditions.Shown fields members

theorem FieldConditions.shown_conditionsToJson (conditions : FieldConditions) :
    conditions.Shown (FilterTree.conditionsToJson conditions) :=
  ⟨_, rfl, standFor_map (fun _ _ => Comparison.tag_inj) (fun _ => rfl) conditions⟩

theorem ConditionMap.standFor_fieldsToJson (fields : ConditionMap) :
    StandFor id FieldConditions.Shown fields (FilterTree.fieldsToJson fields) :=
  standFor_map (fun _ _ h => h) FieldConditions.shown_conditionsToJson fields

namespace FilterTree

/-- The members of the JSON object of a tree: one for each field, and one for all groups if there are any. -/
structure WrittenOut (t : FilterTree) (members : List (String × Json)) : Prop where
  once : (members.map Prod.fst).Nodup
  /-- A field has its comparisons. -/
  field : ∀ field conditions, t.get? field = some conditions →
    ∃ json, (field, json) ∈ members ∧ conditions.Shown json
  /-- The groups stand in a list, one object for each. -/
  groups : t.groups ≠ [] → ∃ items, (groupsKey, .array items) ∈ members ∧
    List.Forall₂ ConditionMap.Shown t.groups items
  only : ∀ key json, (key, json) ∈ members →
    (t.get? key).isSome = true ∧ key ≠ groupsKey ∨ key = groupsKey ∧ t.groups ≠ []

/-- **A tree without a field of the name of the groups is written out in full.** -/
theorem toJson_writtenOut {t : FilterTree} (h : t.get? groupsKey = none) :
    ∃ members, t.toJson = .object members ∧ t.WrittenOut members := by
  have hfields := t.fields.standFor_fieldsToJson
  have hnotField : ∀ json, (groupsKey, json) ∉ fieldsToJson t.fields := by
    intro json hmem
    obtain ⟨field, conditions, hget, rfl⟩ := hfields.only _ _ hmem
    have hnone : t.fields.get? groupsKey = none := h
    rw [hget] at hnone
    cases hnone
  have honly : ∀ key json, (key, json) ∈ fieldsToJson t.fields →
      (t.get? key).isSome = true ∧ key ≠ groupsKey := by
    intro key json hmem
    obtain ⟨field, conditions, hget, rfl⟩ := hfields.only _ _ hmem
    refine ⟨Option.isSome_iff_exists.2 ⟨conditions, hget⟩, fun heq => ?_⟩
    rw [heq] at hmem
    exact hnotField json hmem
  have hshown : List.Forall₂ ConditionMap.Shown t.groups
      (t.groups.map fun g => .object (fieldsToJson g)) := by
    rw [List.forall₂_map_right_iff]
    exact List.forall₂_same.2 fun g _ => ⟨_, rfl, g.standFor_fieldsToJson⟩
  have hextra : t.groups = [] ∧ t.toJson = .object (fieldsToJson t.fields) ∨
      t.groups ≠ [] ∧
        t.toJson = .object (fieldsToJson t.fields ++ [(groupsKey, groupsToJson t.groups)]) := by
    rw [toJson]
    cases t.groups with
    | nil => simp
    | cons g gs => simp
  rcases hextra with ⟨hnil, hjson⟩ | ⟨hne, hjson⟩
  · exact ⟨_, hjson, hfields.once, hfields.entry, fun hne => absurd hnil hne,
      fun key json hmem => .inl (honly key json hmem)⟩
  · refine ⟨_, hjson, ?once, ?field, ?groups, ?only⟩
    case once =>
      -- the key of the groups is a new one
      rw [List.map_append, List.nodup_append]
      refine ⟨hfields.once, by simp, fun key hkey other hother => ?_⟩
      obtain ⟨⟨k, json⟩, hmem, rfl⟩ := List.mem_map.1 hkey
      rw [List.mem_singleton.1 hother]
      exact (honly k json hmem).2
    case field =>
      intro field conditions hget
      obtain ⟨json, hmem, hshows⟩ := hfields.entry field conditions hget
      exact ⟨json, List.mem_append_left _ hmem, hshows⟩
    case groups =>
      intro _
      exact ⟨_, List.mem_append_right _ (List.mem_singleton_self _), hshown⟩
    case only =>
      intro key json hmem
      rcases List.mem_append.1 hmem with hmem | hmem
      · exact .inl (honly key json hmem)
      · cases List.mem_singleton.1 hmem
        exact .inr ⟨rfl, hne⟩

end FilterTree

/-! ### The conditions of a query -/

/-- The conditions of a query: those on the root model, and those of a join at any level. -/
inductive Descriptor.Holds (d : Descriptor) : FilterTree → Prop
  | root : d.Holds d.filter
  | joined {path : List Join.Key} {j : Join} {t : FilterTree} (hj : Join.StandsBelow d.joins path j)
    (ht : t ∈ j.filter) : d.Holds t

/-- The field of a filter on the root model is the end of its path. -/
theorem FieldSpec.leaf_of_simple {spec : FieldSpec} (h : spec.isRelational = false) :
    spec.leaf = spec.field := by
  have hmem : pathSeparator ∉ spec.field.toList := by
    simpa [isRelational] using h
  rw [leaf, segments, Text.splitOn_eq, List.splitOn_eq_singleton hmem]
  simp

namespace Compiler

variable {c : Compiler} {params : Params} {d : Descriptor}

/-- No name of the whitelist leads to the field name of the groups. -/
theorem Compiled.leaf_ne (h : c.Compiled params d) {name : String} (hname : name ∈ c.whitelist) :
    (c.spec name).leaf ≠ FilterTree.groupsKey := by
  intro hleaf
  obtain ⟨e, he⟩ := exists_firstFault.2 (⟨name, hname, _, hleaf, rfl⟩ :
    ∃ name ∈ c.whitelist, ∃ e, c.ReservedName name e)
  have hvalid := h.valid
  rw [validate_error.2 he] at hvalid
  cases hvalid

/-- The conditions of a query are about fields that the whitelist stands for. -/
theorem Compiled.exists_leaf (h : c.Compiled params d) {t : FilterTree} (ht : d.Holds t)
    {field : String} (hfield : (t.get? field).isSome = true) :
    ∃ name ∈ c.whitelist, (c.spec name).leaf = field := by
  obtain ⟨conditions, hget⟩ := Option.isSome_iff_exists.1 hfield
  cases ht with
  | root =>
    have hwithin : d.filter.Within (c.operators.vocabulary c.NamesField) :=
      simpleTree_within h.filter fun f hf hsimple => namesField_of_mem_filters hf hsimple
    obtain ⟨⟨name, hname, hsimple, hspec⟩, -⟩ := hwithin.fields field conditions hget
    exact ⟨name, hname, (FieldSpec.leaf_of_simple hsimple).trans hspec⟩
  | joined hj ht =>
    obtain ⟨r, hr, hfrom⟩ := h.fromFilters hj
    obtain ⟨hnamed, -⟩ := (hfrom.conditions t ht).fields field conditions hget
    obtain ⟨-, -, name, hname, hleaf, -⟩ := namesLeaf_of_named hr hnamed
    exact ⟨name, hname, hleaf⟩

/-- **All conditions of a query are written out in full**, on the root model and on joins at any level: none
of them is about a field of the name of the groups. -/
theorem compile_writtenOut (c : Compiler) (params : Params) (d : Descriptor)
    (h : c.compile params = .ok d) (t : FilterTree) (ht : d.Holds t) :
    t.get? FilterTree.groupsKey = none ∧ ∃ members, t.toJson = .object members ∧ t.WrittenOut members := by
  have hd := compile_ok.1 h
  have hnone : t.get? FilterTree.groupsKey = none := by
    refine Option.not_isSome_iff_eq_none.1 fun hsome => ?_
    obtain ⟨name, hname, hleaf⟩ := hd.exists_leaf ht hsome
    exact hd.leaf_ne hname hleaf
  exact ⟨hnone, FilterTree.toJson_writtenOut hnone⟩

/-- The join of the author has a comparison and a group, though a parameter and a value are called like the
key of the groups. -/
theorem compile_writtenOut_lookalike : ∃ d t, blogPosts.compile lookalike = .ok d ∧ d.Holds t ∧
    (t.get? "name").isSome = true ∧ t.groups.length = 1 ∧
      t.get? FilterTree.groupsKey = none ∧ ∃ members, t.toJson = .object members ∧ t.WrittenOut members := by
  have hparts : (blogPosts.compile lookalike).toOption.map (fun d => d.joins.map fun j =>
      j.filter.map fun t => ((t.get? "name").isSome, t.groups.length)) = some [some (true, 1)] := by
    decide +kernel
  cases h : blogPosts.compile lookalike with
  | error e =>
    rw [h] at hparts
    cases hparts
  | ok d =>
    rw [h] at hparts
    obtain ⟨j, hjoins, hj⟩ := List.map_eq_singleton_iff.1 (Option.some.inj hparts)
    obtain ⟨t, ht, hcounts⟩ := Option.map_eq_some_iff.1 hj
    obtain ⟨hname, hgroups⟩ := Prod.mk.inj hcounts
    have htop : Join.StandsBelow d.joins [] j := .top (by simp [hjoins])
    have hholds : d.Holds t := .joined htop ht
    exact ⟨d, t, rfl, hholds, hname, hgroups, compile_writtenOut blogPosts lookalike d h t hholds⟩

end Compiler

end RequestQuery
