import RequestQuery.Proofs.Compiler.Grounded

/-!
# The conditions on the root model

A filter on the root model is dispatched to the first operator that understands its value, and what that
operator makes of the value goes into the tree of the query. Later filters replace what earlier ones
compare a field with, comparison by comparison; searches each add a group.

* `Compiler.Dispatched` — the operator that a filter on the root model is dispatched to.
* `Compiler.Compares`, `Compiler.Searches` — what the filter of a name then has to say.
* `Compiler.Compiled.filter_eq` — the tree of a query holds what the filters on the root model ask for,
  one after the other.
* `Compiler.RootConditions`, `Compiler.compile_rootConditions` — the content of the tree, field by field
  and group by group.
-/

namespace RequestQuery

/-- Whether a group of alternatives compares each of some fields with one pattern, and nothing else. -/
def ConditionMap.Seeks (group : ConditionMap) (fields : List String) (pattern : String) : Prop :=
  ∀ field, (group.get? field).map SortedMap.toList
    = if field ∈ fields then some [(.like, .text pattern)] else none

namespace FilterTree

/-- The group of one comparison of several fields, which may be listed more than once. -/
theorem get?_groupOf_map (fields : List String) (c : Comparison) (arguments : Arguments) (field : String) :
    (groupOf (fields.map fun f => ⟨f, c, arguments⟩)).get? field
      = if field ∈ fields then some (SortedMap.insert ∅ c arguments) else none := by
  induction fields using List.reverseRecOn with
  | nil => rfl
  | append_singleton fields f ih =>
    rw [List.map_append, List.map_singleton, groupOf_concat, get?_push]
    by_cases hfield : field = f
    · subst hfield
      rw [if_pos rfl, if_pos (by simp), ih]
      -- comparing a field once more in the same way changes nothing
      by_cases hmem : field ∈ fields
      · rw [if_pos hmem]
        refine congrArg some (SortedMap.ext_get? fun other => ?_)
        simp only [Option.getD_some, SortedMap.get?_insert]
        split <;> rfl
      · rw [if_neg hmem]
        rfl
    · have hmem : field ∈ fields ++ [f] ↔ field ∈ fields := by simp [hfield]
      rw [if_neg hfield, ih]
      simp only [hmem]

theorem seeks_groupOf {fields : List String} {pattern : String} {group : ConditionMap} :
    groupOf (fields.map fun f => ⟨f, .like, .text pattern⟩) = group ↔ group.Seeks fields pattern := by
  have hgroup : ∀ field, ((groupOf (fields.map fun f => ⟨f, .like, .text pattern⟩)).get? field).map
      SortedMap.toList = if field ∈ fields then some [(.like, .text pattern)] else none := by
    intro field
    rw [get?_groupOf_map]
    split <;> rfl
  constructor
  · rintro rfl
    exact hgroup
  · intro h
    refine SortedMap.ext_get? fun field => ?_
    have hsame := (hgroup field).trans (h field).symm
    refine Option.map_injective (fun m n hmn => ?_) hsame
    cases m
    cases n
    cases hmn
    rfl

end FilterTree

namespace Compiler

/-- The filter of a name on the root model, the value that a request gives to it, and the first operator
that understands this value. -/
structure Dispatched (c : Compiler) (params : Params) (name : String) (value : Scalar) (op : Operator) :
    Prop where
  given : params.given? name = some value
  simple : (c.spec name).isRelational = false
  operator : c.operators.Dispatches value (c.spec name).field name op

theorem Dispatched.applies {c : Compiler} {params : Params} {name : String} {value : Scalar}
    {op : Operator} (h : c.Dispatched params name value op) : op.applies value name = true :=
  h.operator.1

/-- The filter of a name compares a field. -/
def Compares (c : Compiler) (params : Params) (field : String) (comparison : Comparison) (name : String)
    (arguments : Arguments) : Prop :=
  ∃ value op, c.Dispatched params name value op ∧
    op.predicate value (c.spec name).field = .field ⟨field, comparison, arguments⟩

/-- The filter of a name searches several fields. -/
def Searches (c : Compiler) (params : Params) (name : String) (group : ConditionMap) : Prop :=
  ∃ value param fields percentSafe, c.Dispatched params name value (.search param fields percentSafe) ∧
    group.Seeks fields (likePattern value.display percentSafe)

/-- The conditions on the root model that a request asks for, and those only. -/
structure RootConditions (c : Compiler) (params : Params) (d : Descriptor) : Prop where
  /-- A field occurs only with a comparison. -/
  fields : ∀ field, (d.filter.get? field).isSome = true ↔
    ∃ comparison, (d.filter.argument? field comparison).isSome = true
  /-- A comparison is made just if the filter of some name makes it. -/
  comparisons : ∀ field comparison, (d.filter.argument? field comparison).isSome = true ↔
    ∃ name ∈ c.whitelist, ∃ arguments, c.Compares params field comparison name arguments
  /-- Of the filters that make a comparison, the last one in the whitelist gives the arguments. -/
  arguments : ∀ field comparison arguments, d.filter.argument? field comparison = some arguments ↔
    LastWord (c.Compares params field comparison) c.whitelist arguments
  /-- Each search gives its group, in the order of the whitelist. -/
  groups : Collects (c.Searches params) c.whitelist d.filter.groups
  /-- Filters on other models make no difference to the conditions on the root model. -/
  ownFilters : ∀ q e, c.compile q = .ok e →
    (∀ name ∈ c.whitelist, (c.spec name).isRelational = false → params.given? name = q.given? name) →
      d.filter = e.filter
  /-- Filters on the root model make no difference to joins. -/
  otherFilters : ∀ q e, c.compile q = .ok e →
    (∀ name ∈ c.whitelist, (c.spec name).isRelational = true → params.given? name = q.given? name) →
      d.joins = e.joins
  joinless : (∀ name ∈ c.whitelist, (c.spec name).isRelational = true → params.given? name = none) →
    d.joins = []

variable {c : Compiler} {params : Params} {d : Descriptor}

/-! ### What filters ask of the root model -/

/-- What the filter of a name asks of the root model. -/
def asks? (c : Compiler) (params : Params) (name : String) : Option Predicate :=
  (params.given? name).bind fun value =>
    if (c.spec name).isRelational then none
    else (c.operators.predicate value (c.spec name).field name).toOption

theorem asks?_eq_some {name : String} {p : Predicate} :
    c.asks? params name = some p ↔
      ∃ value op, c.Dispatched params name value op ∧ op.predicate value (c.spec name).field = p := by
  have hok : ∀ value, (c.operators.predicate value (c.spec name).field name).toOption = some p ↔
      ∃ op, c.operators.Dispatches value (c.spec name).field name op ∧
        op.predicate value (c.spec name).field = p := by
    intro value
    simp only [← Operator.predicate_functions _ _ _ name, ← OperatorSet.predicate_ok]
    cases c.operators.predicate value (c.spec name).field name <;> simp [Except.toOption]
  rw [asks?, Option.bind_eq_some_iff]
  constructor
  · intro h
    obtain ⟨value, hvalue, h⟩ := h
    split at h
    · cases h
    · rename_i hsimple
      obtain ⟨op, hop, hp⟩ := (hok value).1 h
      exact ⟨value, op, ⟨hvalue, Bool.eq_false_iff.2 hsimple, hop⟩, hp⟩
  · intro h
    obtain ⟨value, op, ⟨hvalue, hsimple, hop⟩, hp⟩ := h
    refine ⟨value, hvalue, ?_⟩
    rw [hsimple, if_neg Bool.false_ne_true]
    exact (hok value).2 ⟨op, hop, hp⟩

/-- **The conditions on the root model** are what the filters ask of it, one after the other. -/
theorem Compiled.filter_eq (h : c.Compiled params d) :
    d.filter = .ofPredicates (c.whitelist.filterMap (c.asks? params)) := by
  have hfold := foldlM_map_ok h.filter
  rw [hfold, filters, presentFilters, ← List.filterMap_eq_filter, List.filterMap_filterMap,
    List.filterMap_filterMap]
  refine congrArg FilterTree.ofPredicates (List.filterMap_congr fun name _ => ?_)
  rw [presentFilter?_eq, asks?]
  cases params.given? name with
  | none => rfl
  | some value =>
    show (Option.guard _ (⟨c.spec name, value⟩ : Filter)).bind _ = _
    cases hrelational : (c.spec name).isRelational <;> simp [Option.guard, hrelational, Filter.predicate]
    rfl

theorem exists_asks?_iff {F : Predicate → Prop} {name : String} :
    (∃ p, c.asks? params name = some p ∧ F p) ↔
      ∃ value op, c.Dispatched params name value op ∧ F (op.predicate value (c.spec name).field) := by
  simp only [asks?_eq_some]
  constructor
  · rintro ⟨p, ⟨value, op, hop, rfl⟩, hp⟩
    exact ⟨value, op, hop, hp⟩
  · rintro ⟨value, op, hop, hp⟩
    exact ⟨_, ⟨value, op, hop, rfl⟩, hp⟩

/-- A predicate that compares a field is about that field and comparison. -/
theorem argument?_eq_some {p : Predicate} {field : String} {comparison : Comparison}
    {arguments : Arguments} :
    p.argument? field comparison = some arguments ↔ p = .field ⟨field, comparison, arguments⟩ := by
  cases p with
  | anyOf conditions => simp [Predicate.argument?]
  | field condition =>
    obtain ⟨f, k, as⟩ := condition
    simp [Predicate.argument?, and_assoc]

/-- Of the operators that understand a value, those that search give a group. -/
theorem groups_eq_singleton {op : Operator} {value : Scalar} {field param : String}
    {group : ConditionMap} (happlies : op.applies value param = true) :
    (op.predicate value field).groups = [group] ↔
      ∃ param fields percentSafe, op = .search param fields percentSafe ∧
        group.Seeks fields (likePattern value.display percentSafe) := by
  have hasks := Operator.predicate_asks happlies field
  cases op with
  | search param fields percentSafe =>
    have hgroups : ((Operator.search param fields percentSafe).predicate value field).groups = [group] ↔
        group.Seeks fields (likePattern value.display percentSafe) := by
      rw [← FilterTree.seeks_groupOf, Operator.predicate, Predicate.groups_anyOf hasks]
      exact List.singleton_inj
    constructor
    · intro h
      exact ⟨param, fields, percentSafe, rfl, hgroups.1 h⟩
    · intro h
      obtain ⟨_, _, _, heq, h⟩ := h
      cases heq
      exact hgroups.2 h
  | _ => simp [Operator.predicate, Predicate.groups]

/-- Of the filters that make a comparison, the last one gives the arguments. -/
theorem Compiled.argument?_filter (h : c.Compiled params d) {field : String} {comparison : Comparison}
    {arguments : Arguments} :
    d.filter.argument? field comparison = some arguments ↔
      LastWord (c.Compares params field comparison) c.whitelist arguments := by
  rw [h.filter_eq, FilterTree.argument?_ofPredicates, lastWord_filterMap]
  refine lastWord_congr fun name _ arguments => ?_
  simp only [argument?_eq_some]
  exact exists_asks?_iff

/-- Each search gives its group. -/
theorem Compiled.groups_filter (h : c.Compiled params d) :
    Collects (c.Searches params) c.whitelist d.filter.groups := by
  have hcollects := collects_flatMap fun p (_ : p ∈ c.whitelist.filterMap (c.asks? params)) =>
    p.length_groups_le
  rw [h.filter_eq, FilterTree.groups_ofPredicates]
  refine collects_congr (fun name _ group => ?_) (collects_filterMap hcollects)
  rw [exists_asks?_iff]
  constructor
  · rintro ⟨value, op, hop, hgroups⟩
    obtain ⟨param, fields, percentSafe, rfl, hgroup⟩ := (groups_eq_singleton hop.applies).1 hgroups
    exact ⟨value, param, fields, percentSafe, hop, hgroup⟩
  · rintro ⟨value, param, fields, percentSafe, hop, hgroup⟩
    exact ⟨value, _, hop,
      (groups_eq_singleton hop.applies).2 ⟨param, fields, percentSafe, rfl, hgroup⟩⟩

/-- The filter of a relational name asks nothing of the root model, whatever its value is. -/
theorem asks?_congr {q : Params} {name : String}
    (h : (c.spec name).isRelational = false → params.given? name = q.given? name) :
    c.asks? params name = c.asks? q name := by
  rw [asks?, asks?]
  cases hrelational : (c.spec name).isRelational with
  | true => cases params.given? name <;> cases q.given? name <;> rfl
  | false => rw [h hrelational]

/-! ### Joins -/

/-- Joins depend on relational filters only. -/
theorem joins_filter (filters : List Filter) :
    c.joins (filters.filter fun f => f.spec.isRelational) = c.joins filters := by
  simp only [joins, Join.ofFilters, List.find?_filter, List.filter_filter, Bool.and_self, and_self,
    Bool.decide_eq_true]

theorem filter_relational_congr {q : Params}
    (h : ∀ name ∈ c.whitelist, (c.spec name).isRelational = true → params.given? name = q.given? name) :
    (c.filters params).filter (fun f => f.spec.isRelational)
      = (c.filters q).filter fun f => f.spec.isRelational := by
  simp only [filters, presentFilters, ← List.filterMap_eq_filter, List.filterMap_filterMap]
  refine List.filterMap_congr fun name hname => ?_
  rw [presentFilter?_eq, presentFilter?_eq]
  cases hrelational : (c.spec name).isRelational with
  | true => rw [h name hname hrelational]
  | false =>
    -- whatever the filter is given, it is left out
    have hnone : ∀ value : Option Scalar,
        (value.map fun v => (⟨.ofName c.options.aliases name, v⟩ : Filter)).bind
          (Option.guard fun f => f.spec.isRelational) = none := by
      intro value
      change (FieldSpec.ofName c.options.aliases name).isRelational = false at hrelational
      cases value <;> simp [Option.guard, hrelational]
    rw [hnone, hnone]

/-- Without relational filters there are no joins. -/
theorem Compiled.joins_eq_nil (h : c.Compiled params d)
    (hnone : ∀ name ∈ c.whitelist, (c.spec name).isRelational = true → params.given? name = none) :
    d.joins = [] := by
  have hnil : (c.filters params).find? (fun f => f.spec.isRelational) = none := by
    rw [List.find?_eq_none]
    intro f hf hrelational
    obtain ⟨name, hname, hvalue, hspec⟩ := mem_filters.1 hf
    rw [hspec] at hrelational
    rw [hnone name hname hrelational] at hvalue
    cases hvalue
  have hjoins := h.joins
  rw [Compiler.joins, hnil] at hjoins
  exact (Except.ok.inj hjoins).symm

/-! ### Compiling -/

/-- **The conditions on the root model are those that its filters ask for.** -/
theorem compile_rootConditions (c : Compiler) (params : Params) (d : Descriptor)
    (h : c.compile params = .ok d) : c.RootConditions params d := by
  have hd := compile_ok.1 h
  constructor
  case fields =>
    intro field
    rw [hd.filter_eq]
    exact FilterTree.isSome_get?_ofPredicates
  case comparisons =>
    intro field comparison
    rw [Option.isSome_iff_exists, ← exists_lastWord]
    exact exists_congr fun arguments => hd.argument?_filter
  case arguments => exact fun field comparison arguments => hd.argument?_filter
  case groups => exact hd.groups_filter
  case ownFilters =>
    intro q e he hagree
    rw [hd.filter_eq, (compile_ok.1 he).filter_eq]
    refine congrArg FilterTree.ofPredicates (List.filterMap_congr fun name hname => ?_)
    exact asks?_congr (hagree name hname)
  case otherFilters =>
    intro q e he hagree
    have hjoins := hd.joins
    rw [← joins_filter, filter_relational_congr hagree, joins_filter, (compile_ok.1 he).joins] at hjoins
    exact (Except.ok.inj hjoins).symm
  case joinless => exact hd.joins_eq_nil

/-- Posts by their state, which has three names, and by the name of the author, with a search. -/
def newsroom : Compiler :=
  let options : CompilerOptions :=
    { CompilerOptions.default with
      allowedFilters := ["state", "status", "phase", "writer"]
      aliases := .ofList [("state", "status"), ("phase", "status"), ("writer", "author.name")] }
  ((ofOptions options).withSearchable [] ["title", "body"]).withModel Join.blog.association? "post"

/-- Of two states to be equal to, the later name decides; a state to differ from stands beside it, and the
author makes no condition on posts. -/
theorem compile_rootConditions_newsroom :
    let params : Params := .ofList [("state", .string "draft"), ("status", .string "!old"),
      ("phase", .string "live"), ("writer", .string "Ann"), ("search", .string "rust")]
    ∃ d, newsroom.compile params = .ok d ∧
      d.filter = .ofPredicates
        [ .field ⟨"status", .equal, .value (.text "live")⟩, .field ⟨"status", .notEqual, .text "old"⟩,
          .anyOf [⟨"title", .like, .text "%rust%"⟩, ⟨"body", .like, .text "%rust%"⟩] ] ∧
      newsroom.RootConditions params d := by
  intro params
  have hfilter : (newsroom.compile params).toOption.map (fun d => d.filter) = some (.ofPredicates
      [ .field ⟨"status", .equal, .value (.text "live")⟩, .field ⟨"status", .notEqual, .text "old"⟩,
        .anyOf [⟨"title", .like, .text "%rust%"⟩, ⟨"body", .like, .text "%rust%"⟩] ]) := by
    decide +kernel
  cases h : newsroom.compile params with
  | error e =>
    rw [h] at hfilter
    cases hfilter
  | ok d =>
    rw [h] at hfilter
    exact ⟨d, rfl, Option.some.inj hfilter, compile_rootConditions newsroom params d h⟩

end Compiler

end RequestQuery
