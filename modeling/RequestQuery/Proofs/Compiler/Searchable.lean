import RequestQuery.Proofs.Compiler.Faults
import RequestQuery.Proofs.Repetition

/-!
# Operators for parameters that are not given

Operators may be put in front of others to bring parameters of their own along. A request that gives none of
these parameters is answered as without them.

* `OperatorFunctions.MindsOwn` — an operator that understands only the parameters that it brings along.
* `OperatorSet.AgreeOn` — operators that ask the same for some filters; conditions and joins depend on
  operators in no other way (`simpleTree_congr`, `Compiler.joins_congr`).
* `Compiler.compile_map_functions` — a compiler sees no more of its operators than what they do.
* `Compiler.filters_append` — parameters that are not given make no filters, wherever the whitelist has them.
* `Compiler.compile_append`, `Compiler.compile_extended` — operators in front that mind their own parameters
  change nothing for a request without these, be they of the same type as the others or not.
* `Compiler.compile_searchable` — the same for the operators that match parts of texts and search.
-/

namespace RequestQuery

/-- A parameter that is not there is not given. -/
theorem Params.given?_of_not_contains {params : Params} {name : String}
    (h : params.contains name = false) : params.given? name = none := by
  have hnone : params.get? name = none := by
    rw [get?]
    simpa [contains, SortedMap.contains] using h
  rw [given?, scalar?, hnone]
  rfl

/-! ### Operators in front -/

/-- An operator that understands no values but those of the parameters that it brings along. -/
def OperatorFunctions.MindsOwn (op : OperatorFunctions) : Prop :=
  ∀ value field param allowed, op.applies value field param = true → param ∈ op.extraFields allowed

theorem Operator.mindsOwn_contains (params : List String) (percentSafe : Bool) :
    (functions (.contains params percentSafe)).MindsOwn := by
  intro value _ param _ h
  change (contains params percentSafe).applies value param = true at h
  rw [applies, Bool.and_eq_true, List.contains_iff_mem] at h
  exact h.2

theorem Operator.mindsOwn_search (searchParam : String) (fields : List String) (percentSafe : Bool) :
    (functions (.search searchParam fields percentSafe)).MindsOwn := by
  intro value _ param _ h
  change (search searchParam fields percentSafe).applies value param = true at h
  simp only [applies, Bool.and_eq_true, beq_iff_eq] at h
  rw [h.1.2]
  exact List.mem_singleton_self _

open OperatorLike

section

variable {ω : Type} [OperatorLike ω] {before ops : OperatorSet ω} {value : Scalar} {field param : String}
  {allowed : List String}

namespace OperatorSet

/-- Where the operators in front understand nothing, the others decide. -/
theorem predicate_append (h : before.Rejects value field param) :
    (before ++ ops).predicate value field param = ops.predicate value field param := by
  have hnone : (before.find? fun op => (functions op).applies value field param) = none := by
    rw [List.find?_eq_none]
    intro op hop
    simp [h op hop]
  rw [predicate, predicate, resolve, resolve, List.find?_append, hnone, Option.none_or]

/-- Operators that mind their own parameters do not understand others. -/
theorem rejects_of_mindsOwn (hown : ∀ op ∈ before, (functions op).MindsOwn)
    (h : param ∉ before.extraFields allowed) : before.Rejects value field param := by
  intro op hop
  refine Bool.eq_false_iff.2 fun happlies => h ?_
  exact List.mem_flatMap.2 ⟨op, hop, hown op hop value field param allowed happlies⟩

theorem extraFields_append :
    (before ++ ops).extraFields allowed = before.extraFields allowed ++ ops.extraFields allowed :=
  List.flatMap_append

end OperatorSet

end

/-! ### Operators that ask the same -/

section

variable {ω ω' : Type} [OperatorLike ω] [OperatorLike ω'] {ops : OperatorSet ω} {ops' : OperatorSet ω'}

/-- Operators that ask the same for each of several filters, whatever the field. -/
def OperatorSet.AgreeOn (ops : OperatorSet ω) (ops' : OperatorSet ω') (filters : List Filter) : Prop :=
  ∀ f ∈ filters, ∀ field,
    ops.predicate f.value field f.spec.name = ops'.predicate f.value field f.spec.name

variable {filters : List Filter} (h : ops.AgreeOn ops' filters)

include h

theorem simpleTree_congr : simpleTree ops filters = simpleTree ops' filters := by
  refine foldlM_congr (fun f hf tree => ?_) ∅
  rw [Filter.predicate, Filter.predicate, h f (List.mem_filter.1 hf).1]

theorem Join.ofFilters_congr (source : RelationSource) (root : String) :
    ofFilters source root ops filters = ofFilters source root ops' filters := by
  have hchains : ∀ f ∈ filters.filter fun f => f.spec.isRelational,
      ofFilter source root ops f = ofFilter source root ops' f := by
    intro f hf
    unfold ofFilter
    rw [h f (List.mem_filter.1 hf).1]
  rw [ofFilters, ofFilters, mapM_congr hchains]

theorem Compiler.joins_congr {ω₀ : Type} (c : Compiler ω₀) :
    (c.withOperators ops).joins filters = (c.withOperators ops').joins filters := by
  simp only [joins, operators_withOperators, relations_withOperators, Join.ofFilters_congr h]

end

namespace Compiler

section

variable {ω ω' ω₀ : Type} [OperatorLike ω] [OperatorLike ω'] {ops : OperatorSet ω}
  {ops' : OperatorSet ω'} {c : Compiler ω₀} {params : Params}

/-- Operators matter for the whitelist and for what they ask of the filters at hand. -/
theorem compile_congr_operators
    (hvalidate : (c.withOperators ops).validate = (c.withOperators ops').validate)
    (hfilters : (c.withOperators ops).filters params = (c.withOperators ops').filters params)
    (hagree : ops.AgreeOn ops' ((c.withOperators ops').filters params)) :
    (c.withOperators ops).compile params = (c.withOperators ops').compile params := by
  rw [compile_eq, compile_eq, hvalidate, hfilters, joins_congr hagree, operators_withOperators,
    operators_withOperators, simpleTree_congr hagree]
  rfl

/-- **A compiler sees no more of its operators than what they do**: with the records of their functions in
place of the operators, every request gets the same query or the same error. -/
theorem compile_map_functions :
    (c.withOperators (ops.map functions : OperatorSet OperatorFunctions)).compile params
      = (c.withOperators ops).compile params := by
  have hwhitelist : (c.withOperators (ops.map functions : OperatorSet OperatorFunctions)).whitelist
      = (c.withOperators ops).whitelist := by
    simp only [whitelist, RequestQuery.whitelist, options_withOperators, operators_withOperators,
      OperatorSet.extraFields_map_functions]
  refine compile_congr_operators ?_ ?_ fun f _ field => ops.predicate_map_functions f.value field f.spec.name
  · rw [validate, hwhitelist]
    rfl
  · rw [filters, hwhitelist]
    rfl

end

variable {ω ω₀ : Type} [OperatorLike ω] {before ops : OperatorSet ω} {c : Compiler ω₀} {params : Params}

/-! ### Parameters that are not given -/

/-- Of the names in a list, those that are given make the filters. -/
theorem presentFilters_congr {aliases : Aliases} {names names' : List String}
    (h : names.filter (fun name => (params.given? name).isSome)
      = names'.filter fun name => (params.given? name).isSome) :
    presentFilters names.eraseDups aliases params = presentFilters names'.eraseDups aliases params := by
  have hgiven : ∀ names : List String, presentFilters names.eraseDups aliases params
      = presentFilters (names.filter fun name => (params.given? name).isSome).eraseDups aliases params := by
    intro names
    rw [eraseDups_filter, presentFilters, presentFilters, List.filterMap_filter]
    refine List.filterMap_congr fun name _ => ?_
    rw [presentFilter?_eq]
    cases params.given? name <;> rfl
  rw [hgiven names, h, ← hgiven names']

/-- **Parameters that are not given make no filters**, wherever the whitelist has them. -/
theorem filters_append
    (habsent : ∀ name ∈ before.extraFields c.options.allowedFilters, params.given? name = none) :
    (c.withOperators (before ++ ops)).filters params = (c.withOperators ops).filters params := by
  have hnone : (before.extraFields c.options.allowedFilters).filter
      (fun name => (params.given? name).isSome) = [] := by
    rw [List.filter_eq_nil_iff]
    intro name hname
    simp [habsent name hname]
  refine presentFilters_congr ?_
  simp only [options_withOperators, operators_withOperators, OperatorSet.extraFields_append,
    List.filter_append, hnone, List.nil_append]

/-- Filters are given. -/
theorem given?_of_mem_filters {c : Compiler ω} {f : Filter} (hf : f ∈ c.filters params) :
    params.given? f.spec.name = some f.value := by
  obtain ⟨name, -, hvalue, hspec⟩ := mem_filters.1 hf
  rw [hspec]
  exact hvalue

/-- Names that no filter stands for may be added without being any more valid. -/
theorem validate_of_append (h : (c.withOperators (before ++ ops)).validate = .ok ()) :
    (c.withOperators ops).validate = .ok () := by
  rw [validate_ok] at h ⊢
  intro name hname
  refine h name ?_
  rw [mem_whitelist] at hname ⊢
  refine hname.imp_right fun hextra => ?_
  rw [operators_withOperators, OperatorSet.extraFields_append]
  exact List.mem_append_right _ hextra

/-- **Operators in front that mind their own parameters change nothing** for a request that gives none of
these. -/
theorem compile_append (hown : ∀ op ∈ before, (functions op).MindsOwn)
    (hvalid : (c.withOperators (before ++ ops)).validate = .ok ())
    (habsent : ∀ name ∈ before.extraFields c.options.allowedFilters, params.given? name = none) :
    (c.withOperators (before ++ ops)).compile params = (c.withOperators ops).compile params := by
  refine compile_congr_operators ?valid (filters_append habsent) ?agree
  case valid => rw [hvalid, validate_of_append hvalid]
  case agree =>
    intro f hf field
    have hgiven := given?_of_mem_filters hf
    have hname : f.spec.name ∉ before.extraFields c.options.allowedFilters := by
      intro hmem
      rw [habsent _ hmem] at hgiven
      cases hgiven
    exact OperatorSet.predicate_append (OperatorSet.rejects_of_mindsOwn hown hname)

/-- The same for operators of another type in front. -/
theorem compile_extended {front : OperatorSet OperatorFunctions} (hown : ∀ op ∈ front, op.MindsOwn)
    (hvalid : (c.withOperators (front ++ ops.map functions)).validate = .ok ())
    (habsent : ∀ name ∈ front.extraFields c.options.allowedFilters, params.given? name = none) :
    (c.withOperators (front ++ ops.map functions)).compile params = (c.withOperators ops).compile params :=
  (compile_append hown hvalid habsent).trans compile_map_functions

/-- An operator for texts that start with the value of a parameter, but for no field that is an id. -/
def startsWith (ownParam : String) : OperatorFunctions where
  name := "starts with"
  comparison := .like
  applies value field param := param == ownParam && field != "id" && !value.isEmptyText
  arguments value _ _ := .text (value.display ++ "%")
  extraFields _ := [ownParam]

-- in front of the standard operators, it understands the value of its parameter unless the field is an id
example :
    let ops : OperatorSet OperatorFunctions := startsWith "initial" :: OperatorSet.standard.map functions
    ops.predicate (.text "A") "title" "initial" = .ok (.field ⟨"title", .like, .text "A%"⟩) ∧
    ops.predicate (.text "A") "id" "initial" = .ok (.field ⟨"id", .equal, .value (.text "A")⟩) :=
  ⟨rfl, rfl⟩

/-- **Matching parts of texts and searching extend the standard operators conservatively**: a request that
uses neither gets the same query or the same error. -/
theorem compile_searchable (c : Compiler) (strictFields searchFields : List String) (params : Params)
    (hvalid : (c.withSearchable strictFields searchFields).validate = .ok ())
    (hstrict : ∀ name ∈ strictFields, params.contains name = false)
    (hsearch : params.contains c.options.searchParam = false) :
    (c.withSearchable strictFields searchFields).compile params
      = (c.withOperators .standard).compile params := by
  have hown : ∀ op ∈ [Operator.contains strictFields false,
      .search c.options.searchParam searchFields false], (functions op).MindsOwn := by
    refine List.forall_mem_cons.2 ⟨Operator.mindsOwn_contains _ _, ?_⟩
    exact List.forall_mem_singleton.2 (Operator.mindsOwn_search _ _ _)
  refine compile_append hown hvalid fun name hname => ?_
  refine Params.given?_of_not_contains ?_
  rcases List.mem_append.1 hname with hmem | hmem
  · exact hstrict name hmem
  · rw [List.mem_singleton.1 hmem]
    exact hsearch

/-- Posts by the firm of the writer, title and status. -/
def firmPosts : Compiler where
  options := { CompilerOptions.default with
    allowedFilters := ["firm", "title", "status"]
    aliases := .ofList [("firm", "author.company.name")] }
  operators := .identity
  relations := some ⟨Join.blog.association?, "post"⟩

/-- Posts of two firms that are no drafts. -/
def published : Params :=
  .ofList [("firm", .string "<<>>a,b"), ("status", .string "!draft")]

/-- The title is matched in parts, and so is the page, though it is reserved. A request for published posts
does not see it; with a title, it does. -/
theorem compile_searchable_firmPosts :
    (firmPosts.withSearchable ["title", "page"] ["title"]).validate = .ok () ∧
    (∃ d, (firmPosts.withSearchable ["title", "page"] ["title"]).compile published = .ok d ∧
      (firmPosts.withOperators .standard).compile published = .ok d ∧ d.joins.length = 1) ∧
    ((firmPosts.withSearchable ["title", "page"] ["title"]).compile
        (published.insert "title" (.string "a"))).toOption.map Descriptor.filter
      ≠ ((firmPosts.withOperators .standard).compile
        (published.insert "title" (.string "a"))).toOption.map Descriptor.filter := by
  have hvalid : (firmPosts.withSearchable ["title", "page"] ["title"]).validate = .ok () := rfl
  have hsame : (firmPosts.withSearchable ["title", "page"] ["title"]).compile published
      = (firmPosts.withOperators .standard).compile published :=
    compile_searchable firmPosts ["title", "page"] ["title"] published hvalid (by decide) (by decide)
  have hjoins : ((firmPosts.withOperators .standard).compile published).toOption.map
      (fun d => d.joins.length) = some 1 := by decide +kernel
  obtain ⟨d, hd, hlength⟩ := exists_ok_of_map_toOption hjoins
  exact ⟨hvalid, ⟨d, hsame.trans hd, hd, hlength⟩, by decide +kernel⟩

end Compiler

end RequestQuery
