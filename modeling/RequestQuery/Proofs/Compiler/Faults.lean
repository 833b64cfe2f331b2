import RequestQuery.Proofs.Compiler.Grounded
import RequestQuery.Proofs.Join.Faults
import RequestQuery.Proofs.Paging.Requested

/-!
# Requests that do not compile

Compiling fails for five reasons, which are looked for one after the other: a name of the whitelist, the
page, a filter on the root model, a relational filter without relation metadata, and a relational filter
that leads to no join. Names and filters are looked at in the order of the whitelist.

* `Compiler.ReservedName`, `Compiler.Unmatched`, `Compiler.Unrelated`, `Compiler.Unjoined` — what can be
  wrong with one name.
* `Compiler.faults` — what can be wrong with a request, in the order in which it is looked for.
* `Compiler.validate_error`, `Compiler.simpleTree_error`, `Compiler.joins_error` — each stage fails for its
  own reasons only.
* `Compiler.DecidedByFaults`, `Compiler.compile_decided` — a request fails with its first fault, and compiles
  if it has none.
-/

namespace RequestQuery.Compiler

open Paging OperatorLike

variable {ω : Type} [OperatorLike ω]

/-! ### Faults -/

/-- The name stands for the field name of the groups of alternatives. -/
def ReservedName (c : Compiler ω) (name : String) (e : QueryError) : Prop :=
  (c.spec name).leaf = FilterTree.groupsKey ∧ e = .reservedField name (c.spec name).field

/-- No operator understands the value that a request gives to a filter on the root model. -/
def Unmatched (c : Compiler ω) (params : Params) (name : String) (e : QueryError) : Prop :=
  ∃ value, params.given? name = some value ∧ (c.spec name).isRelational = false ∧
    c.operators.Rejects value (c.spec name).field name ∧ e = .noOperator name (c.spec name).field

/-- There is no relation metadata for a relational filter that a request gives. -/
def Unrelated (c : Compiler ω) (params : Params) (name : String) (e : QueryError) : Prop :=
  c.relations = none ∧ ∃ value, params.given? name = some value ∧
    (c.spec name).isRelational = true ∧ e = .noModel name

/-- A relational filter that a request gives leads to no join. -/
def Unjoined (c : Compiler ω) (params : Params) (name : String) (e : QueryError) : Prop :=
  ∃ r, c.relations = some r ∧ ∃ value, params.given? name = some value ∧
    (c.spec name).isRelational = true ∧
      Join.Fault r.source r.root c.operators ⟨c.spec name, value⟩ e

/-- What can be wrong with a request, in the order in which it is looked for. -/
def faults (c : Compiler ω) (params : Params) : List (QueryError → Prop) :=
  [ FirstFault c.ReservedName c.whitelist,
    fun e => c.options.paging.offsetParam = none ∧ OffsetFault params c.options.paging e,
    FirstFault (c.Unmatched params) c.whitelist,
    FirstFault (c.Unrelated params) c.whitelist,
    FirstFault (c.Unjoined params) c.whitelist ]

/-- The first fault decides whether a request compiles, and which error it gets if it does not. -/
structure DecidedByFaults (c : Compiler ω) (params : Params) : Prop where
  error : ∀ e, c.compile params = .error e ↔ FirstFault id (c.faults params) e
  ok : (∃ d, c.compile params = .ok d) ↔ ∀ fault ∈ c.faults params, ∀ e, ¬ fault e
  /-- Who is to blame for each. -/
  kinds : List.Forall₂ (fun fault kinds => ∀ e, fault e → e.kind ∈ kinds) (c.faults params)
    [ [.configuration], [.invalidArgument], [.configuration], [.invalidArgument],
      [.configuration, .unknownAssociation] ]
  /-- With the identity among the operators, no value is left without one. -/
  identity : (∃ op ∈ c.operators, functions op = Operator.identity.functions) →
    ∀ fault ∈ c.faults params, ∀ param field, ¬ fault (.noOperator param field)

variable {c : Compiler ω} {params : Params}

/-! ### Stages -/

omit [OperatorLike ω] in
theorem checkFieldNames_cons (name : String) (names : List String) :
    checkFieldNames c.options.aliases (name :: names) =
      if (c.spec name).leaf = FilterTree.groupsKey then
        .error (.reservedField name (c.spec name).field)
      else checkFieldNames c.options.aliases names :=
  rfl

theorem validate_error {e : QueryError} :
    c.validate = .error e ↔ FirstFault c.ReservedName c.whitelist e := by
  rw [validate]
  induction c.whitelist with
  | nil => simp [checkFieldNames]
  | cons name names ih =>
    rw [checkFieldNames_cons, firstFault_cons, ← ih]
    unfold ReservedName
    split
    · rename_i hleaf
      simp [hleaf, eq_comm]
    · rename_i hleaf
      simp [hleaf]

theorem validate_ok :
    c.validate = .ok () ↔ ∀ name ∈ c.whitelist, (c.spec name).leaf ≠ FilterTree.groupsKey := by
  have hfault : (∃ e, c.validate = .error e) ↔
      ∃ name ∈ c.whitelist, (c.spec name).leaf = FilterTree.groupsKey := by
    simp only [validate_error, exists_firstFault, ReservedName, exists_and_left, exists_eq, and_true]
  rw [← not_iff_not]
  push Not
  rw [← hfault]
  cases c.validate with
  | ok u => exact iff_of_false (fun h => h rfl) nofun
  | error e => exact iff_of_true nofun ⟨e, rfl⟩

/-- A fault of filters as one of names: those that the request gives. -/
theorem firstFault_filters {F : Filter → QueryError → Prop} {e : QueryError} :
    FirstFault F (c.filters params) e ↔
      FirstFault (fun name e => ∃ value, params.given? name = some value ∧ F ⟨c.spec name, value⟩ e)
        c.whitelist e := by
  rw [filters, presentFilters, firstFault_filterMap]
  refine firstFault_congr fun name _ e => ?_
  rw [presentFilter?_eq]
  simp only [Option.map_eq_some_iff]
  constructor
  · intro h
    obtain ⟨f, ⟨value, hvalue, rfl⟩, hf⟩ := h
    exact ⟨value, hvalue, hf⟩
  · intro h
    obtain ⟨value, hvalue, hf⟩ := h
    exact ⟨_, ⟨value, hvalue, rfl⟩, hf⟩

theorem pushFilter_error {ops : OperatorSet ω} (tree : FilterTree) (f : Filter) (e : QueryError) :
    (f.predicate ops).map tree.push = .error e ↔
      ops.Rejects f.value f.spec.field f.spec.name ∧ e = .noOperator f.spec.name f.spec.field := by
  -- the tree has no part in it
  rw [← OperatorSet.predicate_error, Filter.predicate]
  cases ops.predicate f.value f.spec.field f.spec.name with
  | error e' => exact ⟨fun h => congrArg _ (Except.error.inj h), fun h => congrArg _ (Except.error.inj h)⟩
  | ok p => exact iff_of_false nofun nofun

theorem simpleTree_error {e : QueryError} :
    simpleTree c.operators (c.filters params) = .error e ↔
      FirstFault (c.Unmatched params) c.whitelist e := by
  rw [simpleTree, foldlM_error pushFilter_error, firstFault_filter, firstFault_filters]
  refine firstFault_congr fun name _ e => exists_congr fun value => and_congr_right fun _ => ?_
  rw [Bool.not_eq_true']
  exact Iff.rfl

/-- Without relation metadata, the first relational filter is one too many. -/
theorem joins_error_of_none (hnone : c.relations = none) {e : QueryError} :
    c.joins (c.filters params) = .error e ↔ FirstFault (c.Unrelated params) c.whitelist e := by
  have hfind : c.joins (c.filters params) = .error e ↔
      ∃ f, (c.filters params).find? (fun f => f.spec.isRelational) = some f ∧
        e = .noModel f.spec.name := by
    rw [joins, hnone]
    cases (c.filters params).find? fun f => f.spec.isRelational with
    | none => simp
    | some f => simp [eq_comm]
  rw [hfind, ← firstFault_find?, firstFault_filters]
  refine firstFault_congr fun name _ e => ?_
  exact (and_iff_right hnone).symm

/-- With relation metadata, joins are those of the relational filters. -/
theorem joins_error_of_some {r : Relations} (hr : c.relations = some r) {e : QueryError} :
    c.joins (c.filters params) = .error e ↔ FirstFault (c.Unjoined params) c.whitelist e := by
  have hfilters : c.joins (c.filters params) = .error e ↔
      Join.ofFilters r.source r.root c.operators (c.filters params) = .error e := by
    rw [joins, hr]
    cases hfind : (c.filters params).find? fun f => f.spec.isRelational with
    | some f => exact Iff.rfl
    | none =>
      -- without a relational filter none can be at fault
      refine iff_of_false (fun h => by cases h) fun h => ?_
      obtain ⟨f, hf, -, hrelational, -⟩ := exists_firstFault.1 ⟨e, Join.ofFilters_error.1 h⟩
      exact List.find?_eq_none.1 hfind f hf hrelational
  rw [hfilters, Join.ofFilters_error, firstFault_filters]
  refine firstFault_congr fun name _ e => ?_
  constructor
  · intro h
    obtain ⟨value, hvalue, hrelational, hfault⟩ := h
    exact ⟨r, hr, value, hvalue, hrelational, hfault⟩
  · intro h
    obtain ⟨r', hr', value, hvalue, hrelational, hfault⟩ := h
    rw [hr] at hr'
    cases hr'
    exact ⟨value, hvalue, hrelational, hfault⟩

theorem joins_error {e : QueryError} :
    c.joins (c.filters params) = .error e ↔
      FirstFault id
        [FirstFault (c.Unrelated params) c.whitelist, FirstFault (c.Unjoined params) c.whitelist] e := by
  -- relation metadata is there or not, which leaves one of the two faults
  cases hr : c.relations with
  | none =>
    have hunjoined : ∀ e, ¬ FirstFault (c.Unjoined params) c.whitelist e := by
      intro e h
      obtain ⟨name, -, -, r, hsome, -⟩ := exists_firstFault.1 ⟨e, h⟩
      rw [hr] at hsome
      cases hsome
    rw [joins_error_of_none hr, firstFault_cons, firstFault_cons]
    simp [hunjoined]
  | some r =>
    have hunrelated : ∀ e, ¬ FirstFault (c.Unrelated params) c.whitelist e := by
      intro e h
      obtain ⟨name, -, -, hnone, -⟩ := exists_firstFault.1 ⟨e, h⟩
      rw [hr] at hnone
      cases hnone
    rw [joins_error_of_some hr, firstFault_cons, firstFault_cons]
    simp [hunrelated]

/-! ### Compiling -/

theorem compile_error (c : Compiler ω) (params : Params) (e : QueryError) :
    c.compile params = .error e ↔ FirstFault id (c.faults params) e := by
  rw [compile_eq]
  refine bind_firstFault (fun _ => validate_error) (fun _ e => ?_) e
  refine bind_firstFault (fun _ => requestedOffset_error) (fun _ e => ?_) e
  refine bind_firstFault (fun _ => simpleTree_error) (fun _ e => ?_) e
  rw [bind_error, joins_error]
  exact or_iff_left nofun

/-- Only the last stage has errors of more than one kind. -/
theorem kinds_of_faults (c : Compiler ω) (params : Params) :
    List.Forall₂ (fun fault kinds => ∀ e, fault e → e.kind ∈ kinds) (c.faults params)
      [ [.configuration], [.invalidArgument], [.configuration], [.invalidArgument],
        [.configuration, .unknownAssociation] ] := by
  refine .cons ?reserved (.cons ?page (.cons ?unmatched (.cons ?unrelated (.cons ?unjoined .nil))))
  case reserved =>
    intro e h
    obtain ⟨name, -, -, rfl⟩ := h.exists_mem
    exact List.mem_singleton_self _
  case page =>
    intro e h
    cases h.2 <;> exact List.mem_singleton_self _
  case unmatched =>
    intro e h
    obtain ⟨name, -, value, -, -, -, rfl⟩ := h.exists_mem
    exact List.mem_singleton_self _
  case unrelated =>
    intro e h
    obtain ⟨name, -, -, value, -, -, rfl⟩ := h.exists_mem
    exact List.mem_singleton_self _
  case unjoined =>
    intro e h
    obtain ⟨name, -, r, -, value, -, -, hfault⟩ := h.exists_mem
    exact hfault.kind

/-- An operator that understands every value leaves none without one. -/
theorem not_noOperator_of_applies {op : ω} (hop : op ∈ c.operators)
    (happlies : ∀ value field param, (functions op).applies value field param = true)
    {fault : QueryError → Prop} (hfault : fault ∈ c.faults params) (param field : String) :
    ¬ fault (.noOperator param field) := by
  have hnot : ∀ value field name, ¬ c.operators.Rejects value field name :=
    fun value field name => OperatorSet.not_rejects_of_applies hop (happlies value field name)
  intro h
  simp only [faults, List.mem_cons, List.not_mem_nil, or_false] at hfault
  rcases hfault with rfl | rfl | rfl | rfl | rfl
  · obtain ⟨name, -, -, he⟩ := h.exists_mem
    cases he
  · cases h.2
  · obtain ⟨name, -, value, -, -, hrejects, -⟩ := h.exists_mem
    exact hnot value _ name hrejects
  · obtain ⟨name, -, -, value, -, -, he⟩ := h.exists_mem
    cases he
  · obtain ⟨name, -, r, -, value, -, -, hjoin⟩ := h.exists_mem
    cases hjoin with
    | rejected _ _ hrejects => exact hnot value _ _ hrejects

/-- **A request fails with its first fault**, and compiles if it has none. -/
theorem compile_decided (c : Compiler ω) (params : Params) : c.DecidedByFaults params where
  error := c.compile_error params
  ok := by
    constructor
    · intro h fault hfault e he
      obtain ⟨d, hd⟩ := h
      obtain ⟨first, hfirst⟩ := exists_firstFault.2 (⟨fault, hfault, e, he⟩ :
        ∃ fault ∈ c.faults params, ∃ e, id fault e)
      rw [(c.compile_error params first).2 hfirst] at hd
      cases hd
    · intro hnone
      cases hcompiled : c.compile params with
      | ok d => exact ⟨d, rfl⟩
      | error e =>
        obtain ⟨fault, hfault, he⟩ := ((c.compile_error params e).1 hcompiled).exists_mem
        exact absurd he (hnone fault hfault e)
  kinds := c.kinds_of_faults params
  identity := by
    intro ⟨op, hop, hidentity⟩ fault hfault
    refine not_noOperator_of_applies hop (fun value field param => ?_) hfault
    rw [hidentity]
    rfl

/-- Posts by status and by the name of an author, where no operator understands a value and the association
of the author is misspelt. -/
def misspelt : Compiler :=
  { options := { CompilerOptions.default with
      allowedFilters := ["writer", "status"], aliases := .ofList [("writer", "authr.name")] }
    operators := []
    relations := some ⟨Join.blog.association?, "post"⟩ }

-- of three faults, the page decides, then the filter on posts, and the join comes last
example :
    misspelt.compile (.ofList [("writer", .string "a"), ("status", .string "b"), ("page", .integer 0)])
      = .error (.notPositive "page") ∧
    misspelt.compile (.ofList [("writer", .string "a"), ("status", .string "b")])
      = .error (.noOperator "status" "status") ∧
    misspelt.compile (.ofList [("writer", .string "a")])
      = .error (.unknownAssociation "post" "authr") :=
  ⟨rfl, rfl, rfl⟩

end RequestQuery.Compiler
