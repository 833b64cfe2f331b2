import RequestQuery.Proofs.FirstFault
import RequestQuery.Proofs.Join.Walk
import RequestQuery.Proofs.Predicate
import RequestQuery.Proofs.Text.Split

/-!
# Relational filters that lead to no join

* `FieldSpec.path_ne_nil` — a relational filter walks at least one association.
* `RelationSource.Reaches` — the model at the end of a path of names, association by association.
* `RelationSource.walk_error` — a walk fails at the first name that the model reached does not know.
* `Join.Fault` — what can be wrong with a relational filter: no field, then an unknown association, then a
  value that no operator understands.
* `Join.ofFilter_error`, `Join.ofFilters_error` — these are the only errors, and of several filters the
  first that is at fault decides.
-/

namespace RequestQuery

/-! ### Paths -/

/-- A relational filter walks at least one association. -/
theorem FieldSpec.path_ne_nil {spec : FieldSpec} (h : spec.isRelational = true) : spec.path ≠ [] := by
  have hmem : pathSeparator ∈ spec.field.toList := by
    simpa [isRelational] using h
  have hlength := Text.two_le_length_splitOn hmem
  intro hnil
  have hpath : spec.path.length = 0 := by rw [hnil]; rfl
  simp only [path, segments, List.length_dropLast, List.length_map] at hpath
  omega

/-! ### Walks -/

namespace RelationSource

/-- The model at the end of a path of names that starts at a model. -/
inductive Reaches (source : RelationSource) : String → List String → String → Prop
  | stop (model : String) : Reaches source model [] model
  | step {model name target : String} {names : List String} (a : Association)
      (ha : source model name = some a) (hrest : Reaches source a.target names target) :
      Reaches source model (name :: names) target

variable {source : RelationSource}

/-- A walk succeeds just if its path leads to some model. -/
theorem walk_ok_iff_reaches {root : String} {path : List String} :
    (∃ as, source.walk root path = .ok as) ↔ ∃ model, source.Reaches root path model := by
  induction path generalizing root with
  | nil => exact iff_of_true ⟨[], rfl⟩ ⟨root, .stop root⟩
  | cons name names ih =>
    constructor
    · intro h
      obtain ⟨as, has⟩ := h
      obtain ⟨a, rest, ha, hrest, -⟩ := walk_cons_ok.1 has
      obtain ⟨model, hmodel⟩ := ih.1 ⟨rest, hrest⟩
      exact ⟨model, .step a ha hmodel⟩
    · intro h
      obtain ⟨model, hmodel⟩ := h
      cases hmodel with
      | step a ha hrest =>
        obtain ⟨rest, hwalk⟩ := ih.2 ⟨model, hrest⟩
        exact ⟨a :: rest, walk_cons_ok.2 ⟨a, rest, ha, hwalk, rfl⟩⟩

theorem find_error {model name : String} {e : QueryError} :
    source.find model name = .error e ↔
      source model name = none ∧ e = .unknownAssociation model name := by
  rw [find]
  cases source model name with
  | none => simp [eq_comm]
  | some a => simp

/-- A walk fails at its first step or later. -/
theorem walk_cons_error {root name : String} {names : List String} {e : QueryError} :
    source.walk root (name :: names) = .error e ↔
      source.find root name = .error e ∨
        ∃ a, source.find root name = .ok a ∧ source.walk a.target names = .error e := by
  rw [walk, bind_error]
  refine or_congr_right (exists_congr fun a => and_congr_right fun _ => ?_)
  rw [bind_error]
  refine or_iff_left fun h => ?_
  obtain ⟨rest, -, h⟩ := h
  cases h

/-- **A walk fails at the first name that the model reached does not know**, and the error tells both. -/
theorem walk_error {root : String} {path : List String} {e : QueryError} :
    source.walk root path = .error e ↔
      ∃ before name after model, path = before ++ name :: after ∧ source.Reaches root before model ∧
        source model name = none ∧ e = .unknownAssociation model name := by
  induction path generalizing root with
  | nil =>
    constructor
    · nofun
    · intro h
      obtain ⟨before, name, after, model, hpath, -⟩ := h
      exact absurd hpath (by simp)
  | cons name names ih =>
    simp only [walk_cons_error, find_error, find_ok]
    constructor
    · intro h
      rcases h with ⟨hnone, rfl⟩ | ⟨a, ha, hrest⟩
      · exact ⟨[], name, names, root, rfl, .stop root, hnone, rfl⟩
      · obtain ⟨before, name', after, model, rfl, hreaches, hnone, rfl⟩ := ih.1 hrest
        exact ⟨name :: before, name', after, model, rfl, .step a ha hreaches, hnone, rfl⟩
    · intro h
      obtain ⟨before, name', after, model, hpath, hreaches, hnone, rfl⟩ := h
      cases hreaches with
      | stop =>
        cases hpath
        exact .inl ⟨hnone, rfl⟩
      | step a ha hrest =>
        cases hpath
        exact .inr ⟨a, ha, ih.2 ⟨_, name', after, model, rfl, hrest, hnone, rfl⟩⟩

end RelationSource

/-! ### Joins -/

namespace Join

variable {ω : Type} [OperatorLike ω]

/-- What can be wrong with a relational filter. -/
inductive Fault (source : RelationSource) (root : String) (ops : OperatorSet ω) (f : Filter) :
    QueryError → Prop
  /-- There is no field behind the associations. -/
  | noLeaf (hleaf : f.spec.leaf = "") :
      Fault source root ops f (.noLeaf f.spec.name f.spec.field)
  /-- The model reached has no association of the next name. -/
  | unknown {before after : List String} {name model : String} (hleaf : f.spec.leaf ≠ "")
      (hpath : f.spec.path = before ++ name :: after) (hreaches : source.Reaches root before model)
      (hnone : source model name = none) :
      Fault source root ops f (.unknownAssociation model name)
  /-- No operator understands the value. -/
  | rejected {model : String} (hleaf : f.spec.leaf ≠ "")
      (hreaches : source.Reaches root f.spec.path model)
      (hrejects : ops.Rejects f.value f.spec.leaf f.spec.name) :
      Fault source root ops f (.noOperator f.spec.name f.spec.leaf)

variable {source : RelationSource} {root : String} {ops : OperatorSet ω}

theorem Fault.kind {f : Filter} {e : QueryError} (h : Fault source root ops f e) :
    e.kind ∈ [ErrorKind.configuration, ErrorKind.unknownAssociation] := by
  cases h with
  | noLeaf => exact List.mem_cons_self
  | unknown => exact List.mem_cons_of_mem _ List.mem_cons_self
  | rejected => exact List.mem_cons_self

/-- A filter with a field leads to no join just if its walk fails or no operator understands its value. -/
theorem ofFilter_error_of_leaf {f : Filter} (hrelational : f.spec.isRelational = true)
    (hleaf : f.spec.leaf ≠ "") {e : QueryError} :
    ofFilter source root ops f = .error e ↔
      source.walk root f.spec.path = .error e ∨
        (∃ as, source.walk root f.spec.path = .ok as) ∧
          ops.predicate f.value f.spec.leaf f.spec.name = .error e := by
  unfold ofFilter
  cases hpath : f.spec.path with
  | nil => exact absurd hpath (FieldSpec.path_ne_nil hrelational)
  | cons name names =>
    have hempty : f.spec.leaf.isEmpty ≠ true := by
      rw [Ne, String.isEmpty_iff]
      exact hleaf
    dsimp only
    rw [if_neg hempty, RelationSource.walk_cons_error]
    simp only [bind_error, reduceCtorEq, and_false, exists_false, or_false]
    constructor
    · intro h
      rcases h with hfind | ⟨a, ha, hrest | ⟨rest, hrest, hpredicate⟩⟩
      · exact .inl (.inl hfind)
      · exact .inl (.inr ⟨a, ha, hrest⟩)
      · have hwalk := RelationSource.walk_cons_ok.2
          ⟨a, rest, RelationSource.find_ok.1 ha, hrest, rfl⟩
        exact .inr ⟨⟨_, hwalk⟩, hpredicate⟩
    · intro h
      rcases h with (hfind | ⟨a, ha, hrest⟩) | ⟨⟨as, has⟩, hpredicate⟩
      · exact .inl hfind
      · exact .inr ⟨a, ha, .inl hrest⟩
      · obtain ⟨a, rest, ha, hrest, -⟩ := RelationSource.walk_cons_ok.1 has
        exact .inr ⟨a, RelationSource.find_ok.2 ha, .inr ⟨rest, hrest, hpredicate⟩⟩

theorem ofFilter_error_of_noLeaf {f : Filter} (hleaf : f.spec.leaf = "") {e : QueryError} :
    ofFilter source root ops f = .error e ↔ e = .noLeaf f.spec.name f.spec.field := by
  unfold ofFilter
  rw [hleaf]
  cases f.spec.path with
  | nil => exact ⟨fun h => (Except.error.inj h).symm, fun h => congrArg _ h.symm⟩
  | cons name names => exact ⟨fun h => (Except.error.inj h).symm, fun h => congrArg _ h.symm⟩

/-- **A relational filter leads to no join just if something is wrong with it.** -/
theorem ofFilter_error {f : Filter} (hrelational : f.spec.isRelational = true) {e : QueryError} :
    ofFilter source root ops f = .error e ↔ Fault source root ops f e := by
  by_cases hleaf : f.spec.leaf = ""
  · rw [ofFilter_error_of_noLeaf hleaf]
    constructor
    · intro he
      rw [he]
      exact .noLeaf hleaf
    · intro h
      cases h with
      | noLeaf => rfl
      | unknown hnot => exact absurd hleaf hnot
      | rejected hnot => exact absurd hleaf hnot
  · rw [ofFilter_error_of_leaf hrelational hleaf, RelationSource.walk_error,
      RelationSource.walk_ok_iff_reaches, OperatorSet.predicate_error]
    constructor
    · intro h
      rcases h with ⟨before, name, after, model, hpath, hreaches, hnone, rfl⟩
        | ⟨⟨model, hreaches⟩, hrejects, rfl⟩
      · exact .unknown hleaf hpath hreaches hnone
      · exact .rejected hleaf hreaches hrejects
    · intro h
      cases h with
      | noLeaf hnot => exact absurd hnot hleaf
      | unknown _ hpath hreaches hnone => exact .inl ⟨_, _, _, _, hpath, hreaches, hnone, rfl⟩
      | rejected _ hreaches hrejects => exact .inr ⟨⟨_, hreaches⟩, hrejects, rfl⟩

/-- **Of several filters, the first relational one with something wrong decides.** -/
theorem ofFilters_error {filters : List Filter} {e : QueryError} :
    ofFilters source root ops filters = .error e ↔
      FirstFault (fun f e => f.spec.isRelational = true ∧ Fault source root ops f e) filters e := by
  have hchains : ∀ f ∈ filters.filter fun f => f.spec.isRelational, ∀ e,
      ofFilter source root ops f = .error e ↔ Fault source root ops f e :=
    fun f hf _ => ofFilter_error (List.mem_filter.1 hf).2
  rw [ofFilters, bind_error, mapM_error (fun _ _ => Iff.rfl), firstFault_congr hchains,
    firstFault_filter]
  exact or_iff_left nofun

end Join

end RequestQuery
