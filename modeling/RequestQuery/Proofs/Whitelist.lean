import RequestQuery.Proofs.Compiler.Dependence
import RequestQuery.Proofs.Repetition

/-!
# The whitelist

Names come to the whitelist from the allowed filters and from the operators. However often a name is put
forward, it is listed once, where it was put forward first; so no parameter makes more than one filter.

* `ListsFilters` — a list of names that holds the allowed and the contributed ones, each once and in order.
* `OneForEach` — filters of a request, one for each listed name that the request gives.
* `map_name_presentFilters` — the names of the filters of a request.
* `whitelist_lists_once` — the whitelist is such a list, and the filters that are read with it are such
  filters.
-/

namespace RequestQuery

open OperatorLike

variable {ω : Type} [OperatorLike ω]

/-- The names of filters that are put forward: the allowed ones that are not reserved, then those of one
operator after the other. -/
def proposedNames (allowed reserved : List String) (ops : OperatorSet ω) : List String :=
  (allowed.filter fun name => !reserved.contains name)
    ++ ops.flatMap fun op => (functions op).extraFields allowed

/-- A list of the names of filters, each once and in the order in which they are put forward first. -/
structure ListsFilters (allowed reserved : List String) (ops : OperatorSet ω) (names : List String) : Prop where
  nodup : names.Nodup
  mem_iff : ∀ name, name ∈ names ↔
    (name ∈ allowed ∧ name ∉ reserved) ∨ ∃ op ∈ ops, name ∈ (functions op).extraFields allowed
  order : names.Pairwise fun a b =>
    (proposedNames allowed reserved ops).idxOf a < (proposedNames allowed reserved ops).idxOf b

theorem mem_proposedNames {allowed reserved : List String} {ops : OperatorSet ω} {name : String} :
    name ∈ proposedNames allowed reserved ops ↔
      (name ∈ allowed ∧ name ∉ reserved) ∨ ∃ op ∈ ops, name ∈ (functions op).extraFields allowed := by
  rw [proposedNames, List.mem_append, List.mem_filter, List.mem_flatMap]
  simp

theorem listsFilters_whitelist (allowed reserved : List String) (ops : OperatorSet ω) :
    ListsFilters allowed reserved ops (whitelist allowed reserved ops) where
  nodup := nodup_eraseDups _
  mem_iff _ := List.mem_eraseDups.trans mem_proposedNames
  order := pairwise_idxOf_eraseDups _

/-! ### Filters of a request -/

/-- The filters of a request, one for each name of a list that the request gives, in the order of the
list. -/
structure OneForEach (names : List String) (aliases : Aliases) (params : Params) (filters : List Filter) :
    Prop where
  nodup : (filters.map fun f => f.spec.name).Nodup
  sublist : (filters.map fun f => f.spec.name).Sublist names
  /-- No name that is given is left out. -/
  mem_iff : ∀ name, name ∈ filters.map (fun f => f.spec.name) ↔
    name ∈ names ∧ (params.given? name).isSome = true
  /-- A filter has the field that its name stands for and the value that is given for it. -/
  given : ∀ f ∈ filters, f.spec = .ofName aliases f.spec.name ∧ params.given? f.spec.name = some f.value

/-- The filters of a request have the names that are given. -/
theorem map_name_presentFilters (names : List String) (aliases : Aliases) (params : Params) :
    (presentFilters names aliases params).map (fun f => f.spec.name)
      = names.filter fun name => (params.given? name).isSome := by
  rw [presentFilters, List.map_filterMap, ← List.filterMap_eq_filter]
  refine List.filterMap_congr fun name _ => ?_
  rw [presentFilter?_eq]
  cases hgiven : params.given? name with
  | none => simp [Option.guard, hgiven]
  | some value => simp [Option.guard, hgiven, FieldSpec.ofName]

theorem oneForEach_presentFilters {names : List String} (h : names.Nodup) (aliases : Aliases)
    (params : Params) : OneForEach names aliases params (presentFilters names aliases params) where
  nodup := by
    rw [map_name_presentFilters]
    exact h.filter _
  sublist := by
    rw [map_name_presentFilters]
    exact List.filter_sublist
  mem_iff name := by
    rw [map_name_presentFilters, List.mem_filter]
  given f hf := by
    obtain ⟨name, -, hpresent⟩ := List.mem_filterMap.1 hf
    rw [presentFilter?_eq] at hpresent
    obtain ⟨value, hvalue, rfl⟩ := Option.map_eq_some_iff.1 hpresent
    exact ⟨rfl, hvalue⟩

/-- **The whitelist has each name once, where it is put forward first, and each parameter makes at most one
filter**: the filters that are read with it have different names, in the order of the whitelist, and no name
that a request gives is left out. -/
theorem whitelist_lists_once (allowed reserved : List String) (ops : OperatorSet ω) :
    ListsFilters allowed reserved ops (whitelist allowed reserved ops) ∧
    ∀ (aliases : Aliases) (params : Params),
      OneForEach (whitelist allowed reserved ops) aliases params
        (presentFilters (whitelist allowed reserved ops) aliases params) := by
  have hlists := listsFilters_whitelist allowed reserved ops
  exact ⟨hlists, fun aliases params => oneForEach_presentFilters hlists.nodup aliases params⟩

-- an allowed name keeps its place; a reserved one stays out unless an operator brings it along
example : whitelist ["title", "page", "author", "title"] ["page", "sort"]
    ([.contains ["author", "page"] false, .identity] : OperatorSet) = ["title", "author", "page"] := by decide

end RequestQuery
