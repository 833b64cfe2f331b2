import RequestQuery.FilterTree
import RequestQuery.Operator.Set
import RequestQuery.Params

/-!
# Filters

* `FieldSpec` — the name of a filter and the field it stands for.
* `whitelist` — the names of the parameters that are filters.
* `checkFieldNames` — whether no filter leads to the name that stands for groups of alternatives.
* `Filter`, `presentFilters` — the filters that a request gives.
* `simpleTree` — the filters on the root model as one tree.
-/

namespace RequestQuery

/-- The fields that names of filters stand for. -/
abbrev Aliases := SortedMap String String

/-- The name of a filter and the field it stands for. -/
structure FieldSpec where
  name : String
  /-- A field of the root model, or a path of associations that ends in a field. -/
  field : String
deriving DecidableEq, Inhabited

namespace FieldSpec

/-- Separates associations and the field at their end. -/
def pathSeparator : Char := '.'

/-- A name with the field it stands for; without an alias, that is the name itself. -/
def ofName (aliases : Aliases) (name : String) : FieldSpec :=
  ⟨name, (aliases.get? name).getD name⟩

/-- The associations and the field of a path. -/
def segments (spec : FieldSpec) : List String :=
  (Text.splitOn pathSeparator spec.field.toList).map String.ofList

/-- Whether the field belongs to another model. -/
def isRelational (spec : FieldSpec) : Bool :=
  spec.field.toList.contains pathSeparator

/-- The field at the end of the path. -/
def leaf (spec : FieldSpec) : String :=
  spec.segments.getLast?.getD spec.field

/-- The associations that lead to the field. -/
def path (spec : FieldSpec) : List String :=
  spec.segments.dropLast

end FieldSpec

variable {ω : Type} [OperatorLike ω]

/-- The names of the parameters that are filters: the allowed names that are not reserved, then what
the operators bring along, each name once. -/
def whitelist (allowed reserved : List String) (ops : OperatorSet ω) : List String :=
  ((allowed.filter fun name => !reserved.contains name) ++ ops.extraFields allowed).eraseDups

/-- An error for the first name that leads to the field name of the groups of alternatives. -/
def checkFieldNames (aliases : Aliases) : List String → Except QueryError Unit
  | [] => .ok ()
  | name :: names =>
    let spec := FieldSpec.ofName aliases name
    if spec.leaf = FilterTree.groupsKey then
      .error (.reservedField name spec.field)
    else
      checkFieldNames aliases names

/-- A filter that a request gives. -/
structure Filter where
  spec : FieldSpec
  value : Scalar
deriving DecidableEq

/-- The filter of a name, if the request gives it a scalar value that is not the empty text. -/
def presentFilter? (aliases : Aliases) (params : Params) (name : String) : Option Filter :=
  match params.scalar? name with
  | some value => if value.isEmptyText then none else some ⟨.ofName aliases name, value⟩
  | none => none

/-- The filters that a request gives, in the order of the whitelist. -/
def presentFilters (names : List String) (aliases : Aliases) (params : Params) : List Filter :=
  names.filterMap (presentFilter? aliases params)

/-- What a filter asks of its field. -/
def Filter.predicate (ops : OperatorSet ω) (f : Filter) : Except QueryError Predicate :=
  ops.predicate f.value f.spec.field f.spec.name

/-- The filters on the root model, put into a tree one after the other. -/
def simpleTree (ops : OperatorSet ω) (filters : List Filter) : Except QueryError FilterTree :=
  (filters.filter fun f => !f.spec.isRelational).foldlM
    (fun tree f => (f.predicate ops).map tree.push) ∅

end RequestQuery
