import RequestQuery.Predicate
import RequestQuery.SortedMap

/-!
# Filter trees

* `FilterTree` — the conditions of a query on one model: comparisons for each field, and groups of
  alternatives.
* `FilterTree.push` — one more predicate; it replaces an equal comparison of the same field.
* `FilterTree.mergeMissing` — the predicates of another tree, as far as they are missing.
* `FilterTree.toJson` — the tree as a JSON object.
-/

namespace RequestQuery

/-- The comparisons of one field, all of which must hold. -/
abbrev FieldConditions := SortedMap Comparison Arguments

/-- The comparisons of several fields. -/
abbrev ConditionMap := SortedMap String FieldConditions

/-- The comparisons of several fields with one more condition; an equal comparison of the same field is
replaced. -/
def ConditionMap.push (fields : ConditionMap) (c : Condition) : ConditionMap :=
  fields.upsert c.field fun old => (old.getD ∅).insert c.comparison c.arguments

/-- The comparisons of several fields with those of one field added, as far as they are missing. -/
def ConditionMap.mergeMissing (fields : ConditionMap) (field : String) (conditions : FieldConditions) :
    ConditionMap :=
  fields.upsert field fun old =>
    conditions.toList.foldl (fun known c => known.insertIfAbsent c.1 c.2) (old.getD ∅)

/-- The conditions of a query on one model. -/
structure FilterTree where
  /-- The comparisons of each field, all of which must hold. -/
  fields : ConditionMap
  /-- The groups of alternatives; of each, one comparison must hold. -/
  groups : List ConditionMap
deriving DecidableEq, Inhabited

namespace FilterTree

/-- The tree without conditions. -/
def empty : FilterTree :=
  ⟨∅, []⟩

instance : EmptyCollection FilterTree :=
  ⟨empty⟩

instance : BEq FilterTree where
  beq s t := s.fields == t.fields && s.groups == t.groups

/-- Whether a tree has no conditions. -/
def isEmpty (t : FilterTree) : Bool :=
  t.fields.isEmpty && t.groups.isEmpty

/-- The comparisons of a field. -/
def get? (t : FilterTree) (field : String) : Option FieldConditions :=
  t.fields.get? field

/-- The group of alternatives of several conditions. -/
def groupOf (conditions : List Condition) : ConditionMap :=
  conditions.foldl ConditionMap.push ∅

/-- The tree with one more predicate. An equal comparison of the same field is replaced; a group
without alternatives adds nothing. -/
def push (t : FilterTree) : Predicate → FilterTree
  | .field c => { t with fields := t.fields.push c }
  | .anyOf conditions =>
    let group := groupOf conditions
    if group.isEmpty then t else { t with groups := t.groups ++ [group] }

/-- The tree of one predicate. -/
def ofPredicate (p : Predicate) : FilterTree :=
  empty.push p

/-- The tree of several predicates, one after the other. -/
def ofPredicates (ps : List Predicate) : FilterTree :=
  ps.foldl push empty

/-- Groups with those of another tree added, as far as they are missing. -/
def mergeGroups (groups others : List ConditionMap) : List ConditionMap :=
  others.foldl (fun known group => if known.contains group then known else known ++ [group]) groups

/-- The tree with the conditions of another one added, as far as they are missing. -/
def mergeMissing (t other : FilterTree) : FilterTree where
  fields := other.fields.toList.foldl (fun known e => known.mergeMissing e.1 e.2) t.fields
  groups := mergeGroups t.groups other.groups

/-! ### JSON -/

/-- The key of the groups in the JSON object of a tree. -/
def groupsKey : String := "or"

/-- The comparisons of one field as a JSON object. -/
def conditionsToJson (conditions : FieldConditions) : Json :=
  .object (conditions.toList.map fun c => (c.1.tag, c.2.toJson))

/-- The comparisons of several fields as the members of a JSON object. -/
def fieldsToJson (fields : ConditionMap) : List (String × Json) :=
  fields.toList.map fun f => (f.1, conditionsToJson f.2)

/-- The groups of a tree as a JSON value. -/
def groupsToJson (groups : List ConditionMap) : Json :=
  .array (groups.map fun g => .object (fieldsToJson g))

/-- The tree as a JSON object: a member for each field, then the groups if there are any. -/
def toJson (t : FilterTree) : Json :=
  .object (fieldsToJson t.fields
    ++ if t.groups.isEmpty then [] else [(groupsKey, groupsToJson t.groups)])

end FilterTree

end RequestQuery
