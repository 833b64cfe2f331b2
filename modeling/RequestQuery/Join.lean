import RequestQuery.Catalog
import RequestQuery.Filter

/-!
# Joins

* `Join` — a join of a query: an association, the model it leads to, conditions on that model and
  further joins from there.
* `Join.Key` — what tells two joins apart.
* `Join.toJson` — the join as a JSON object.
* `Join.absorb` — a join with what an equal join brings along.
* `Join.collapse` — several joins, equal ones made one.
* `Join.merge` — the same at every level: each join of the result stands once among its siblings. The first of
  several equal joins keeps its place, and its conditions take precedence.
* `RelationSource.find` — the association of a model by its name, or an error.
* `RelationSource.walk` — the associations along a path of names.
* `Join.chain` — one join for each association of a path, each inside the one before.
* `Join.ofFilter` — the join that a relational filter asks for.
* `Join.ofFilters` — the joins of several filters, equal ones merged.
-/

namespace RequestQuery

/-- A join of a query. -/
structure Join where
  /-- The association, by its handle. -/
  association : String
  /-- The model it leads to. -/
  model : String
  /-- The name of the join in the query. -/
  joinName : String
  /-- Whether rows without a partner are left out. -/
  isRequired : Bool
  /-- The conditions on the model. -/
  filter : Option FilterTree
  /-- The joins from the model. -/
  joins : List Join
deriving Inhabited

namespace Join

/-- What tells two joins apart. -/
structure Key where
  association : String
  model : String
  joinName : String
deriving DecidableEq, Inhabited

/-- What tells a join from others. -/
def key (j : Join) : Key :=
  ⟨j.association, j.model, j.joinName⟩

/-! ### Equality -/

mutual

/-- Whether two joins are equal, their conditions compared as conditions are. -/
def beq : Join → Join → Bool
  | ⟨a, m, n, r, f, js⟩, ⟨b, p, q, s, g, ks⟩ =>
    a == b && m == p && n == q && r == s && f == g && beqAll js ks

/-- Whether two lists of joins are equal. -/
def beqAll : List Join → List Join → Bool
  | [], [] => true
  | j :: js, k :: ks => beq j k && beqAll js ks
  | _, _ => false

end

instance : BEq Join :=
  ⟨beq⟩

/-! ### JSON -/

mutual

/-- The join as a JSON object; conditions and further joins are left out if there are none. -/
def toJson : Join → Json
  | ⟨association, model, joinName, isRequired, filter, joins⟩ =>
    .object
      ([ ("association", .string association), ("model", .string model), ("as", .string joinName),
          ("required", .bool isRequired) ]
        ++ (filter.map fun tree => ("where", tree.toJson)).toList
        ++ if joins.isEmpty then [] else [("include", .array (toJsonAll joins))])

/-- Several joins as JSON objects. -/
def toJsonAll : List Join → List Json
  | [] => []
  | j :: js => j.toJson :: toJsonAll js

end

/-! ### Merging -/

mutual

/-- The number of levels of a join. -/
def depth : Join → Nat
  | ⟨_, _, _, _, _, joins⟩ => depthAll joins + 1

/-- The number of levels of several joins. -/
def depthAll : List Join → Nat
  | [] => 0
  | j :: js => max j.depth (depthAll js)

end

/-- A join with what an equal join brings along: its conditions as far as they are missing, and its
joins behind the own ones. -/
def absorb (j other : Join) : Join :=
  { j with
    isRequired := j.isRequired || other.isRequired
    filter :=
      match other.filter with
      | none => j.filter
      | some conditions => some ((j.filter.getD ∅).mergeMissing conditions)
    joins := j.joins ++ other.joins }

/-- Put a join behind others, or into the first equal one. -/
def place (other : Join) : List Join → List Join
  | [] => [other]
  | j :: js => if j.key = other.key then j.absorb other :: js else j :: place other js

/-- Several joins, equal ones made one. -/
def collapse (joins : List Join) : List Join :=
  joins.foldl (fun placed j => place j placed) []

/-- Make equal joins one, down to the level `levels`. -/
def mergeWithin : Nat → List Join → List Join
  | 0, joins => joins
  | levels + 1, joins =>
    (collapse joins).map fun j => { j with joins := mergeWithin levels j.joins }

/-- Make equal joins one at every level. -/
def merge (joins : List Join) : List Join :=
  mergeWithin (depthAll joins) joins

end Join

/-! ### Joins of relational filters -/

namespace RelationSource

/-- The association of a model by its name. -/
def find (source : RelationSource) (model name : String) : Except QueryError Association :=
  match source model name with
  | some association => .ok association
  | none => .error (.unknownAssociation model name)

/-- The associations along a path that starts at a model. -/
def walk (source : RelationSource) (model : String) : List String → Except QueryError (List Association)
  | [] => .ok []
  | name :: names => do
    let association ← source.find model name
    let rest ← walk source association.target names
    .ok (association :: rest)

end RelationSource

namespace Join

/-- One join for each association, each inside the one before; the conditions belong to the last. -/
def chain (conditions : FilterTree) (a : Association) : List Association → Join
  | [] => ⟨a.handle, a.target, a.joinName, true, some conditions, []⟩
  | b :: rest => ⟨a.handle, a.target, a.joinName, true, none, [chain conditions b rest]⟩

variable {ω : Type} [OperatorLike ω]

/-- The join that a relational filter asks for, from the model `root` on. -/
def ofFilter (source : RelationSource) (root : String) (ops : OperatorSet ω) (f : Filter) :
    Except QueryError Join :=
  match f.spec.path with
  | [] => .error (.noLeaf f.spec.name f.spec.field)
  | name :: names =>
    if f.spec.leaf.isEmpty then
      .error (.noLeaf f.spec.name f.spec.field)
    else do
      let first ← source.find root name
      let rest ← source.walk first.target names
      let predicate ← ops.predicate f.value f.spec.leaf f.spec.name
      .ok (chain (.ofPredicate predicate) first rest)

/-- The joins that the relational ones of several filters ask for, equal ones merged. -/
def ofFilters (source : RelationSource) (root : String) (ops : OperatorSet ω) (filters : List Filter) :
    Except QueryError (List Join) := do
  let chains ← (filters.filter fun f => f.spec.isRelational).mapM (ofFilter source root ops)
  .ok (merge chains)

end Join

end RequestQuery
