import RequestQuery.Document.Record
import RequestQuery.Json.Basic
import RequestQuery.SortedMap

/-!
# Relation metadata

* `Association` — an association of a model, as a query joins it.
* `RelationSource` — where associations are looked up.
* `Catalog` — declared models with their associations.
* `Catalog.association?` — looking up an association of a catalog.
* `Catalog.ofDocument`, `Catalog.toJson` — a catalog in settings and as a JSON value.
-/

namespace RequestQuery

/-- An association of a model, as a query joins it. -/
structure Association where
  /-- Identifies the association. -/
  handle : String
  /-- The model it leads to. -/
  target : String
  /-- The name of the join. -/
  joinName : String
deriving DecidableEq, Inhabited

/-- The association of a model by its name, if there is one. -/
abbrev RelationSource := String → String → Option Association

/-- The declaration of an association. -/
structure AssociationDefinition where
  target : String
  /-- The name of the join, if it is not the name of the association. -/
  joinName : Option String
deriving DecidableEq, Inhabited

/-- The declaration of a model. -/
structure ModelDefinition where
  associations : SortedMap String AssociationDefinition
deriving DecidableEq, Inhabited

/-- Declared models. -/
structure Catalog where
  models : SortedMap String ModelDefinition
deriving DecidableEq, Inhabited

namespace Catalog

/-- No models. -/
def empty : Catalog :=
  ⟨∅⟩

/-- The declaration of a model. -/
def model? (catalog : Catalog) (name : String) : Option ModelDefinition :=
  catalog.models.get? name

/-- Declare an association, and its model if need be; an earlier declaration is replaced. -/
def declare (catalog : Catalog) (model name target : String) (joinName : Option String) : Catalog :=
  ⟨catalog.models.upsert model fun old =>
    ⟨(old.getD ⟨∅⟩).associations.insert name ⟨target, joinName⟩⟩⟩

/-- The association of a model by its name. -/
def association? (catalog : Catalog) : RelationSource := fun model name => do
  let definition ← (← catalog.model? model).associations.get? name
  some ⟨model ++ "." ++ name, definition.target, definition.joinName.getD name⟩

end Catalog

/-! ### Reading and writing -/

namespace AssociationDefinition

/-- The fields of a declaration, in order; the target must be mentioned. -/
def fields : List (Field (Option String × Option String)) :=
  [ ⟨"target", fun a d => return (some (← d.string), a.2)⟩,
    ⟨"as", fun a d => return (a.1, ← d.string?)⟩ ]

/-- The declaration in a document. -/
def ofDocument (d : Document) : Reading AssociationDefinition := do
  let (target, joinName) ← d.record fields false (none, none)
  return ⟨← Document.required target, joinName⟩

/-- The declaration as a JSON object. -/
def toJson (a : AssociationDefinition) : Json :=
  .object (("target", .string a.target) :: (a.joinName.map fun s => ("as", .string s)).toList)

end AssociationDefinition

namespace ModelDefinition

/-- The fields of a declaration. -/
def fields : List (Field ModelDefinition) :=
  [⟨"associations", fun _ d => return ⟨.ofList (← d.entries AssociationDefinition.ofDocument)⟩⟩]

/-- The declaration in a document. -/
def ofDocument (d : Document) : Reading ModelDefinition :=
  d.record fields false ⟨∅⟩

/-- The declaration as a JSON object. -/
def toJson (m : ModelDefinition) : Json :=
  .object [("associations", .object (m.associations.toList.map fun e => (e.1, e.2.toJson)))]

end ModelDefinition

namespace Catalog

/-- The catalog in a document. -/
def ofDocument (d : Document) : Reading Catalog :=
  return ⟨.ofList (← d.entries ModelDefinition.ofDocument)⟩

/-- The catalog as a JSON object. -/
def toJson (catalog : Catalog) : Json :=
  .object (catalog.models.toList.map fun e => (e.1, e.2.toJson))

end Catalog

end RequestQuery
