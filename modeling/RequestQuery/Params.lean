import RequestQuery.Json.Reader
import RequestQuery.Scalar
import RequestQuery.Text.Basic

/-!
# Request parameters

* `Params` — the parameters of a request: a JSON value for each name.
* `Params.scalar?` — the value of a parameter that takes part in a query.
* `Params.ofQueryString` — the parameters of a query string.
* `Params.parse?` — the parameters of a JSON text.
-/

namespace RequestQuery

/-- The parameters of a request: a JSON value for each name. -/
structure Params where
  values : SortedMap String Json
deriving Inhabited

namespace Params

/-- No parameters. -/
def empty : Params :=
  ⟨∅⟩

/-- The JSON value of a parameter. -/
def get? (params : Params) (name : String) : Option Json :=
  params.values.get? name

/-- The scalar value of a parameter; none if it is absent or no scalar. -/
def scalar? (params : Params) (name : String) : Option Scalar :=
  (params.get? name).bind Scalar.ofJson?

/-- Whether the parameter is there at all. -/
def contains (params : Params) (name : String) : Bool :=
  params.values.contains name

/-- Set a parameter. -/
def insert (params : Params) (name : String) (value : Json) : Params :=
  ⟨params.values.insert name value⟩

/-- The parameters of a list of names and values; a later value for the same name wins. -/
def ofList (pairs : List (String × Json)) : Params :=
  ⟨.ofList pairs⟩

/-- The parameters of a JSON object. -/
def ofJson? : Json → Option Params
  | .object members => some (ofList members)
  | _ => none

/-- The parameters of the text of a JSON object. -/
def parse? (text : String) : Option Params :=
  (Json.parse? text).bind ofJson?

/-- All parameters as a JSON object. -/
def toJson (params : Params) : Json :=
  .ofMap params.values

/-! ### Query strings -/

/-- The value of a name that occurs once more: several values are collected in a list. -/
def collect (value : Json) : Option Json → Json
  | none => value
  | some (.array items) => .array (items ++ [value])
  | some first => .array [first, value]

/-- The name and the value of one part of a query string; the value is empty if there is none. -/
def splitPair (part : List Char) : String × String :=
  let (name, value) := (Text.cut? '=' part).getD (part, [])
  (Text.decodeComponent (String.ofList name), Text.decodeComponent (String.ofList value))

/-- The names and values of a query string in order, nameless ones left out. -/
def queryPairs (query : String) : List (String × String) :=
  let cs := query.toList
  let parts := Text.splitOn '&' ((Text.stripStart? ['?'] cs).getD cs)
  ((parts.filter fun part => !part.isEmpty).map splitPair).filter fun pair => !pair.1.isEmpty

/-- The parameters of a query string. Every value is a text; a repeated name has the list of its
values. -/
def ofQueryString (query : String) : Params :=
  ⟨(queryPairs query).foldl (fun values pair => values.upsert pair.1 (collect (.string pair.2))) ∅⟩

end Params

end RequestQuery
