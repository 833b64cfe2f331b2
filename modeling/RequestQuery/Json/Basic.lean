import RequestQuery.Document.Basic
import RequestQuery.SortedMap

/-!
# JSON values

* `Json` — a JSON value. Integers are kept exactly, apart from doubles.
* `Json.ofMap` — the object of a map.
* `Json.ofDocument?` — the value of a document; a repeated key keeps the last value, and the members
  of an object are put in key order.
* `Json.toDocument` — the document of a value.
-/

namespace RequestQuery

/-- A JSON value. The members of an object stand in the order in which they are written. -/
inductive Json where
  | null
  | bool (b : Bool)
  | integer (i : Int)
  | double (x : Binary64)
  | string (s : String)
  | array (items : List Json)
  | object (members : List (String × Json))
deriving Inhabited

namespace Json

/-- The object of a map, in key order. -/
def ofMap (m : SortedMap String Json) : Json :=
  .object m.toList

/-- The value of a member of an object. -/
def member? (key : String) : Json → Option Json
  | .object members => SortedMap.lookup key members
  | _ => none

/-! ### Documents -/

mutual

/-- The value of a document, unless something in it stands for no value. -/
def ofValue? : Document → Option Json
  | .null => some .null
  | .bool b => some (.bool b)
  | .integer i => some (.integer i)
  | .double x => some (.double x)
  | .text s => some (.string s)
  | .list items => (ofItems? items).map .array
  | .table members => (ofMembers? members).map fun ms => ofMap (SortedMap.ofList ms)
  | .moment _ => none
  | .unreadable => none
  | .broken => none

/-- The values of a list of documents. -/
def ofItems? : List Document → Option (List Json)
  | [] => some []
  | d :: ds => do
    let v ← ofValue? d
    let vs ← ofItems? ds
    some (v :: vs)

/-- The members of a table of documents. -/
def ofMembers? : List (String × Document) → Option (List (String × Json))
  | [] => some []
  | (key, d) :: ms => do
    let v ← ofValue? d
    let vs ← ofMembers? ms
    some ((key, v) :: vs)

end

/-- The value of a document that is not nested too deeply. -/
def ofDocument? (d : Document) : Option Json :=
  if d.height ≤ Document.maxHeight then ofValue? d else none

mutual

/-- The document of a value. -/
def toDocument : Json → Document
  | .null => .null
  | .bool b => .bool b
  | .integer i => .integer i
  | .double x => .double x
  | .string s => .text s
  | .array items => .list (toDocuments items)
  | .object members => .table (toTable members)

/-- The documents of a list of values. -/
def toDocuments : List Json → List Document
  | [] => []
  | v :: vs => v.toDocument :: toDocuments vs

/-- The table of the members of an object. -/
def toTable : List (String × Json) → List (String × Document)
  | [] => []
  | (key, v) :: ms => (key, v.toDocument) :: toTable ms

end

end Json

end RequestQuery
