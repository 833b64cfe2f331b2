import RequestQuery.Binary64
import RequestQuery.Json.Basic
import RequestQuery.Text.Basic

/-!
# Scalars

* `Scalar` — the values of request parameters that take part in a query.
* `Scalar.ofJson?` — the scalar of a JSON value; lists, objects and null are none.
* `Scalar.toInt64?` — a lenient reading as an integer.
* `Scalar.display` — the value as plain text.
-/

namespace RequestQuery

/-- A value of a request parameter. -/
inductive Scalar where
  | boolean (b : Bool)
  | integer (i : Int64)
  | float (x : Binary64)
  | text (s : String)
deriving DecidableEq, Inhabited

namespace Scalar

/-- Scalars of different kinds differ, whatever they display as; floats compare as numbers. -/
instance : BEq Scalar where
  beq
    | .boolean b, .boolean c => b == c
    | .integer i, .integer j => i == j
    | .float x, .float y => x == y
    | .text s, .text t => s == t
    | _, _ => false

/-- The scalar of an integer; one that does not fit 64 bits with sign is a float. -/
def ofInt (i : Int) : Scalar :=
  if Int64.minValue.toInt ≤ i ∧ i ≤ Int64.maxValue.toInt then
    .integer (Int64.ofInt i)
  else
    .float (Binary64.ofInt i)

/-- The scalar of a JSON value. -/
def ofJson? : Json → Option Scalar
  | .bool b => some (.boolean b)
  | .integer i => some (ofInt i)
  | .double x => some (.float x)
  | .string s => some (.text s)
  | .null => none
  | .array _ => none
  | .object _ => none

/-- The scalar as a JSON value. -/
def toJson : Scalar → Json
  | .boolean b => .bool b
  | .integer i => .integer i.toInt
  | .float x => .double x
  | .text s => .string s

/-- The text of a text scalar. -/
def text? : Scalar → Option String
  | .text s => some s
  | _ => none

/-- Whether this is the empty text. -/
def isEmptyText : Scalar → Bool
  | .text s => s.isEmpty
  | _ => false

/-- A lenient reading as an integer: a text gives the integer it starts with, a float its integer
part, and a boolean nothing. -/
def toInt64? : Scalar → Option Int64
  | .integer i => some i
  | .float x => x.toInt64?
  | .text s => Text.leadingInteger? s.toList
  | .boolean _ => none

/-- The scalar as plain text. -/
def display : Scalar → String
  | .boolean b => if b then "true" else "false"
  | .integer i => toString i.toInt
  | .float x =>
    if x.isNaN then "NaN"
    else if x.isFinite then Layout.plain.write x
    else if x.isNegative then "-inf" else "inf"
  | .text s => s

end Scalar

end RequestQuery
