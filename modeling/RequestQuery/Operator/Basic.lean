import RequestQuery.Pattern.Basic
import RequestQuery.Predicate
import RequestQuery.Text.Basic

/-!
# Operators

An operator decides whether it understands the value of a parameter, and what the value then asks for. Which
operators there are is open: whatever has these functions can be used as one.

* `OperatorFunctions`, `OperatorLike` — what an operator does, and the types whose values are operators.
* `ValueEncoding` — a comparison that is written as a marker in front of the value, such as `>5`.
* `Operator` — the kinds of operators that settings can declare.
* `Operator.applies` — whether an operator understands a value.
* `Operator.arguments`, `Operator.predicate` — what the value asks for.
* `Operator.extraFields` — the parameters an operator brings along.
* `Operator.functions` — the kinds as operators.
* `likePattern` — a text between wildcards.
-/

namespace RequestQuery

/-! ### What operators do -/

/-- What an operator does with the value that the parameter `param` gives for `field`. -/
structure OperatorFunctions where
  name : String
  /-- The comparison that it makes. -/
  comparison : Comparison
  /-- Whether it understands the value. -/
  applies : (value : Scalar) → (field param : String) → Bool
  /-- The arguments that the value gives. -/
  arguments : (value : Scalar) → (field param : String) → Arguments
  /-- What the value asks for; unless the operator says otherwise, its comparison of the field. -/
  predicate : (value : Scalar) → (field param : String) → Predicate :=
    fun value field param => .field ⟨field, comparison, arguments value field param⟩
  /-- The parameters that it brings along to those that are allowed; none unless it says otherwise. -/
  extraFields : (allowed : List String) → List String := fun _ => []

/-- A type whose values can be used as operators. -/
class OperatorLike (ω : Type) where
  /-- What an operator does. -/
  functions : ω → OperatorFunctions

instance : OperatorLike OperatorFunctions where
  functions op := op

/-! ### Kinds of operators -/

/-- How many arguments a value-encoded operator takes. -/
inductive Arity where
  | one
  | two
deriving DecidableEq, Repr, Inhabited

/-- The word for a number of arguments. -/
def Arity.tag : Arity → String
  | .one => "one"
  | .two => "two"

/-- A comparison that is written as a marker in front of the value. -/
structure ValueEncoding where
  /-- What the value starts with. -/
  marker : String
  comparison : Comparison
  /-- What the value, marker included, must match. -/
  pattern : Pattern
  arity : Arity
deriving DecidableEq, Inhabited

/-- The kinds of operators that settings can declare. -/
inductive Operator where
  /-- Equality with the value as it is. -/
  | identity
  /-- A comparison that is written as a marker in front of the value. -/
  | encoded (encoding : ValueEncoding)
  /-- Membership in a list, written `<<>>a,b,c`. -/
  | inList
  /-- Texts that contain the value, for certain parameters. -/
  | contains (params : List String) (percentSafe : Bool)
  /-- Texts that contain the value in one of several fields, for one parameter. -/
  | search (param : String) (fields : List String) (percentSafe : Bool)
deriving DecidableEq, Inhabited

/-! ### Wildcards -/

/-- A character of a pattern with wildcards that stands for itself. -/
def escapeLikeChar (c : Char) : List Char :=
  if c = '\\' then ['\\', '\\']
  else if c = '%' then ['\\', '%']
  else [c]

/-- A text that stands for itself inside a pattern with wildcards. -/
def escapeLike (cs : List Char) : List Char :=
  cs.flatMap escapeLikeChar

/-- A text with a wildcard on either side; `percentSafe` if the text shall stand for itself. -/
def likePattern (text : String) (percentSafe : Bool) : String :=
  let cs := text.toList
  String.ofList ('%' :: (if percentSafe then escapeLike cs else cs) ++ ['%'])

/-! ### Value-encoded operators -/

namespace ValueEncoding

/-- Separates the two ends of a range. -/
def rangeSeparator : Char := '|'

/-- Whether a text is a value of this encoding. -/
def accepts (e : ValueEncoding) (s : String) : Bool :=
  (Text.stripStart? e.marker.toList s.toList).isSome && e.pattern.search s

/-- The text of a value behind its marker, without blanks at its ends. -/
def payload (e : ValueEncoding) (s : String) : List Char :=
  let cs := s.toList
  Text.trim ((Text.stripStart? e.marker.toList cs).getD cs)

/-- The arguments of a value: the text behind the marker, cut in two if there are two arguments. -/
def arguments (e : ValueEncoding) (s : String) : Arguments :=
  let cs := e.payload s
  match e.arity, Text.cut? rangeSeparator cs with
  | .two, some (lower, upper) => .range (String.ofList lower) (String.ofList upper)
  | _, _ => .text (String.ofList cs)

end ValueEncoding

/-! ### Lists of values -/

namespace InList

/-- What a list of values starts with. -/
def marker : String := "<<>>"

/-- The characters of a list of values: letters, digits and the comma. -/
def itemChars : CharSet :=
  .anyCase (.ranges [(0x41, 0x5A), (0x30, 0x39), (0x2C, 0x2C)])

/-- A marker and then characters of a list, and nothing else. -/
def pattern : Pattern :=
  .sequence [.assertion .textStart, .text marker, .plus (.char itemChars), .assertion .textEnd]

/-- Whether a text is a list of values. -/
def accepts (s : String) : Bool :=
  (Text.stripStart? marker.toList s.toList).isSome && pattern.search s

/-- The characters of a list behind the first marker that some follow. -/
def run : List Char → List Char
  | [] => []
  | c :: cs =>
    match Text.stripStart? marker.toList (c :: cs) with
    | some rest =>
      let found := rest.takeWhile itemChars.contains
      if found.isEmpty then run cs else found
    | none => run cs

/-- The values of a list, empty ones left out. -/
def items (s : String) : List String :=
  ((Text.splitOn ',' (run s.toList)).filter fun item => !item.isEmpty).map String.ofList

end InList

/-! ### All operators -/

namespace Operator

/-- The name of an operator. -/
def name : Operator → String
  | .identity => "identity"
  | .encoded e => e.marker
  | .inList => InList.marker
  | .contains _ _ => "contains"
  | .search _ _ _ => "search"

/-- The comparison that an operator makes. -/
def comparison : Operator → Comparison
  | .identity => .equal
  | .encoded e => e.comparison
  | .inList => .oneOf
  | .contains _ _ => .like
  | .search _ _ _ => .like

/-- Whether an operator understands the value of the parameter `param`. -/
def applies (op : Operator) (value : Scalar) (param : String) : Bool :=
  match op with
  | .identity => true
  | .encoded e => value.text?.any e.accepts
  | .inList => value.text?.any InList.accepts
  | .contains params _ =>
    !value.isEmptyText && value != .boolean false && params.contains param
  | .search searchParam fields _ =>
    !value.isEmptyText && param == searchParam && !fields.isEmpty

/-- The arguments that a value gives. -/
def arguments (op : Operator) (value : Scalar) : Arguments :=
  match op with
  | .identity => .value value
  | .encoded e => e.arguments value.display
  | .inList => .list (InList.items value.display)
  | .contains _ percentSafe => .text (likePattern value.display percentSafe)
  | .search _ _ percentSafe => .text (likePattern value.display percentSafe)

/-- What a value asks of `field`; a search asks the same of its own fields instead. -/
def predicate (op : Operator) (value : Scalar) (field : String) : Predicate :=
  match op with
  | .search _ fields _ => .anyOf (fields.map fun f => ⟨f, op.comparison, op.arguments value⟩)
  | _ => .field ⟨field, op.comparison, op.arguments value⟩

/-- The parameters an operator brings along. -/
def extraFields : Operator → List String
  | .contains params _ => params
  | .search param _ _ => [param]
  | _ => []

/-- What an operator of some kind does. No kind looks at the field to understand a value, nor at the allowed
parameters to bring others along. -/
def functions (op : Operator) : OperatorFunctions where
  name := op.name
  comparison := op.comparison
  applies value _ param := op.applies value param
  arguments value _ _ := op.arguments value
  predicate value field _ := op.predicate value field
  extraFields _ := op.extraFields

instance : OperatorLike Operator where
  functions := functions

@[simp] theorem applies_functions (op : Operator) (value : Scalar) (field param : String) :
    (OperatorLike.functions op).applies value field param = op.applies value param := rfl

@[simp] theorem predicate_functions (op : Operator) (value : Scalar) (field param : String) :
    (OperatorLike.functions op).predicate value field param = op.predicate value field := rfl

end Operator

end RequestQuery
