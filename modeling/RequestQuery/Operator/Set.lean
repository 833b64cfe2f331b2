import RequestQuery.Error
import RequestQuery.Operator.Basic

/-!
# Operator sets

* `standardEncodings` — the value-encoded operators, in the order in which they are tried.
* `Operator.builtin?` — the standard operator for a comparison.
* `OperatorSet` — operators in the order in which they are tried; those that settings can declare unless some
  other type of operators is given.
* `OperatorSet.identity`, `OperatorSet.standard`, `OperatorSet.searchable` — the usual sets.
* `OperatorSet.resolve` — the first operator that understands a value.
* `OperatorSet.predicate` — what the value then asks for.
* `OperatorSet.extraFields` — the parameters that the operators bring along.
-/

namespace RequestQuery

/-! ### Patterns of values -/

/-- A marker, two texts that are not empty with one separator between them, and nothing else. -/
def rangePattern (marker : String) : Pattern :=
  let bound : Pattern := .plus (.char (.complement (.single ValueEncoding.rangeSeparator)))
  .sequence [.assertion .textStart, .text marker, bound, .literal ValueEncoding.rangeSeparator, bound,
    .assertion .textEnd]

/-- Any characters but line breaks. -/
def withinLine : Pattern :=
  .char (.complement (.single '\n'))

/-- A marker, a point or a digit, and then anything on the same line. -/
def numberPattern (marker : String) : Pattern :=
  .sequence [.assertion .textStart, .text marker, .alt (.literal '.') (.char .digit),
    .star withinLine, .assertion .textEnd]

/-- A marker and then something on the same line. -/
def anyPattern (marker : String) : Pattern :=
  .sequence [.assertion .textStart, .text marker, .plus withinLine, .assertion .textEnd]

/-! ### The standard operators -/

/-- The value-encoded operators, in the order in which they are tried. -/
def standardEncodings : List ValueEncoding :=
  [ ⟨"<>", .between, rangePattern "<>", .two⟩,
    ⟨"!<>", .notBetween, rangePattern "!<>", .two⟩,
    ⟨">", .greater, numberPattern ">", .one⟩,
    ⟨":>", .greaterOrEqual, numberPattern ":>", .one⟩,
    ⟨"<", .less, numberPattern "<", .one⟩,
    ⟨":<", .lessOrEqual, numberPattern ":<", .one⟩,
    ⟨"!", .notEqual, anyPattern "!", .one⟩ ]

/-- The standard value-encoded operator for a comparison. -/
def standardEncoding? (c : Comparison) : Option ValueEncoding :=
  standardEncodings.find? fun e => e.comparison == c

/-- The standard operator for a comparison. -/
def Operator.builtin? : Comparison → Option Operator
  | .equal => some .identity
  | .oneOf => some .inList
  | c => (standardEncoding? c).map .encoded

/-! ### Sets -/

/-- Operators in the order in which they are tried. -/
abbrev OperatorSet (ω : Type := Operator) := List ω

namespace OperatorSet

/-- Equality only. -/
def identity : OperatorSet :=
  [.identity]

/-- The value-encoded operators, lists of values, then equality. -/
def standard : OperatorSet :=
  standardEncodings.map .encoded ++ [.inList, .identity]

/-- Texts that contain the value for `strictFields`, a search in `searchFields` for `searchParam`, then
the standard operators. -/
def searchable (strictFields searchFields : List String) (searchParam : String) : OperatorSet :=
  .contains strictFields false :: .search searchParam searchFields false :: standard

open OperatorLike

variable {ω : Type} [OperatorLike ω]

/-- The first operator that understands the value of a parameter. -/
def resolve (ops : OperatorSet ω) (value : Scalar) (field param : String) : Except QueryError ω :=
  match ops.find? fun op => (functions op).applies value field param with
  | some op => .ok op
  | none => .error (.noOperator param field)

/-- What the value of a parameter asks of a field. -/
def predicate (ops : OperatorSet ω) (value : Scalar) (field param : String) :
    Except QueryError Predicate :=
  (ops.resolve value field param).map fun op => (functions op).predicate value field param

/-- The parameters that the operators bring along to those that are allowed, in order. -/
def extraFields (ops : OperatorSet ω) (allowed : List String := []) : List String :=
  ops.flatMap fun op => (functions op).extraFields allowed

end OperatorSet

end RequestQuery
