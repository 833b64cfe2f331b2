import RequestQuery.Document.Basic
import RequestQuery.Scalar

/-!
# Predicates

* `Comparison` — what a condition asks of a field.
* `Comparison.tag`, `Comparison.ofTag?` — the word for a comparison in conditions and settings.
* `Arguments` — what a field is compared with.
* `Condition` — a comparison of one field.
* `Predicate` — a condition, or several of which one must hold.

Comparisons are ordered as they are declared; the comparisons of one field are kept in that order.
-/

namespace RequestQuery

/-- What a condition asks of a field. -/
inductive Comparison where
  | equal
  | notEqual
  | greater
  | greaterOrEqual
  | less
  | lessOrEqual
  /-- Inside a range, ends included. -/
  | between
  /-- Outside a range. -/
  | notBetween
  /-- One of a list of values. -/
  | oneOf
  /-- Like a pattern with wildcards. -/
  | like
deriving DecidableEq, Repr, Inhabited

namespace Comparison

/-- All comparisons, in order. -/
def all : List Comparison :=
  [.equal, .notEqual, .greater, .greaterOrEqual, .less, .lessOrEqual, .between, .notBetween, .oneOf,
    .like]

/-- The place of a comparison in the order. -/
def rank : Comparison → Nat
  | .equal => 0
  | .notEqual => 1
  | .greater => 2
  | .greaterOrEqual => 3
  | .less => 4
  | .lessOrEqual => 5
  | .between => 6
  | .notBetween => 7
  | .oneOf => 8
  | .like => 9

instance : Ord Comparison :=
  ⟨fun a b => compare a.rank b.rank⟩

theorem rank_inj {a b : Comparison} (h : a.rank = b.rank) : a = b := by
  cases a <;> cases b <;> first | rfl | cases h

instance : Std.TransOrd Comparison where
  eq_swap {a b} := Std.OrientedOrd.eq_swap (a := a.rank) (b := b.rank)
  isLE_trans {a b c} := Std.TransOrd.isLE_trans (a := a.rank) (b := b.rank) (c := c.rank)

instance : Std.LawfulEqOrd Comparison where
  compare_self {a} := Std.ReflOrd.compare_self (a := a.rank)
  eq_of_compare {_ _} h := rank_inj (Std.LawfulEqOrd.eq_of_compare h)

/-- The word for a comparison. -/
def tag : Comparison → String
  | .equal => "eq"
  | .notEqual => "ne"
  | .greater => "gt"
  | .greaterOrEqual => "gte"
  | .less => "lt"
  | .lessOrEqual => "lte"
  | .between => "between"
  | .notBetween => "not_between"
  | .oneOf => "in"
  | .like => "like"

/-- The comparison with the given word. -/
def ofTag? (word : String) : Option Comparison :=
  all.find? fun c => c.tag == word

end Comparison

/-! ### Conditions -/

/-- What a field is compared with. -/
inductive Arguments where
  /-- The value of a parameter as it is. -/
  | value (s : Scalar)
  | text (s : String)
  /-- The lower and the upper end of a range. -/
  | range (lower upper : String)
  | list (items : List String)
deriving BEq, DecidableEq, Inhabited

/-- The arguments as a JSON value. -/
def Arguments.toJson : Arguments → Json
  | .value s => s.toJson
  | .text s => .string s
  | .range lower upper => .array [.string lower, .string upper]
  | .list items => .array (items.map .string)

/-- A comparison of one field. -/
structure Condition where
  field : String
  comparison : Comparison
  arguments : Arguments
deriving DecidableEq, Inhabited

/-- A condition, or several of which one must hold. -/
inductive Predicate where
  | field (condition : Condition)
  | anyOf (conditions : List Condition)
deriving DecidableEq, Inhabited

end RequestQuery
