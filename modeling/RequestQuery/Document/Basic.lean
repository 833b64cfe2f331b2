import RequestQuery.Binary64

/-!
# Documents

* `Document` — what a text in a data format says: a tree of values in order of appearance.
* `Document.height` — the number of nested lists and tables.
* `Document.isWhole` — whether the text makes sense to its end.
* `Document.isReadable` — whether moreover everything in it stands for a value.

Repeated keys stay in the tree, and so do the places where a text goes wrong. Whoever reads a tree
from front to back meets the first fault first.
-/

namespace RequestQuery

/-- What a text in a data format says. -/
inductive Document where
  | null
  | bool (b : Bool)
  | integer (i : Int)
  | double (x : Binary64)
  | text (s : String)
  | list (items : List Document)
  | table (members : List (String × Document))
  /-- A date or a time, as text. -/
  | moment (s : String)
  /-- Something well formed that stands for no value, such as a number out of range. -/
  | unreadable
  /-- The place from which the text no longer makes sense. -/
  | broken
deriving Inhabited

namespace Document

mutual

/-- The number of lists and tables around the innermost value. -/
def height : Document → Nat
  | .list items => heightList items + 1
  | .table members => heightMembers members + 1
  | _ => 0

/-- The largest height of a list of documents. -/
def heightList : List Document → Nat
  | [] => 0
  | d :: ds => max d.height (heightList ds)

/-- The largest height of the values of a table. -/
def heightMembers : List (String × Document) → Nat
  | [] => 0
  | (_, d) :: ms => max d.height (heightMembers ms)

end

mutual

/-- Whether the text makes sense to its end. -/
def isWhole : Document → Bool
  | .list items => isWholeList items
  | .table members => isWholeMembers members
  | .broken => false
  | _ => true

/-- Whether every document of a list is whole. -/
def isWholeList : List Document → Bool
  | [] => true
  | d :: ds => d.isWhole && isWholeList ds

/-- Whether every value of a table is whole. -/
def isWholeMembers : List (String × Document) → Bool
  | [] => true
  | (_, d) :: ms => d.isWhole && isWholeMembers ms

end

mutual

/-- Whether everything in the document stands for a value. -/
def isReadable : Document → Bool
  | .list items => isReadableList items
  | .table members => isReadableMembers members
  | .broken => false
  | .unreadable => false
  | _ => true

/-- Whether every document of a list is readable. -/
def isReadableList : List Document → Bool
  | [] => true
  | d :: ds => d.isReadable && isReadableList ds

/-- Whether every value of a table is readable. -/
def isReadableMembers : List (String × Document) → Bool
  | [] => true
  | (_, d) :: ms => d.isReadable && isReadableMembers ms

end

/-- The number of nested lists and tables a reader follows. -/
def maxHeight : Nat := 127

end Document

end RequestQuery
