import RequestQuery.Json.Basic
import RequestQuery.Json.Token

/-!
# Reading JSON texts

* `Json.Reader` — a reader part way through a text: the lists and tables that are still open, and what
  may come next.
* `Json.Reader.step` — the reader after one more token.
* `Document.ofJson` — the document of a JSON text. A text that goes wrong is kept up to that place.
* `Json.parse?` — the value of a JSON text.
-/

namespace RequestQuery

namespace Json

/-- A list or table that is still open. -/
inductive Frame where
  /-- The items so far, last first. -/
  | list (items : List Document)
  /-- The members so far, last first. -/
  | table (members : List (String × Document))
  /-- The members so far, last first, and the key of the member to come. -/
  | member (members : List (String × Document)) (key : String)

/-- What may come next. -/
inductive Expectation where
  | value
  | valueOrClose
  | key
  | keyOrClose
  | colon
  | commaOrClose
  /-- Nothing: the value is complete. -/
  | theEnd (d : Document)
  /-- The text has gone wrong. -/
  | nothing

/-- A reader part way through a text. -/
structure Reader where
  /-- The lists and tables still open, innermost first. -/
  frames : List Frame
  expected : Expectation

namespace Reader

/-- The reader before the first token. -/
def start : Reader :=
  ⟨[], .value⟩

/-- The reader from the place where the text goes wrong. -/
def fail (r : Reader) : Reader :=
  ⟨r.frames, .nothing⟩

/-- Put a complete value into the innermost open list or table. -/
def place (frames : List Frame) (d : Document) : Reader :=
  match frames with
  | [] => ⟨[], .theEnd d⟩
  | .list items :: outer => ⟨.list (d :: items) :: outer, .commaOrClose⟩
  | .member members key :: outer => ⟨.table ((key, d) :: members) :: outer, .commaOrClose⟩
  | .table members :: outer => ⟨.table members :: outer, .nothing⟩

/-- Close the innermost list. -/
def closeList (r : Reader) : Reader :=
  match r.frames with
  | .list items :: outer => place outer (.list items.reverse)
  | _ => r.fail

/-- Close the innermost table. -/
def closeTable (r : Reader) : Reader :=
  match r.frames with
  | .table members :: outer => place outer (.table members.reverse)
  | _ => r.fail

/-- Take the first token of a value. -/
def openValue (r : Reader) : Token → Reader
  | .openList => ⟨.list [] :: r.frames, .valueOrClose⟩
  | .openTable => ⟨.table [] :: r.frames, .keyOrClose⟩
  | .string (some s) => place r.frames (.text s)
  | .string none => place r.frames .unreadable
  | .value d => place r.frames d
  | _ => r.fail

/-- Take the key of a member. -/
def takeKey (r : Reader) : Token → Reader
  | .string (some s) =>
    match r.frames with
    | .table members :: outer => ⟨.member members s :: outer, .colon⟩
    | _ => r.fail
  | _ => r.fail

/-- Take a comma between two items or members. -/
def takeComma (r : Reader) : Reader :=
  match r.frames with
  | .list _ :: _ => ⟨r.frames, .value⟩
  | .table _ :: _ => ⟨r.frames, .key⟩
  | _ => r.fail

/-- A complete value that more text follows: the text goes wrong right behind it. -/
def spoil : Document → Document
  | .list items => .list (items ++ [.broken])
  | .table members => .table (members ++ [("", .broken)])
  | _ => .broken

/-- The reader after one more token. -/
def step (r : Reader) (t : Token) : Reader :=
  match r.expected, t with
  | .value, t => r.openValue t
  | .valueOrClose, .closeList => r.closeList
  | .valueOrClose, t => r.openValue t
  | .key, t => r.takeKey t
  | .keyOrClose, .closeTable => r.closeTable
  | .keyOrClose, t => r.takeKey t
  | .colon, .colon => ⟨r.frames, .value⟩
  | .commaOrClose, .comma => r.takeComma
  | .commaOrClose, .closeList => r.closeList
  | .commaOrClose, .closeTable => r.closeTable
  | .theEnd d, _ => ⟨[], .theEnd (spoil d)⟩
  | _, _ => r.fail

/-- The document of what was read when the text ends or goes wrong inside the open frames. -/
def brokenOff (inner : Document) : List Frame → Document
  | [] => inner
  | .list items :: outer => brokenOff (.list (inner :: items).reverse) outer
  | .table members :: outer => brokenOff (.table (("", inner) :: members).reverse) outer
  | .member members key :: outer => brokenOff (.table ((key, inner) :: members).reverse) outer

/-- The document read by the end of the text. -/
def finish (r : Reader) : Document :=
  match r.expected with
  | .theEnd d => d
  | _ => brokenOff .broken r.frames

end Reader

end Json

/-- The document of a JSON text. -/
def Document.ofJson (text : String) : Document :=
  ((Json.Token.ofText text).foldl Json.Reader.step Json.Reader.start).finish

/-- The value of a JSON text, if it is one. -/
def Json.parse? (text : String) : Option Json :=
  Json.ofDocument? (Document.ofJson text)

end RequestQuery
