import RequestQuery.Toml.Scan
import RequestQuery.Toml.Table

/-!
# Reading TOML texts

* `Toml.readValue` — a value of any kind.
* `Toml.readLine` — a line: a header, a key with its value, or neither.
* `Document.ofToml` — the document of a TOML text. A text that goes wrong anywhere is broken altogether.
-/

namespace RequestQuery

namespace Toml

mutual

/-- A value, inside at most `levels` more lists and tables. -/
def readValue : Nat → Nat → List Char → Option (Document × List Char)
  | 0, _, _ => none
  | fuel + 1, levels, cs =>
    match cs with
    | '"' :: _ => (readString cs).map fun (s, rest) => (.text s, rest)
    | '\'' :: _ => (readString cs).map fun (s, rest) => (.text s, rest)
    | '[' :: cs =>
      match levels with
      | 0 => none
      | levels + 1 => (readItems fuel levels cs).map fun (ds, rest) => (.list ds, rest)
    | '{' :: cs =>
      match levels with
      | 0 => none
      | levels + 1 => do
        let (entries, rest) ←
          match skipSpace cs with
          | '}' :: rest => some ([], rest)
          | cs => readEntries fuel levels cs
        some (← inlineTable entries, rest)
    | cs => readWord cs

/-- The items of a list up to its closing bracket; a comma may follow the last one. -/
def readItems : Nat → Nat → List Char → Option (List Document × List Char)
  | 0, _, _ => none
  | fuel + 1, levels, cs => do
    match ← skipLines false cs with
    | ']' :: rest => some ([], rest)
    | cs => do
      let (d, rest) ← readValue fuel levels cs
      match ← skipLines false rest with
      | ']' :: rest => some ([d], rest)
      | ',' :: rest => do
        let (ds, rest) ← readItems fuel levels rest
        some (d :: ds, rest)
      | _ => none

/-- The keys and values of a table up to its closing brace, all on one line. -/
def readEntries : Nat → Nat → List Char → Option (List (List String × Document) × List Char)
  | 0, _, _ => none
  | fuel + 1, levels, cs => do
    let (path, rest) ← readKeyPath (maxLevels - 1) cs
    match rest with
    | '=' :: cs => do
      let (d, rest) ← readValue fuel levels (skipSpace cs)
      match skipSpace rest with
      | '}' :: rest => some ([(path, d)], rest)
      | ',' :: rest => do
        let (entries, rest) ← readEntries fuel levels rest
        some ((path, d) :: entries, rest)
      | _ => none
    | _ => none

end

/-- A header behind its opening brackets, up to the closing ones. -/
def readHeader (cs : List Char) : Option (List String × List Char) :=
  readKeyPath (maxLevels - 1) cs

/-- The builder after one line, whose value is read in at most `fuel` steps, and the lines that follow. -/
def readLine (fuel : Nat) (b : Builder) (cs : List Char) : Option (Builder × List Char) := do
  match skipSpace cs with
  | [] => some (b, [])
  | '#' :: _ => some (b, ← endLine cs)
  | '\n' :: _ => some (b, ← endLine cs)
  | '\r' :: _ => some (b, ← endLine cs)
  | '[' :: '[' :: cs => do
    let (path, rest) ← readHeader cs
    match rest with
    | ']' :: ']' :: rest => some (← b.openRepeated path, ← endLine rest)
    | _ => none
  | '[' :: cs => do
    let (path, rest) ← readHeader cs
    match rest with
    | ']' :: rest => some (← b.openTable path, ← endLine rest)
    | _ => none
  | cs => do
    let (path, rest) ← readKeyPath (maxLevels - 1) cs
    match rest with
    | '=' :: cs => do
      let (d, rest) ← readValue fuel (maxLevels - 1) (skipSpace cs)
      some (← b.putKey path d, ← endLine rest)
    | _ => none

/-- The root table after all lines, at most `fuel` of them. A line takes at least one character, and a
value at least one for each step, so that the number of characters is enough. -/
def readLines : Nat → Builder → List Char → Option Members
  | _, b, [] => b.finish
  | 0, _, _ :: _ => none
  | fuel + 1, b, cs => do
    let (b, rest) ← readLine (fuel + 1) b cs
    readLines fuel b rest

/-- The text without a mark of its byte order. -/
def dropByteOrderMark : List Char → List Char
  | '\ufeff' :: cs => cs
  | cs => cs

end Toml

/-- The document of a TOML text; every line takes at least one character. -/
def Document.ofToml (text : String) : Document :=
  let cs := Toml.dropByteOrderMark text.toList
  match Toml.readLines cs.length .start cs with
  | some ms => .table (Toml.memberDocuments ms)
  | none => .broken

end RequestQuery
