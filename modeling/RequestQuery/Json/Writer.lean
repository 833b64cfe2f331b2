import RequestQuery.Binary64
import RequestQuery.Json.Basic

/-!
# Writing JSON texts

* `Json.compact` — a value on one line, without spaces.
* `Json.pretty` — a value on many lines, each level indented by two more spaces; an empty list or
  object stays closed.

Strings escape the quote, the backslash and the control characters, and nothing else.
-/

namespace RequestQuery.Json

/-- A hexadecimal digit. -/
def hexDigit (n : Nat) : Char :=
  Nat.digitChar n

/-- A character inside a string. -/
def escapeChar (c : Char) : List Char :=
  if c == '"' then ['\\', '"']
  else if c == '\\' then ['\\', '\\']
  else if c == '\x08' then ['\\', 'b']
  else if c == '\x0c' then ['\\', 'f']
  else if c == '\n' then ['\\', 'n']
  else if c == '\r' then ['\\', 'r']
  else if c == '\t' then ['\\', 't']
  else if c.toNat < 0x20 then ['\\', 'u', '0', '0', hexDigit (c.toNat / 16), hexDigit (c.toNat % 16)]
  else [c]

/-- A string with its quotes. -/
def quote (s : String) : String :=
  String.ofList ('"' :: s.toList.flatMap escapeChar ++ ['"'])

/-- The texts of several values with commas between them. -/
def separated (separator : String) (texts : List String) : String :=
  separator.intercalate texts

mutual

/-- A value on one line. -/
def compact : Json → String
  | .null => "null"
  | .bool b => if b then "true" else "false"
  | .integer i => toString i
  | .double x => if x.isFinite then Layout.json.write x else "null"
  | .string s => quote s
  | .array items => "[" ++ separated "," (compactItems items) ++ "]"
  | .object members => "\x7b" ++ separated "," (compactMembers members) ++ "\x7d"

/-- Several values, each on one line. -/
def compactItems : List Json → List String
  | [] => []
  | v :: vs => v.compact :: compactItems vs

/-- Several members, each on one line. -/
def compactMembers : List (String × Json) → List String
  | [] => []
  | (key, v) :: ms => (quote key ++ ":" ++ v.compact) :: compactMembers ms

end

/-- A line break and the indentation of a level. -/
def newLine (level : Nat) : String :=
  String.ofList ('\n' :: List.replicate (2 * level) ' ')

/-- Texts between two brackets, one per line; no text, no line. -/
def bracketed (level : Nat) (opening closing : String) (texts : List String) : String :=
  match texts with
  | [] => opening ++ closing
  | _ =>
    opening ++ newLine (level + 1) ++ separated ("," ++ newLine (level + 1)) texts ++ newLine level
      ++ closing

mutual

/-- A value on many lines, the first of which is at the given level. -/
def prettyAt (level : Nat) : Json → String
  | .array items => bracketed level "[" "]" (prettyItems (level + 1) items)
  | .object members => bracketed level "\x7b" "\x7d" (prettyMembers (level + 1) members)
  | .null => compact .null
  | .bool b => compact (.bool b)
  | .integer i => compact (.integer i)
  | .double x => compact (.double x)
  | .string s => compact (.string s)

/-- Several values at the given level. -/
def prettyItems (level : Nat) : List Json → List String
  | [] => []
  | v :: vs => prettyAt level v :: prettyItems level vs

/-- Several members at the given level. -/
def prettyMembers (level : Nat) : List (String × Json) → List String
  | [] => []
  | (key, v) :: ms => (quote key ++ ": " ++ prettyAt level v) :: prettyMembers level ms

end

/-- A value on many lines. -/
def pretty (v : Json) : String :=
  prettyAt 0 v

end RequestQuery.Json
