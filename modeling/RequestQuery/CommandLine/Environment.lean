import RequestQuery.Text.Characters

/-!
# Environment files

An environment file defines variables, a line for each: a name, an equals sign and a value. Blank lines
and lines that start with `#` define nothing.

* `EnvironmentFile.definitions` — the variables that a text defines, up to the first line that is
  malformed.
* `EnvironmentFile.lookup` — the value of a variable: the surrounding environment goes first.
-/

namespace RequestQuery.EnvironmentFile

/-- Variables and their values, in order of definition. -/
abbrev Definitions := List (String × String)

/-- The latest value that was defined for a name. -/
def find? (name : String) (ds : Definitions) : Option String :=
  (ds.reverse.find? fun d => d.1 == name).map Prod.snd

/-- The value of a variable, empty if it is not defined anywhere. -/
def valueOf (outer : String → Option String) (ds : Definitions) (name : List Char) : List Char :=
  let name := String.ofList name
  (((outer name).orElse fun _ => find? name ds).getD "").toList

/-! ### Values -/

/-- The place inside a value. -/
inductive Place where
  | plain
  /-- Between single quotes, where every character stands for itself. -/
  | single
  /-- Between double quotes. -/
  | double
  /-- Behind the value, where only a comment may follow. -/
  | behind
deriving DecidableEq

/-- What a character behind a backslash stands for. -/
def escape? (c : Char) : Option Char :=
  if c == 'n' then some '\n'
  else if ['\\', '\'', '"', '$', ' '].contains c then some c
  else none

/-- Whether a character may stand in the name of a variable whose value is put in. -/
def isNameChar (c : Char) : Bool :=
  c.isAlphanum

/-- Put characters in front of a value that is read. -/
def prepend (cs : List Char) (r : Option (List Char × List Char)) : Option (List Char × List Char) :=
  r.map fun (value, rest) => (cs ++ value, rest)

/-- A value up to the end of its line, and the lines that follow; at most `fuel` steps. A dollar sign
stands in front of the name of a variable, which may be in braces. -/
def value (lookup : List Char → List Char) :
    Nat → Place → List Char → Option (List Char × List Char)
  | 0, _, _ => none
  | _ + 1, .plain, [] => some ([], [])
  | _ + 1, .behind, [] => some ([], [])
  | _ + 1, .single, [] => none
  | _ + 1, .double, [] => none
  | fuel + 1, .behind, c :: cs =>
    if c == '\n' then some ([], cs)
    else if c == ' ' || c == '\t' then value lookup fuel .behind cs
    else if c == '#' then some ([], (cs.dropWhile (· != '\n')).drop 1)
    else none
  | fuel + 1, .single, c :: cs =>
    if c == '\'' then value lookup fuel .plain cs
    else prepend [c] (value lookup fuel .single cs)
  | fuel + 1, place, '\\' :: c :: cs => do
    prepend [← escape? c] (value lookup fuel place cs)
  | fuel + 1, place, '$' :: '\x7b' :: cs =>
    let name := cs.takeWhile fun c => c != '\x7d' && c != '\n'
    match cs.drop name.length with
    | '\x7d' :: rest => prepend (lookup name) (value lookup fuel place rest)
    | _ => none
  | fuel + 1, place, '$' :: cs =>
    let name := cs.takeWhile isNameChar
    prepend (lookup name) (value lookup fuel place (cs.drop name.length))
  | fuel + 1, .double, c :: cs =>
    if c == '"' then value lookup fuel .plain cs
    else prepend [c] (value lookup fuel .double cs)
  | fuel + 1, .plain, c :: cs =>
    if c == '\n' then some ([], cs)
    else if c == '\'' then value lookup fuel .single cs
    else if c == '"' then value lookup fuel .double cs
    else if c == ' ' || c == '\t' then value lookup fuel .behind cs
    else prepend [c] (value lookup fuel .plain cs)

/-! ### Lines -/

/-- Whether a character may stand in the name that a line defines. -/
def isKeyChar (c : Char) : Bool :=
  c.isAlphanum || c == '_' || c == '.'

/-- Whether a character is a blank inside a line. -/
def isInnerBlank (c : Char) : Bool :=
  c != '\n' && Text.isBlank c

/-- The name at the start of a line, and what follows it and its blanks. -/
def key? (cs : List Char) : Option (List Char × List Char) :=
  match cs with
  | [] => none
  | c :: _ =>
    if c.isAlpha || c == '_' then
      some (cs.takeWhile isKeyChar, (cs.dropWhile isKeyChar).dropWhile isInnerBlank)
    else
      none

/-- The name that a line defines, and what follows the equals sign. The word `export` may stand in front
of the name. -/
def defined? (cs : List Char) : Option (List Char × List Char) := do
  let (key, rest) ← key? cs
  match rest with
  | '=' :: rest => some (key, rest)
  | _ =>
    if String.ofList key != "export" then none
    let (key, rest) ← key? rest
    match rest with
    | '=' :: rest => some (key, rest)
    | _ => none

/-- The text without the blanks at the end of each line. -/
def trimLines : List Char → List Char
  | [] => []
  | c :: cs =>
    match trimLines cs with
    | [] => if Text.isBlank c then [] else [c]
    | '\n' :: rest => if isInnerBlank c then '\n' :: rest else c :: '\n' :: rest
    | rest => c :: rest

/-- The variables that the lines define behind `ds`, at most `fuel` lines, up to the first that is
malformed. -/
def definitionsFrom (outer : String → Option String) : Nat → Definitions → List Char → Definitions
  | 0, ds, _ => ds
  | fuel + 1, ds, cs =>
    match cs.dropWhile isInnerBlank with
    | [] => ds
    | '\n' :: rest => definitionsFrom outer fuel ds rest
    | '#' :: rest => definitionsFrom outer fuel ds ((rest.dropWhile (· != '\n')).drop 1)
    | cs =>
      match defined? cs with
      | none => ds
      | some (key, rest) =>
        let rest := rest.dropWhile isInnerBlank
        let read :=
          match rest with
          | '#' :: cs => some ([], (cs.dropWhile (· != '\n')).drop 1)
          | cs => value (valueOf outer ds) (cs.length + 1) .plain cs
        match read with
        | none => ds
        | some (value, rest) =>
          definitionsFrom outer fuel (ds ++ [(String.ofList key, String.ofList value)]) rest

/-- The variables that a text defines, given the surrounding environment. -/
def definitions (outer : String → Option String) (text : String) : Definitions :=
  let cs := trimLines text.toList
  definitionsFrom outer (cs.length + 1) [] cs

/-- The value of a variable. A variable of the surrounding environment keeps its value, and of several
definitions the first counts. -/
def lookup (outer : String → Option String) (text : String) (name : String) : Option String :=
  (outer name).orElse fun _ =>
    ((definitions outer text).find? fun d => d.1 == name).map Prod.snd

end RequestQuery.EnvironmentFile
