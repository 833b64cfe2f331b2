import RequestQuery.Pattern.Basic

/-!
# Reading patterns

The usual notation for regular expressions, without look-around and back-references.

* `Pattern.Flags` — the switches that change what a notation means.
* `Pattern.readEscape`, `Pattern.readClass` — what follows a backslash, or an opening bracket.
* `Pattern.Builder` — the groups, branches and parts read so far.
* `Pattern.parse?` — the pattern that a text writes, unless it writes none or too large a one.
-/

namespace RequestQuery.Pattern

/-- The switches that change what a notation means. -/
structure Flags where
  /-- Letters stand for both cases. -/
  ignoreCase : Bool := false
  /-- `^` and `$` match at every line. -/
  multiLine : Bool := false
  /-- `.` matches line breaks too. -/
  dotAll : Bool := false
  /-- Blanks and comments in a pattern mean nothing. -/
  ignoreSpace : Bool := false
  /-- Carriage returns end lines. -/
  carriageReturns : Bool := false
deriving DecidableEq

/-- A set as the flags make it. -/
def Flags.apply (flags : Flags) (s : CharSet) : CharSet :=
  if flags.ignoreCase then .anyCase s else s

/-- What `.` stands for. -/
def Flags.dot (flags : Flags) : CharSet :=
  if flags.dotAll then .complement .empty
  else if flags.carriageReturns then .complement (.ranges [(0x0A, 0x0A), (0x0D, 0x0D)])
  else .complement (.ranges [(0x0A, 0x0A)])

/-- What `^` stands for. -/
def Flags.caret (flags : Flags) : Assertion :=
  if flags.multiLine then
    if flags.carriageReturns then .lineStartCr else .lineStart
  else .textStart

/-- What `$` stands for. -/
def Flags.dollar (flags : Flags) : Assertion :=
  if flags.multiLine then
    if flags.carriageReturns then .lineEndCr else .lineEnd
  else .textEnd

/-- The text without the blanks and comments at its start; `comment` tells whether it starts inside a
comment. -/
def skipSpaceFrom : Bool → List Char → List Char
  | _, [] => []
  | true, c :: cs => skipSpaceFrom (c != '\n') cs
  | false, c :: cs =>
    if c == '#' then skipSpaceFrom true cs
    else if Text.isBlank c then skipSpaceFrom false cs
    else c :: cs

/-- The text from the next character that means something. -/
def Flags.skip (flags : Flags) (cs : List Char) : List Char :=
  if flags.ignoreSpace then skipSpaceFrom false cs else cs

/-! ### Escapes -/

/-- What a backslash and the characters after it stand for. -/
inductive Escape where
  | literal (c : Char)
  | set (s : CharSet)
  | assertion (a : Assertion)

/-- The value of a hexadecimal digit. -/
def hexValue? (c : Char) : Option Nat :=
  if Text.isAsciiDigit c then some (c.toNat - '0'.toNat)
  else if 'a' ≤ c && c ≤ 'f' then some (c.toNat - 'a'.toNat + 10)
  else if 'A' ≤ c && c ≤ 'F' then some (c.toNat - 'A'.toNat + 10)
  else none

/-- The character whose code point the hexadecimal digits `ds` write. -/
def hexChar? (ds : List Char) : Option Char := do
  let n ← ds.foldlM (fun n c => (hexValue? c).map (n * 16 + ·)) 0
  if ds.isEmpty then none
  else if n < 0xD800 || (0xDFFF < n && n < 0x110000) then some (Char.ofNat n)
  else none

/-- A code point in hexadecimal digits: exactly `count` of them, or any number between braces. -/
def readHex (count : Nat) : List Char → Option (Escape × List Char)
  | '{' :: cs => do
    let ds := cs.takeWhile (· != '}')
    let c ← hexChar? ds
    match cs.drop ds.length with
    | _ :: rest => some (.literal c, rest)
    | [] => none
  | cs => do
    if cs.length < count then none
    let c ← hexChar? (cs.take count)
    some (.literal c, cs.drop count)

/-- The kind of word boundary that a name between braces selects, if there is one. -/
def readBoundary : List Char → Option (Assertion × List Char)
  | '{' :: cs =>
    let isNameChar (c : Char) : Bool := ('a' ≤ c && c ≤ 'z') || ('A' ≤ c && c ≤ 'Z') || c == '-'
    let name := cs.takeWhile isNameChar
    if name.isEmpty then
      if cs.isEmpty then none else some (.wordBoundary, '{' :: cs)
    else
      match cs.dropWhile isNameChar with
      | '}' :: rest =>
        match String.ofList name with
        | "start" => some (.wordStart, rest)
        | "end" => some (.wordEnd, rest)
        | "start-half" => some (.wordStartHalf, rest)
        | "end-half" => some (.wordEndHalf, rest)
        | _ => none
      | _ => none
  | cs => some (.wordBoundary, cs)

/-- Whether a character stands for itself after a backslash: ASCII, no letter and no digit. -/
def isEscapable (c : Char) : Bool :=
  c.toNat < 0x80 && !c.isAlphanum && c != '<' && c != '>'

/-- What a backslash before `cs` stands for, and the rest of `cs`. -/
def readEscape : List Char → Option (Escape × List Char)
  | [] => none
  | 'd' :: cs => some (.set .digit, cs)
  | 'D' :: cs => some (.set (.complement .digit), cs)
  | 's' :: cs => some (.set .blank, cs)
  | 'S' :: cs => some (.set (.complement .blank), cs)
  | 'w' :: cs => some (.set .word, cs)
  | 'W' :: cs => some (.set (.complement .word), cs)
  | 'x' :: cs => readHex 2 cs
  | 'u' :: cs => readHex 4 cs
  | 'U' :: cs => readHex 8 cs
  | 'a' :: cs => some (.literal '\x07', cs)
  | 'f' :: cs => some (.literal '\x0c', cs)
  | 't' :: cs => some (.literal '\t', cs)
  | 'n' :: cs => some (.literal '\n', cs)
  | 'r' :: cs => some (.literal '\r', cs)
  | 'v' :: cs => some (.literal '\x0b', cs)
  | 'A' :: cs => some (.assertion .textStart, cs)
  | 'z' :: cs => some (.assertion .textEnd, cs)
  | 'B' :: cs => some (.assertion .noWordBoundary, cs)
  | '<' :: cs => some (.assertion .wordStart, cs)
  | '>' :: cs => some (.assertion .wordEnd, cs)
  | 'b' :: cs => (readBoundary cs).map fun (a, rest) => (.assertion a, rest)
  | c :: cs => if isEscapable c then some (.literal c, cs) else none

/-! ### Classes -/

/-- The named classes of ASCII characters. -/
def asciiClass? : String → Option Text.CharRanges
  | "alnum" => some [(0x30, 0x39), (0x41, 0x5A), (0x61, 0x7A)]
  | "alpha" => some [(0x41, 0x5A), (0x61, 0x7A)]
  | "ascii" => some [(0x00, 0x7F)]
  | "blank" => some [(0x09, 0x09), (0x20, 0x20)]
  | "cntrl" => some [(0x00, 0x1F), (0x7F, 0x7F)]
  | "digit" => some [(0x30, 0x39)]
  | "graph" => some [(0x21, 0x7E)]
  | "lower" => some [(0x61, 0x7A)]
  | "print" => some [(0x20, 0x7E)]
  | "punct" => some [(0x21, 0x2F), (0x3A, 0x40), (0x5B, 0x60), (0x7B, 0x7E)]
  | "space" => some [(0x09, 0x0D), (0x20, 0x20)]
  | "upper" => some [(0x41, 0x5A)]
  | "word" => some [(0x30, 0x39), (0x41, 0x5A), (0x5F, 0x5F), (0x61, 0x7A)]
  | "xdigit" => some [(0x30, 0x39), (0x41, 0x46), (0x61, 0x66)]
  | _ => none

/-- A named class such as `[:alpha:]` behind its opening bracket, or its complement `[:^alpha:]`. -/
def readNamedClass (flags : Flags) : List Char → Option (CharSet × List Char)
  | ':' :: cs => do
    let (negated, cs) :=
      match cs with
      | '^' :: cs => (true, cs)
      | cs => (false, cs)
    let name := cs.takeWhile (· != ':')
    let rs ← asciiClass? (String.ofList name)
    match cs.drop name.length with
    | ':' :: ']' :: rest =>
      let s := CharSet.ranges rs
      some (flags.apply (if negated then .complement s else s), rest)
    | _ => none
  | _ => none

/-- An operation on two sets inside a class. -/
inductive SetOp where
  | inter
  | without
  | either

/-- The set of an operation. -/
def SetOp.apply : SetOp → CharSet → CharSet → CharSet
  | .inter => .inter
  | .without => .without
  | .either => .either

/-- A character or a named set at the start of a class, and the rest. -/
def readClassAtom : List Char → Option (Escape × List Char)
  | [] => none
  | '\\' :: cs => readEscape cs
  | c :: cs => some (.literal c, cs)

/-- The hyphens at the start of a class, which stand for themselves, and the rest. -/
def readHyphens (flags : Flags) : Nat → List Char → Bool × List Char
  | 0, cs => (false, cs)
  | fuel + 1, cs =>
    match flags.skip cs with
    | '-' :: cs => (true, (readHyphens flags fuel cs).2)
    | cs => (false, cs)

/-- One range, character or named set of a class, and the rest. -/
def readClassItem (flags : Flags) (cs : List Char) : Option (CharSet × List Char) := do
  let (first, rest) ← readClassAtom cs
  let alone : Option (CharSet × List Char) :=
    match first with
    | .literal c => some (flags.apply (.single c), rest)
    | .set s => some (s, rest)
    | .assertion _ => none
  match flags.skip rest with
  | '-' :: afterHyphen =>
    match flags.skip afterHyphen with
    | [] => none
    | ']' :: _ => alone
    | '-' :: _ => alone
    | next => do
      let (last, rest) ← readClassAtom next
      match first, last with
      | .literal c, .literal d =>
        if c ≤ d then some (flags.apply (.ranges [(c.toNat, d.toNat)]), rest) else none
      | _, _ => none
  | _ => alone

mutual

/-- The set of a class behind its opening bracket, and what follows its closing one. -/
def readClass (flags : Flags) : Nat → List Char → Option (CharSet × List Char)
  | 0, _ => none
  | fuel + 1, cs => do
    let (negated, cs) :=
      match flags.skip cs with
      | '^' :: cs => (true, cs)
      | cs => (false, cs)
    let (hyphens, cs) := readHyphens flags cs.length cs
    let start := if hyphens then flags.apply (.single '-') else .empty
    let (s, rest) ←
      match hyphens, flags.skip cs with
      | false, ']' :: cs => readClassItems flags fuel id (flags.apply (.single ']')) cs
      | _, cs => readClassItems flags fuel id start cs
    some (if negated then .complement s else s, rest)

/-- The rest of a class: `soFar` is the union since the last operation, which `finish` completes. -/
def readClassItems (flags : Flags) : Nat → (CharSet → CharSet) → CharSet → List Char →
    Option (CharSet × List Char)
  | 0, _, _, _ => none
  | fuel + 1, finish, soFar, cs =>
    match flags.skip cs with
    | [] => none
    | ']' :: rest => some (finish soFar, rest)
    | '[' :: cs => do
      let (s, rest) ← (readNamedClass flags cs).orElse fun _ => readClass flags fuel cs
      readClassItems flags fuel finish (.union soFar s) rest
    | '&' :: '&' :: cs =>
      readClassItems flags fuel (SetOp.inter.apply (finish soFar)) .empty cs
    | '-' :: '-' :: cs =>
      readClassItems flags fuel (SetOp.without.apply (finish soFar)) .empty cs
    | '~' :: '~' :: cs =>
      readClassItems flags fuel (SetOp.either.apply (finish soFar)) .empty cs
    | cs => do
      let (s, rest) ← readClassItem flags cs
      readClassItems flags fuel finish (.union soFar s) rest

end

/-! ### Groups -/

/-- A part of a pattern, and how deeply its groups, repetitions and branches are nested. -/
structure Part where
  pattern : Pattern
  depth : Nat

/-- A group that is being read. -/
structure Group where
  /-- The flags outside the group. -/
  outer : Flags
  /-- The branches before the current one, last first. -/
  branches : List Part
  /-- The parts of the current branch, last first; none for a change of flags. -/
  parts : List (Option Part)

/-- A group of which nothing has been read. -/
def Group.start (outer : Flags) : Group :=
  ⟨outer, [], []⟩

/-- Add a part to the current branch. -/
def Group.add (g : Group) (p : Pattern) (depth : Nat) : Group :=
  { g with parts := some ⟨p, depth⟩ :: g.parts }

/-- The largest depth of some parts. -/
def maxDepth (parts : List Part) : Nat :=
  (parts.map Part.depth).foldl max 0

/-- The current branch as one part. -/
def Group.branch (g : Group) : Part :=
  match g.parts with
  | [] => ⟨.empty, 0⟩
  | [part] => part.getD ⟨.empty, 0⟩
  | parts =>
    let parts := parts.reverse.filterMap id
    ⟨sequence (parts.map Part.pattern), maxDepth parts + 1⟩

/-- Begin another branch. -/
def Group.next (g : Group) : Group :=
  ⟨g.outer, g.branch :: g.branches, []⟩

/-- All branches as one part. -/
def Group.close (g : Group) : Part :=
  match g.branches with
  | [] => g.branch
  | first :: others =>
    let branches := g.branch :: first :: others
    ⟨others.foldl (fun p part => .alt part.pattern p) (.alt first.pattern g.branch.pattern),
      maxDepth branches + 1⟩

/-- Repeat the last part of the current branch; there must be one. -/
def Group.repeatLast (g : Group) (least : Nat) (extra : Option Nat) : Option Group :=
  match g.parts with
  | some part :: parts =>
    some { g with parts := some ⟨.repeat part.pattern least extra, part.depth + 1⟩ :: parts }
  | _ => none

/-- The groups read so far. -/
structure Builder where
  flags : Flags
  /-- The innermost group. -/
  group : Group
  /-- The groups around it, innermost first. -/
  outer : List Group
  /-- The names of groups. -/
  names : List String

/-- The text behind a lazy mark, which makes no difference to whether a pattern matches. -/
def skipLazy : List Char → List Char
  | '?' :: cs => cs
  | cs => cs

/-- A number of repetitions between optional blanks, and what follows it. -/
def readCount (cs : List Char) : Option (Nat × List Char) :=
  let cs := Text.trimStart cs
  let ds := cs.takeWhile Text.isAsciiDigit
  let n := ds.foldl (fun n c => n * 10 + Text.asciiDigitValue c) 0
  if ds.isEmpty || UInt32.size ≤ n then none else some (n, Text.trimStart (cs.drop ds.length))

/-- The numbers of repetitions behind an opening brace: the least one, how many more there may be, and
what follows the closing brace. -/
def readCounts (flags : Flags) (cs : List Char) : Option (Nat × Option Nat × List Char) := do
  let (least, rest) ← readCount cs
  match rest with
  | '}' :: rest => some (least, some 0, rest)
  | ',' :: rest =>
    match flags.skip rest with
    | '}' :: rest => some (least, none, rest)
    | rest => do
      let (most, rest) ← readCount rest
      match rest with
      | '}' :: rest => if least ≤ most then some (least, some (most - least), rest) else none
      | _ => none
  | _ => none

/-- Turn one flag on or off; Unicode and greediness are accepted and change nothing here. -/
def Flags.set (flags : Flags) (on : Bool) : Char → Option Flags
  | 'i' => some { flags with ignoreCase := on }
  | 'm' => some { flags with multiLine := on }
  | 's' => some { flags with dotAll := on }
  | 'x' => some { flags with ignoreSpace := on }
  | 'R' => some { flags with carriageReturns := on }
  | 'U' => some flags
  | 'u' => if on then some flags else none
  | _ => none

/-- The flags in front of a colon or a closing parenthesis; `seen` are the letters before. Every letter
stands once, and one must follow a minus sign. -/
def readFlags (flags : Flags) (on : Bool) (seen : List Char) :
    List Char → Option (Flags × List Char × List Char)
  | [] => none
  | c :: cs =>
    if c == ':' || c == ')' then
      if seen.head? == some '-' then none else some (flags, seen, c :: cs)
    else if seen.contains c then
      none
    else if c == '-' then
      readFlags flags false ('-' :: seen) cs
    else do
      let flags ← flags.set on c
      readFlags flags on (c :: seen) cs

/-- Whether a character may stand in the name of a group. -/
def isNameChar (first : Bool) (c : Char) : Bool :=
  c == '_' || (Text.isWordCharacter c && !(first && Text.isDecimalDigit c))
    || (!first && (c == '.' || c == '[' || c == ']'))

/-- The name of a group in front of its closing bracket, and what follows. -/
def readName (cs : List Char) : Option (String × List Char) :=
  let name := cs.takeWhile (· != '>')
  match name, cs.drop name.length with
  | c :: others, _ :: rest =>
    if isNameChar true c && others.all (isNameChar false) then
      some (String.ofList name, rest)
    else
      none
  | _, _ => none

namespace Builder

/-- Begin a group inside the current one, with the given flags. -/
def opened (b : Builder) (inside : Flags) : Builder :=
  { b with flags := inside, group := .start b.flags, outer := b.group :: b.outer }

/-- Begin a group with a name. -/
def openNamed (b : Builder) (cs : List Char) : Option (Builder × List Char) := do
  let (name, rest) ← readName cs
  if b.names.contains name then none
  else some ({ b.opened b.flags with names := name :: b.names }, rest)

/-- Begin a group, or change the flags, behind an opening parenthesis. -/
def openGroup (b : Builder) (cs : List Char) : Option (Builder × List Char) :=
  match b.flags.skip cs with
  | '?' :: '=' :: _ => none
  | '?' :: '!' :: _ => none
  | '?' :: '<' :: '=' :: _ => none
  | '?' :: '<' :: '!' :: _ => none
  | '?' :: 'P' :: '<' :: cs => b.openNamed cs
  | '?' :: '<' :: cs => b.openNamed cs
  | '?' :: cs => do
    let (flags, seen, rest) ← readFlags b.flags true [] cs
    match rest with
    | ':' :: rest => some (b.opened flags, rest)
    | _ :: rest =>
      if seen.isEmpty then none
      else some ({ b with flags := flags, group := { b.group with parts := none :: b.group.parts } }, rest)
    | [] => none
  | cs => some (b.opened b.flags, cs)

/-- End the innermost group. -/
def closeGroup (b : Builder) : Option Builder :=
  match b.outer with
  | [] => none
  | g :: outer =>
    let part := b.group.close
    some { b with flags := b.group.outer, group := g.add part.pattern (part.depth + 1), outer := outer }

/-- Add a part to the current branch. -/
def add (b : Builder) (p : Pattern) (depth : Nat) : Builder :=
  { b with group := b.group.add p depth }

/-- Repeat the last part of the current branch. -/
def repeatLast (b : Builder) (least : Nat) (extra : Option Nat) : Option Builder :=
  (b.group.repeatLast least extra).map fun g => { b with group := g }

/-- Add what a backslash stands for. -/
def addEscape (b : Builder) : Escape → Builder
  | .literal c => b.add (.char (b.flags.apply (.single c))) 0
  | .set s => b.add (.char s) 0
  | .assertion a => b.add (.assertion a) 0

/-- Read the next piece of a pattern, which is not empty. -/
def readPiece (b : Builder) : List Char → Option (Builder × List Char)
  | [] => none
  | '(' :: cs => b.openGroup cs
  | ')' :: cs => b.closeGroup.map (·, cs)
  | '|' :: cs => some ({ b with group := b.group.next }, cs)
  | '[' :: cs => do
    let (s, rest) ← readClass b.flags (2 * cs.length + 2) cs
    some (b.add (.char s) 1, rest)
  | '*' :: cs => (b.repeatLast 0 none).map (·, skipLazy cs)
  | '+' :: cs => (b.repeatLast 1 none).map (·, skipLazy cs)
  | '?' :: cs => (b.repeatLast 0 (some 1)).map (·, skipLazy cs)
  | '{' :: cs => do
    let (least, extra, rest) ← readCounts b.flags cs
    let b ← b.repeatLast least extra
    some (b, skipLazy rest)
  | '\\' :: cs => do
    let (e, rest) ← readEscape cs
    some (b.addEscape e, rest)
  | '.' :: cs => some (b.add (.char b.flags.dot) 0, cs)
  | '^' :: cs => some (b.add (.assertion b.flags.caret) 0, cs)
  | '$' :: cs => some (b.add (.assertion b.flags.dollar) 0, cs)
  | c :: cs => some (b.add (.char (b.flags.apply (.single c))) 0, cs)

/-- Read the rest of a pattern, at most `fuel` pieces. -/
def readAll : Nat → Builder → List Char → Option Part
  | 0, _, _ => none
  | fuel + 1, b, cs =>
    match b.flags.skip cs with
    | [] => if b.outer.isEmpty then some b.group.close else none
    | c :: cs => do
      let (b, rest) ← b.readPiece (c :: cs)
      readAll fuel b rest

end Builder

/-- How deeply a pattern may be nested. -/
def maxDepthAllowed : Nat := 250

/-- The pattern that a text writes; every piece of it takes at least one character. -/
def parse? (text : String) : Option Pattern := do
  let cs := text.toList
  let part ← Builder.readAll (cs.length + 1) ⟨{}, .start {}, [], []⟩ cs
  if part.depth ≤ maxDepthAllowed ∧ part.pattern.footprint ≤ maxFootprint then
    some part.pattern
  else
    none

end RequestQuery.Pattern
