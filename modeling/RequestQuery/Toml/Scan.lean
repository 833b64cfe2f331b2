import RequestQuery.Binary64
import RequestQuery.Document.Basic
import RequestQuery.Text.Characters

/-!
# Pieces of a TOML text

Each function reads one piece at the start of a text and gives what follows it, or nothing if the piece
is malformed.

* `Toml.skipSpace`, `Toml.endLine`, `Toml.skipLines` — spaces, comments and line ends.
* `Toml.readString`, `Toml.readKeyPath` — the four kinds of strings, and keys.
* `Toml.wordValue` — numbers, truth values, dates and times.
-/

namespace RequestQuery.Toml

/-! ### Spaces, comments and line ends -/

/-- Whether a character separates the pieces of a line. -/
def isSpace (c : Char) : Bool :=
  c == ' ' || c == '\t'

/-- The text from the next piece of the line. -/
def skipSpace (cs : List Char) : List Char :=
  cs.dropWhile isSpace

/-- Whether a character may stand in a comment or a string: no control character but the tab. -/
def isPrintable (c : Char) : Bool :=
  c == '\t' || (0x20 ≤ c.toNat && c.toNat != 0x7F)

/-- What follows a line end. -/
def lineEnd? : List Char → Option (List Char)
  | '\n' :: cs => some cs
  | '\r' :: '\n' :: cs => some cs
  | _ => none

/-- What follows the end of a line on which nothing but a comment remains. -/
def endLine (cs : List Char) : Option (List Char) :=
  let rest :=
    match skipSpace cs with
    | '#' :: cs => cs.dropWhile isPrintable
    | cs => cs
  if rest.isEmpty then some [] else lineEnd? rest

/-- The text behind spaces, comments and line ends; `comment` tells whether it starts inside a
comment. -/
def skipLines (comment : Bool) : List Char → Option (List Char)
  | [] => some []
  | '\n' :: cs => skipLines false cs
  | '\r' :: '\n' :: cs => skipLines false cs
  | c :: cs =>
    if comment then
      if isPrintable c then skipLines true cs else none
    else if c == '#' then skipLines true cs
    else if isSpace c then skipLines false cs
    else some (c :: cs)

/-! ### Strings -/

/-- The value of a hexadecimal digit. -/
def hexDigit? (c : Char) : Option Nat :=
  if Text.isAsciiDigit c then some (c.toNat - '0'.toNat)
  else if 'a' ≤ c && c ≤ 'f' then some (c.toNat - 'a'.toNat + 10)
  else if 'A' ≤ c && c ≤ 'F' then some (c.toNat - 'A'.toNat + 10)
  else none

/-- The character whose code point the hexadecimal digits `ds` write. -/
def hexChar? (ds : List Char) : Option Char := do
  let n ← ds.foldlM (fun n c => (hexDigit? c).map (n * 16 + ·)) 0
  if n < 0xD800 || (0xDFFF < n && n < 0x110000) then some (Char.ofNat n) else none

/-- The character a one-letter escape stands for. -/
def shortEscape? : Char → Option Char
  | 'b' => some '\x08'
  | 't' => some '\t'
  | 'n' => some '\n'
  | 'f' => some '\x0c'
  | 'r' => some '\r'
  | '"' => some '"'
  | '\\' => some '\\'
  | _ => none

/-- Put a character in front of a string that is read, if there is one. -/
def consChar (c : Option Char) (r : Option (List Char × List Char)) : Option (List Char × List Char) := do
  let c ← c
  let (cs, rest) ← r
  some (c :: cs, rest)

/-- A string with escapes, behind its opening quote. -/
def basicString : List Char → Option (List Char × List Char)
  | [] => none
  | '"' :: rest => some ([], rest)
  | '\\' :: 'u' :: a :: b :: c :: d :: rest => consChar (hexChar? [a, b, c, d]) (basicString rest)
  | '\\' :: 'U' :: a :: b :: c :: d :: e :: f :: g :: h :: rest =>
    consChar (hexChar? [a, b, c, d, e, f, g, h]) (basicString rest)
  | '\\' :: e :: rest => consChar (shortEscape? e) (basicString rest)
  | c :: rest => consChar (if isPrintable c && c != '\\' then some c else none) (basicString rest)

/-- A string without escapes, behind its opening quote. -/
def literalString : List Char → Option (List Char × List Char)
  | [] => none
  | '\'' :: rest => some ([], rest)
  | c :: rest => consChar (if isPrintable c then some c else none) (literalString rest)

/-- Whether nothing but spaces stand before the next line end. -/
def lineIsBlank (cs : List Char) : Bool :=
  (lineEnd? (skipSpace cs)).isSome

/-- A string with escapes over several lines, behind its opening quotes. Behind a backslash at the end
of a line, spaces and line ends are skipped; `skipping` tells whether the text starts there. -/
def longBasicString (skipping : Bool) : List Char → Option (List Char × List Char)
  | [] => none
  | '"' :: '"' :: '"' :: '"' :: '"' :: rest => some (['"', '"'], rest)
  | '"' :: '"' :: '"' :: '"' :: rest => some (['"'], rest)
  | '"' :: '"' :: '"' :: rest => some ([], rest)
  | '\r' :: '\n' :: rest =>
    if skipping then longBasicString true rest else consChar (some '\n') (longBasicString false rest)
  | '\n' :: rest =>
    if skipping then longBasicString true rest else consChar (some '\n') (longBasicString false rest)
  | '\\' :: 'u' :: a :: b :: c :: d :: rest =>
    consChar (hexChar? [a, b, c, d]) (longBasicString false rest)
  | '\\' :: 'U' :: a :: b :: c :: d :: e :: f :: g :: h :: rest =>
    consChar (hexChar? [a, b, c, d, e, f, g, h]) (longBasicString false rest)
  | '\\' :: e :: rest =>
    if lineIsBlank (e :: rest) then
      longBasicString true (e :: rest)
    else
      consChar (shortEscape? e) (longBasicString false rest)
  | c :: rest =>
    if skipping && isSpace c then
      longBasicString true rest
    else
      consChar (if isPrintable c && c != '\\' then some c else none) (longBasicString false rest)

/-- A string without escapes over several lines, behind its opening quotes. -/
def longLiteralString : List Char → Option (List Char × List Char)
  | [] => none
  | '\'' :: '\'' :: '\'' :: '\'' :: '\'' :: rest => some (['\'', '\''], rest)
  | '\'' :: '\'' :: '\'' :: '\'' :: rest => some (['\''], rest)
  | '\'' :: '\'' :: '\'' :: rest => some ([], rest)
  | '\r' :: '\n' :: rest => consChar (some '\n') (longLiteralString rest)
  | '\n' :: rest => consChar (some '\n') (longLiteralString rest)
  | c :: rest => consChar (if isPrintable c then some c else none) (longLiteralString rest)

/-- The text behind a line end that follows opening quotes at once. -/
def dropFirstLineEnd (cs : List Char) : List Char :=
  (lineEnd? cs).getD cs

/-- A string of any kind. -/
def readString : List Char → Option (String × List Char)
  | '"' :: '"' :: '"' :: cs =>
    (longBasicString false (dropFirstLineEnd cs)).map fun (s, rest) => (String.ofList s, rest)
  | '"' :: cs => (basicString cs).map fun (s, rest) => (String.ofList s, rest)
  | '\'' :: '\'' :: '\'' :: cs =>
    (longLiteralString (dropFirstLineEnd cs)).map fun (s, rest) => (String.ofList s, rest)
  | '\'' :: cs => (literalString cs).map fun (s, rest) => (String.ofList s, rest)
  | _ => none

/-! ### Keys -/

/-- Whether a character may stand in a key without quotes. -/
def isBareKeyChar (c : Char) : Bool :=
  c.isAlphanum || c == '-' || c == '_'

/-- One part of a key. -/
def readKey : List Char → Option (String × List Char)
  | '"' :: cs => (basicString cs).map fun (s, rest) => (String.ofList s, rest)
  | '\'' :: cs => (literalString cs).map fun (s, rest) => (String.ofList s, rest)
  | cs =>
    let key := cs.takeWhile isBareKeyChar
    if key.isEmpty then none else some (String.ofList key, cs.dropWhile isBareKeyChar)

/-- The most levels that values and keys may be nested. -/
def maxLevels : Nat := 80

/-- The parts of a key between points, at most `fuel` of them, and the text behind the spaces that
follow. -/
def readKeyPath : Nat → List Char → Option (List String × List Char)
  | 0, _ => none
  | fuel + 1, cs => do
    let (key, rest) ← readKey (skipSpace cs)
    match skipSpace rest with
    | '.' :: cs => do
      let (keys, rest) ← readKeyPath fuel cs
      some (key :: keys, rest)
    | rest => some ([key], rest)

/-! ### Numbers -/

/-- The digits of a number, in groups that single underscores separate. -/
def digitGroups? (isDigit : Char → Bool) : List Char → Option (List Char)
  | [] => none
  | [c] => if isDigit c then some [c] else none
  | c :: '_' :: cs => if isDigit c then (digitGroups? isDigit cs).map (c :: ·) else none
  | c :: cs => if isDigit c then (digitGroups? isDigit cs).map (c :: ·) else none

/-- The number that digits write in a base. -/
def digitsValue? (base : Nat) (ds : List Char) : Option Nat :=
  ds.foldlM (fun n c => (hexDigit? c).bind fun d => if d < base then some (n * base + d) else none) 0

/-- An integer of 64 bits with sign. -/
def int64? (i : Int) : Option Document :=
  if Int64.minValue.toInt ≤ i ∧ i ≤ Int64.maxValue.toInt then some (.integer i) else none

/-- Whether a number has a minus sign, and the number without its sign. -/
def splitSign : List Char → Bool × List Char
  | '-' :: cs => (true, cs)
  | '+' :: cs => (false, cs)
  | cs => (false, cs)

/-- Digits of which the first is no zero, unless it is the only one. -/
def wholeDigits? (cs : List Char) : Option (List Char) := do
  let ds ← digitGroups? Text.isAsciiDigit cs
  if ds.head? == some '0' && cs.length != 1 then none else some ds

/-- An integer, in decimal digits or in another base behind a mark. -/
def integer? : List Char → Option Document
  | '0' :: 'x' :: cs => do int64? (← digitsValue? 16 (← digitGroups? (hexDigit? · |>.isSome) cs))
  | '0' :: 'o' :: cs => do int64? (← digitsValue? 8 (← digitGroups? Text.isAsciiDigit cs))
  | '0' :: 'b' :: cs => do int64? (← digitsValue? 2 (← digitGroups? Text.isAsciiDigit cs))
  | cs => do
    let (negative, cs) := splitSign cs
    let n ← digitsValue? 10 (← wholeDigits? cs)
    int64? (if negative then -(n : Int) else n)

/-- The exponent of a number behind its mark. -/
def exponent? (cs : List Char) : Option Int := do
  let (negative, cs) := splitSign cs
  let n ← digitsValue? 10 (← digitGroups? Text.isAsciiDigit cs)
  some (if negative then -(n : Int) else n)

/-- Whether a character marks an exponent. -/
def isExponentMark (c : Char) : Bool :=
  c == 'e' || c == 'E'

/-- A number with a fraction or an exponent; it must not be too large. -/
def float? (cs : List Char) : Option Document := do
  let (negative, cs) := splitSign cs
  let mantissa := cs.takeWhile fun c => !isExponentMark c
  let exponent ←
    match cs.drop mantissa.length with
    | [] => some none
    | _ :: cs => (exponent? cs).map some
  let whole ← wholeDigits? (mantissa.takeWhile (· != '.'))
  let fraction ←
    match mantissa.dropWhile (· != '.') with
    | [] => some []
    | _ :: cs => digitGroups? Text.isAsciiDigit cs
  if fraction.isEmpty && exponent.isNone then none
  let n ← digitsValue? 10 (whole ++ fraction)
  let x := Binary64.ofDecimal negative n (exponent.getD 0 - fraction.length)
  if x.isFinite || negative then some (.double x) else none

/-- Infinity and what is no number. -/
def specialFloat? (cs : List Char) : Option Document :=
  let (negative, cs) := splitSign cs
  match String.ofList cs with
  | "inf" => some (.double (.infinity negative))
  | "nan" => some (.double ⟨0x7FF8000000000000⟩)
  | _ => none

/-! ### Dates and times -/

/-- A number of exactly two digits, at most `most`. -/
def twoDigits? (most : Nat) (a b : Char) : Option Nat := do
  let n ← digitsValue? 10 [a, b]
  if n ≤ most then some n else none

/-- The number of days of a month. -/
def daysOf (year month : Nat) : Nat :=
  if month = 2 then
    if year % 4 = 0 ∧ (year % 100 ≠ 0 ∨ year % 400 = 0) then 29 else 28
  else if month = 4 ∨ month = 6 ∨ month = 9 ∨ month = 11 then 30
  else 31

/-- Whether a text is a date. -/
def isDate : List Char → Bool
  | [y₁, y₂, y₃, y₄, '-', m₁, m₂, '-', d₁, d₂] =>
    match digitsValue? 10 [y₁, y₂, y₃, y₄], twoDigits? 12 m₁ m₂, twoDigits? 31 d₁ d₂ with
    | some year, some month, some day => 1 ≤ month && 1 ≤ day && day ≤ daysOf year month
    | _, _, _ => false
  | _ => false

/-- The fraction of a second behind its point, to nine digits and without zeros at its end. -/
def fractionText (ds : List Char) : List Char :=
  match ((ds.take 9).reverse.dropWhile (· == '0')).reverse with
  | [] => []
  | ds => '.' :: ds

/-- An offset from universal time; a positive sign for no offset. -/
def offsetText? : List Char → Option (List Char)
  | [] => some []
  | ['Z'] => some ['Z']
  | ['z'] => some ['Z']
  | [sign, h₁, h₂, ':', m₁, m₂] => do
    if sign != '+' && sign != '-' then none
    let hours ← twoDigits? 23 h₁ h₂
    let minutes ← twoDigits? 59 m₁ m₂
    let sign := if hours = 0 ∧ minutes = 0 then '+' else sign
    some [sign, h₁, h₂, ':', m₁, m₂]
  | _ => none

/-- A time of day in its normal form, with an offset if that is allowed. -/
def timeText? (offsetAllowed : Bool) : List Char → Option (List Char)
  | h₁ :: h₂ :: ':' :: m₁ :: m₂ :: ':' :: s₁ :: s₂ :: rest => do
    let _ ← twoDigits? 23 h₁ h₂
    let _ ← twoDigits? 59 m₁ m₂
    let _ ← twoDigits? 60 s₁ s₂
    let (fraction, offset) ←
      match rest with
      | '.' :: cs =>
        let ds := cs.takeWhile Text.isAsciiDigit
        if ds.isEmpty then none else some (fractionText ds, cs.drop ds.length)
      | cs => some ([], cs)
    if !offset.isEmpty && !offsetAllowed then none
    some ([h₁, h₂, ':', m₁, m₂, ':', s₁, s₂] ++ fraction ++ (← offsetText? offset))
  | _ => none

/-- A date, a time, or both. -/
def moment? (cs : List Char) : Option Document :=
  let date := cs.take 10
  if isDate date then
    match cs.drop 10 with
    | [] => some (.moment (String.ofList date))
    | delimiter :: time =>
      if delimiter == 'T' || delimiter == 't' || delimiter == ' ' then
        (timeText? true time).map fun t => .moment (String.ofList (date ++ 'T' :: t))
      else
        none
  else
    (timeText? false cs).map fun t => .moment (String.ofList t)

/-! ### Words -/

/-- Whether a character may stand in a number, a truth value, a date or a time. -/
def isWordChar (c : Char) : Bool :=
  c.isAlphanum || c == '+' || c == '-' || c == '_' || c == '.' || c == ':'

/-- The value that a word writes. -/
def wordValue (cs : List Char) : Option Document :=
  match String.ofList cs with
  | "true" => some (.bool true)
  | "false" => some (.bool false)
  | _ =>
    (moment? cs).orElse fun _ => (float? cs).orElse fun _ =>
      (specialFloat? cs).orElse fun _ => integer? cs

/-- A word; a date and the time behind a single space are one. -/
def readWord (cs : List Char) : Option (Document × List Char) :=
  let word := cs.takeWhile isWordChar
  let rest := cs.dropWhile isWordChar
  let alone := (wordValue word).map fun d => (d, rest)
  match rest with
  | ' ' :: more =>
    if isDate word then
      let time := more.takeWhile isWordChar
      match moment? (word ++ ' ' :: time) with
      | some d => some (d, more.dropWhile isWordChar)
      | none => alone
    else
      alone
  | _ => alone

end RequestQuery.Toml
