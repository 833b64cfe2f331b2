import RequestQuery.Binary64
import RequestQuery.Document.Basic
import RequestQuery.Text.Characters

/-!
# Tokens of a JSON text

* `Json.Token` — a bracket, a separator, a string, another value, or the place where nothing fits.
* `Json.Token.ofText` — the tokens of a text; whitespace separates them and is dropped.

A number without fraction and exponent is an integer if it fits 64 bits, with or without sign; every
other number, `-0` among them, is a double.
-/

namespace RequestQuery.Json

/-- A token of a JSON text. -/
inductive Token where
  | openList
  | closeList
  | openTable
  | closeTable
  | comma
  | colon
  /-- A string; none if an escape in it stands for no character. -/
  | string (s : Option String)
  /-- A number or one of the three words. -/
  | value (d : Document)
  /-- Something that is no token. -/
  | invalid
deriving Inhabited

/-! ### Strings -/

/-- A character of a string, or an escaped 16-bit unit. -/
inductive StringPart where
  | char (c : Char)
  | unit (n : Nat)

/-- The value of a hexadecimal digit. -/
def hexDigit? (c : Char) : Option Nat :=
  if Text.isAsciiDigit c then some (c.toNat - '0'.toNat)
  else if 'a' ≤ c && c ≤ 'f' then some (c.toNat - 'a'.toNat + 10)
  else if 'A' ≤ c && c ≤ 'F' then some (c.toNat - 'A'.toNat + 10)
  else none

/-- The character a one-letter escape stands for. -/
def shortEscape? : Char → Option Char
  | '"' => some '"'
  | '\\' => some '\\'
  | '/' => some '/'
  | 'b' => some '\x08'
  | 'f' => some '\x0c'
  | 'n' => some '\n'
  | 'r' => some '\r'
  | 't' => some '\t'
  | _ => none

/-- The parts of a string up to its closing quote, and what follows it. -/
def scanString : List Char → Option (List StringPart × List Char)
  | [] => none
  | '"' :: rest => some ([], rest)
  | '\\' :: 'u' :: a :: b :: c :: d :: rest => do
    let n := (((← hexDigit? a) * 16 + (← hexDigit? b)) * 16 + (← hexDigit? c)) * 16 + (← hexDigit? d)
    let (parts, rest) ← scanString rest
    some (.unit n :: parts, rest)
  | '\\' :: e :: rest => do
    let c ← shortEscape? e
    let (parts, rest) ← scanString rest
    some (.char c :: parts, rest)
  | c :: rest =>
    if c == '\\' || c.toNat < 0x20 then
      none
    else do
      let (parts, rest) ← scanString rest
      some (.char c :: parts, rest)

/-- The characters of a string; two units that form a surrogate pair are one character, and half a
pair is none. -/
def joinParts : List StringPart → Option (List Char)
  | [] => some []
  | .char c :: rest => (joinParts rest).map (c :: ·)
  | .unit n :: rest =>
    if 0xD800 ≤ n && n ≤ 0xDBFF then
      match rest with
      | .unit m :: rest =>
        if 0xDC00 ≤ m && m ≤ 0xDFFF then
          (joinParts rest).map (Char.ofNat (0x10000 + (n - 0xD800) * 0x400 + (m - 0xDC00)) :: ·)
        else
          none
      | _ => none
    else if 0xDC00 ≤ n && n ≤ 0xDFFF then
      none
    else
      (joinParts rest).map (Char.ofNat n :: ·)

/-! ### Numbers -/

/-- The number that a run of digits writes. -/
def digitsValue (ds : List Char) : Nat :=
  ds.foldl (fun n c => n * 10 + Text.asciiDigitValue c) 0

/-- The digits at the start of a text, which must be there, and what follows them. -/
def scanDigits (cs : List Char) : Option (List Char × List Char) :=
  let ds := cs.takeWhile Text.isAsciiDigit
  if ds.isEmpty then none else some (ds, cs.dropWhile Text.isAsciiDigit)

/-- The integer part of a number: a zero, or digits that start with another digit. -/
def scanIntegerPart (cs : List Char) : Option (List Char × List Char) := do
  let (ds, rest) ← scanDigits cs
  if ds.head? == some '0' && 1 < ds.length then none else some (ds, rest)

/-- The digits after a decimal point, if there is one. -/
def scanFraction : List Char → Option (List Char × List Char)
  | '.' :: rest => scanDigits rest
  | cs => some ([], cs)

/-- The exponent of a number, if there is one. -/
def scanExponent : List Char → Option (Option Int × List Char)
  | e :: rest =>
    if e == 'e' || e == 'E' then do
      let (negative, rest) :=
        match rest with
        | '-' :: rest => (true, rest)
        | '+' :: rest => (false, rest)
        | _ => (false, rest)
      let (ds, rest) ← scanDigits rest
      let n : Int := digitsValue ds
      some (some (if negative then -n else n), rest)
    else
      some (none, e :: rest)
  | [] => some (none, [])

/-- The value of a double, which is no value beyond the largest one. -/
def doubleDocument (x : Binary64) : Document :=
  if x.isFinite then .double x else .unreadable

/-- The value of a number by its parts. -/
def numberValue (negative : Bool) (whole fraction : List Char) (exponent : Option Int) : Document :=
  let digits := digitsValue (whole ++ fraction)
  let asDouble := doubleDocument
    (Binary64.ofDecimal negative digits (exponent.getD 0 - fraction.length))
  if !fraction.isEmpty || exponent.isSome then asDouble
  else if negative then
    if 0 < digits ∧ Int64.minValue.toInt ≤ -(digits : Int) then .integer (-digits) else asDouble
  else
    if digits < UInt64.size then .integer digits else asDouble

/-- A number without its sign, and what follows it. -/
def scanUnsigned (negative : Bool) (cs : List Char) : Option (Document × List Char) := do
  let (whole, rest) ← scanIntegerPart cs
  let (fraction, rest) ← scanFraction rest
  let (exponent, rest) ← scanExponent rest
  some (numberValue negative whole fraction exponent, rest)

/-- A number, and what follows it. -/
def scanNumber : List Char → Option (Document × List Char)
  | '-' :: rest => scanUnsigned true rest
  | cs => scanUnsigned false cs

/-! ### Tokens -/

/-- Whether a character may stand between tokens. -/
def isSpace (c : Char) : Bool :=
  c == ' ' || c == '\t' || c == '\n' || c == '\r'

/-- The token at the start of a text, which is not empty, and what follows it. -/
def scanToken : List Char → Option (Token × List Char)
  | '[' :: rest => some (.openList, rest)
  | ']' :: rest => some (.closeList, rest)
  | '{' :: rest => some (.openTable, rest)
  | '}' :: rest => some (.closeTable, rest)
  | ',' :: rest => some (.comma, rest)
  | ':' :: rest => some (.colon, rest)
  | '"' :: rest => do
    let (parts, rest) ← scanString rest
    some (.string ((joinParts parts).map String.ofList), rest)
  | 'n' :: 'u' :: 'l' :: 'l' :: rest => some (.value .null, rest)
  | 't' :: 'r' :: 'u' :: 'e' :: rest => some (.value (.bool true), rest)
  | 'f' :: 'a' :: 'l' :: 's' :: 'e' :: rest => some (.value (.bool false), rest)
  | cs => do
    let (d, rest) ← scanNumber cs
    some (.value d, rest)

/-- The tokens of a text, at most `fuel` of them. -/
def tokensUpTo : Nat → List Char → List Token
  | 0, _ => []
  | fuel + 1, cs =>
    match cs.dropWhile isSpace with
    | [] => []
    | c :: cs =>
      match scanToken (c :: cs) with
      | some (t, rest) => t :: tokensUpTo fuel rest
      | none => [.invalid]

/-- The tokens of a text; each takes at least one character. -/
def Token.ofText (text : String) : List Token :=
  let cs := text.toList
  tokensUpTo cs.length cs

end RequestQuery.Json
