import RequestQuery.Text.Characters

/-!
# Reading texts

* `splitOn` — the pieces between the occurrences of a separator.
* `cut?` — what stands before and after the first occurrence of a separator.
* `stripStart?` — the rest of a text behind a known start.
* `leadingInteger?` — the integer that a text starts with: blanks, a sign and digits, whatever follows. A number
  of any length has a value: its digits stop counting at the largest 64-bit integer.
* `percentDecode` — bytes with every `%XX` replaced by the byte it writes.
* `decodeComponent` — a part of a query string as text.
-/

namespace RequestQuery.Text

/-! ### Pieces of texts -/

/-- The pieces of a text between the occurrences of `separator`; there is always at least one. -/
def splitOn (separator : Char) : List Char → List (List Char)
  | [] => [[]]
  | c :: cs =>
    if c = separator then
      [] :: splitOn separator cs
    else
      match splitOn separator cs with
      | [] => [[c]]
      | piece :: pieces => (c :: piece) :: pieces

/-- What stands before and after the first occurrence of `separator`. -/
def cut? (separator : Char) : List Char → Option (List Char × List Char)
  | [] => none
  | c :: cs =>
    if c = separator then
      some ([], cs)
    else
      (cut? separator cs).map fun (before, after) => (c :: before, after)

/-- The rest of a text that starts with `start`. -/
def stripStart? : List Char → List Char → Option (List Char)
  | [], cs => some cs
  | _ :: _, [] => none
  | s :: start, c :: cs => if s = c then stripStart? start cs else none

/-! ### Lenient integers -/

/-- The largest number that digits can write. -/
def maxMagnitude : Nat := 9223372036854775807

/-- The number written by a run of digits, at most `maxMagnitude`. -/
def saturatingValue (digits : List Char) : Nat :=
  digits.foldl (fun n c => min maxMagnitude (n * 10 + asciiDigitValue c)) 0

/-- Whether a text has a minus sign, and the text without its sign. -/
def splitSign : List Char → Bool × List Char
  | '-' :: rest => (true, rest)
  | '+' :: rest => (false, rest)
  | cs => (false, cs)

/-- The integer that a text starts with, if it starts with one. -/
def leadingInteger? (cs : List Char) : Option Int64 :=
  let (negative, rest) := splitSign (trimStart cs)
  let digits := rest.takeWhile isAsciiDigit
  if digits.isEmpty then
    none
  else
    let n : Int := saturatingValue digits
    some (Int64.ofInt (if negative then -n else n))

/-! ### Percent encoding -/

/-- The value of a hexadecimal digit, given as its ASCII code. -/
def hexByteValue? (b : UInt8) : Option UInt8 :=
  if 0x30 ≤ b && b ≤ 0x39 then some (b - 0x30)
  else if 0x41 ≤ b && b ≤ 0x46 then some (b - 0x37)
  else if 0x61 ≤ b && b ≤ 0x66 then some (b - 0x57)
  else none

/-- The byte written by two hexadecimal digits. -/
def hexByte? (high low : UInt8) : Option UInt8 := do
  some ((← hexByteValue? high) * 16 + (← hexByteValue? low))

/-- The bytes with every percent sign before two hexadecimal digits decoded. A percent sign before
anything else stands for itself. -/
def percentDecode : List UInt8 → List UInt8
  | [] => []
  | [b] => [b]
  | [b, c] => [b, c]
  | b :: high :: low :: rest =>
    if b = 0x25 then
      match hexByte? high low with
      | some byte => byte :: percentDecode rest
      | none => b :: percentDecode (high :: low :: rest)
    else
      b :: percentDecode (high :: low :: rest)

/-- The text with every plus sign replaced by a space. -/
def plusToSpace (text : String) : String :=
  String.ofList (text.toList.map fun c => if c = '+' then ' ' else c)

/-- The text that a part of a query string stands for: plus signs are spaces, and percent signs are
decoded if that gives a text. -/
def decodeComponent (raw : String) : String :=
  let spaced := plusToSpace raw
  (String.fromUTF8? ⟨(percentDecode spaced.toUTF8.toList).toArray⟩).getD spaced

end RequestQuery.Text
