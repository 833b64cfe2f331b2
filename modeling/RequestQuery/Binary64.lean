/-!
# Double-precision numbers

A number of the binary64 format is its 64 bits; everything about it is worked out in exact
arithmetic.

* `Binary64` — a sign bit, eleven exponent bits and 52 fraction bits.
* `Binary64.significand`, `Binary64.exponent` — a finite number is `significand · 2 ^ exponent`, up to sign.
* `BEq Binary64` — numeric equality: a NaN equals nothing, and both zeros are equal.
* `Binary64.toInt64?` — the integer part of a finite number, clamped into 64 bits.
* `Binary64.ofRatio`, `Binary64.ofDecimal`, `Binary64.ofInt` — the double nearest to a quotient of natural
  numbers, to `digits · 10 ^ exponent` and to an integer; a tie goes to the even significand.
* `Binary64.shortest` — the decimal with the fewest digits that still reads back as the number, and of those
  the nearest one; `Tie` — what happens when two such decimals are equally near.
* `Layout` — the decisions a way of writing doubles makes: which exponents are written positionally, whether
  an integer keeps a fraction digit, where ties go. `Layout.plain` is always positional, `2` for two;
  `Layout.json` is positional for exponents from -5 to 15, `2.0` for two, `1e+16` beyond.
* `Layout.write` — the text of a finite double.
-/

namespace RequestQuery

/-- A number of the binary64 format, by its bits. -/
structure Binary64 where
  /-- Sign, exponent field and fraction field, most significant first. -/
  bits : UInt64
deriving DecidableEq, Inhabited

namespace Binary64

/-! ### The three fields -/

/-- What the sign bit counts. -/
def signUnit : Nat := 0x8000000000000000

/-- What the least exponent bit counts: one more than the largest fraction. -/
def exponentUnit : Nat := 0x10000000000000

/-- Whether the sign bit is set. -/
def isNegative (x : Binary64) : Bool :=
  signUnit ≤ x.bits.toNat

/-- The eleven exponent bits. -/
def exponentField (x : Binary64) : Nat :=
  x.bits.toNat / exponentUnit % 2048

/-- The 52 fraction bits. -/
def fraction (x : Binary64) : Nat :=
  x.bits.toNat % exponentUnit

/-- The number with the given sign whose other 63 bits count `magnitude`. -/
def ofMagnitude (negative : Bool) (magnitude : Nat) : Binary64 :=
  ⟨UInt64.ofNat ((if negative then signUnit else 0) + magnitude)⟩

/-- The largest exponent field, which infinities and NaNs have. -/
def specialExponent : Nat := 2047

/-- Infinity of the given sign. -/
def infinity (negative : Bool) : Binary64 :=
  ofMagnitude negative (specialExponent * exponentUnit)

def isFinite (x : Binary64) : Bool :=
  x.exponentField != specialExponent

def isNaN (x : Binary64) : Bool :=
  x.exponentField == specialExponent && x.fraction != 0

/-- Whether the number is `0` or `-0`. -/
def isZero (x : Binary64) : Bool :=
  x.bits.toNat % signUnit == 0

/-! ### The value -/

/-- The integer that a power of two scales to the absolute value of a finite number. -/
def significand (x : Binary64) : Nat :=
  if x.exponentField = 0 then x.fraction else exponentUnit + x.fraction

/-- The power of two that scales the significand of a finite number. -/
def exponent (x : Binary64) : Int :=
  (max x.exponentField 1 : Nat) - 1075

/-- The absolute value of a finite number, rounded toward zero. -/
def integerPart (x : Binary64) : Nat :=
  x.significand * Nat.pow 2 x.exponent.toNat / Nat.pow 2 (-x.exponent).toNat

/-- The integer part of a finite number, clamped into 64 bits. -/
def toInt64? (x : Binary64) : Option Int64 :=
  if x.isFinite then
    some (if x.isNegative then
      Int64.ofInt (max Int64.minValue.toInt (-(x.integerPart : Int)))
    else
      Int64.ofInt (min Int64.maxValue.toInt x.integerPart))
  else
    none

/-- Numeric equality: a NaN equals nothing, and `0` equals `-0`. -/
instance : BEq Binary64 where
  beq x y := !x.isNaN && !y.isNaN && (x.bits == y.bits || (x.isZero && y.isZero))

/-! ### The nearest double -/

/-- The quotient rounded to the nearest integer, a half to the even one. -/
def divideToEven (num den : Nat) : Nat :=
  let q := num / den
  match compare (2 * (num % den)) den with
  | .lt => q
  | .eq => q + q % 2
  | .gt => q + 1

/-- The exponent of the largest power of two not above a quotient of positive numbers. -/
def floorLog2 (num den : Nat) : Int :=
  let k : Int := (num.log2 : Int) - den.log2
  if num * Nat.pow 2 (-k).toNat < den * Nat.pow 2 k.toNat then k - 1 else k

/-- The double nearest to `num / den`; infinity when that is out of range.

The significand is rounded at the exponent that leaves it 53 bits, or at the least exponent there
is. Carrying it over into the exponent field is plain addition. -/
def ofRatio (negative : Bool) (num den : Nat) : Binary64 :=
  if num = 0 then
    ofMagnitude negative 0
  else
    let q : Int := max (-1074) (floorLog2 num den - 52)
    let m := divideToEven (num * Nat.pow 2 (-q).toNat) (den * Nat.pow 2 q.toNat)
    ofMagnitude negative (min ((q + 1074).toNat * exponentUnit + m) (specialExponent * exponentUnit))

/-- The double nearest to `digits · 10 ^ exponent`.

Numbers of more than 400 places before or after the point are out of range at once. -/
def ofDecimal (negative : Bool) (digits : Nat) (exponent : Int) : Binary64 :=
  let places : Int := (Nat.toDigits 10 digits).length + exponent
  if digits = 0 ∨ places < -400 then
    ofMagnitude negative 0
  else if 400 < places then
    infinity negative
  else
    ofRatio negative (digits * Nat.pow 10 exponent.toNat) (Nat.pow 10 (-exponent).toNat)

/-- The double nearest to an integer. -/
def ofInt (i : Int) : Binary64 :=
  ofRatio (i < 0) i.natAbs 1

end Binary64

/-! ### Shortest decimals -/

/-- The number `digits · 10 ^ exponent`. -/
structure Decimal where
  /-- All digits, as one integer. -/
  digits : Nat
  /-- The power of ten that scales them. -/
  exponent : Int
deriving DecidableEq, Repr

/-- Which of two equally near decimals is taken. -/
inductive Tie where
  /-- The one farther from zero. -/
  | away
  /-- The one with the even last digit. -/
  | even
deriving DecidableEq, Repr

namespace Decimal

/-- The same number without zeros at the end of its digits; `fuel` bounds how many are dropped. -/
def dropZeros : Nat → Decimal → Decimal
  | 0, d => d
  | fuel + 1, d =>
    if d.digits ≠ 0 ∧ d.digits % 10 = 0 then dropZeros fuel ⟨d.digits / 10, d.exponent + 1⟩ else d

end Decimal

namespace Binary64

/-- Number of decimal digits of a natural number. -/
def decimalLength (n : Nat) : Nat :=
  (Nat.toDigits 10 n).length

/-- The exponent of the largest power of ten not above a quotient of positive numbers. -/
def floorLog10 (num den : Nat) : Int :=
  let k : Int := (decimalLength num : Int) - decimalLength den
  if num * Nat.pow 10 (-k).toNat < den * Nat.pow 10 k.toNat then k - 1 else k

/-- The reals that round to a number, in quarters of the unit of its last place.

The gap below a power of two is half as wide as the one above it, except at the least exponent. The
ends belong to the interval when the significand is even. -/
structure RoundingInterval where
  low : Nat
  middle : Nat
  high : Nat
  /-- Whether the two ends themselves round to the number. -/
  closed : Bool
  /-- The power of two that scales a quarter. -/
  scale : Int

/-- The reals that round to the absolute value of a finite number. -/
def roundingInterval (x : Binary64) : RoundingInterval :=
  let m := x.significand
  { low := if x.fraction = 0 ∧ 1 < x.exponentField then 4 * m - 1 else 4 * m - 2
    middle := 4 * m
    high := 4 * m + 2
    closed := m % 2 == 0
    scale := x.exponent - 2 }

/-- Whether `num / den`, in the quarters of the interval, lies inside it. -/
def RoundingInterval.holds (i : RoundingInterval) (num den : Nat) : Bool :=
  if i.closed then
    i.low * den ≤ num && num ≤ i.high * den
  else
    i.low * den < num && num < i.high * den

/-- The nearer of the two neighbours of the number on the grid of multiples of `10 ^ k` that reads
back as the number, if one does. -/
def onGrid? (tie : Tie) (i : RoundingInterval) (k : Int) : Option Decimal :=
  -- a grid point `n` is `n * num / den` quarters
  let num := Nat.pow 10 k.toNat * Nat.pow 2 (-i.scale).toNat
  let den := Nat.pow 10 (-k).toNat * Nat.pow 2 i.scale.toNat
  let below := i.middle * den / num
  let above := below + 1
  match i.holds (below * num) den, i.holds (above * num) den with
  | true, true =>
    match compare (2 * i.middle * den) ((below + above) * num) with
    | .lt => some ⟨below, k⟩
    | .gt => some ⟨above, k⟩
    | .eq =>
      match tie with
      | .away => some ⟨above, k⟩
      | .even => some ⟨if below % 2 = 0 then below else above, k⟩
  | true, false => some ⟨below, k⟩
  | false, true => some ⟨above, k⟩
  | false, false => none

/-- The decimal with the fewest digits that reads back as the absolute value of a finite number, and
of those the nearest. Seventeen digits are always enough. -/
def shortest (tie : Tie) (x : Binary64) : Decimal :=
  if x.isZero then
    ⟨0, 0⟩
  else
    let i := x.roundingInterval
    let top := floorLog10 (i.middle * Nat.pow 2 i.scale.toNat) (Nat.pow 2 (-i.scale).toNat)
    let found := (List.range 17).findSome? fun (n : Nat) => onGrid? tie i (top - n)
    (found.getD ⟨0, 0⟩).dropZeros 20

end Binary64

/-! ### Writing doubles -/

/-- How doubles are written. -/
structure Layout where
  /-- Which of two equally near shortest decimals is written. -/
  tie : Tie
  /-- Whether a number whose first digit stands at `10 ^ e` is written positionally. -/
  positional : Int → Bool
  /-- What follows an integer that is written positionally. -/
  integerEnd : String

namespace Layout

/-- Always positional; an integer has no fraction part. -/
def plain : Layout where
  tie := .away
  positional := fun _ => true
  integerEnd := ""

/-- Positional from `0.00001` to below `10 ^ 16`; an integer ends with `.0`. -/
def json : Layout where
  tie := .even
  positional := fun e => -5 ≤ e && e ≤ 15
  integerEnd := ".0"

/-- A string of zeros. -/
def zeros (n : Nat) : List Char :=
  List.replicate n '0'

/-- The decimal with its point in place. -/
def writePositional (integerEnd : String) (d : Decimal) : String :=
  let ds := Nat.toDigits 10 d.digits
  if 0 ≤ d.exponent then
    String.ofList (ds ++ zeros d.exponent.toNat) ++ integerEnd
  else
    let places := (-d.exponent).toNat
    if places < ds.length then
      String.ofList (ds.take (ds.length - places) ++ '.' :: ds.drop (ds.length - places))
    else
      String.ofList ('0' :: '.' :: zeros (places - ds.length) ++ ds)

/-- The decimal with one digit before its point and a power of ten, whose sign is always written. -/
def writeScientific (d : Decimal) : String :=
  let ds := Nat.toDigits 10 d.digits
  let e : Int := d.exponent + (ds.length - 1 : Nat)
  let mantissa :=
    match ds with
    | c :: rest@(_ :: _) => c :: '.' :: rest
    | _ => ds
  String.ofList mantissa ++ (if e < 0 then "e-" else "e+") ++ toString e.natAbs

/-- The text of a finite double. -/
def write (layout : Layout) (x : Binary64) : String :=
  let d := x.shortest layout.tie
  let e : Int := d.exponent + (Binary64.decimalLength d.digits - 1 : Nat)
  let text := if layout.positional e then writePositional layout.integerEnd d else writeScientific d
  if x.isNegative then "-" ++ text else text

end Layout

end RequestQuery
