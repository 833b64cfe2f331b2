import RequestQuery.Text.Characters

/-!
# Patterns

Regular expressions over characters, with assertions about the place where they stand.

* `CharSet` — what a pattern writes for one character: ranges, the three named classes and what can be
  built from them.
* `CharSet.contains` — whether a character belongs to a set.
* `CharSet.weight` — roughly the number of steps by which an automaton over bytes reads a set.
* `Pattern` — the expressions.
* `Pattern.nullable` — whether a pattern matches the empty text between two given characters.
* `Pattern.step` — what remains to be matched after one more character, as a list of alternatives.
* `Pattern.search` — whether a pattern matches some part of a text.

Both `nullable` and `step` look at the character before and the character after the place where they
are asked, and at nothing else of the text.
-/

namespace RequestQuery

/-! ### Sets of characters -/

/-- What a pattern writes for one character. -/
inductive CharSet where
  | ranges (rs : Text.CharRanges)
  | digit
  | word
  | blank
  /-- The characters that differ from one of `s` in case at most. -/
  | anyCase (s : CharSet)
  | complement (s : CharSet)
  | union (s t : CharSet)
  | inter (s t : CharSet)
  /-- The characters of `s` that are not in `t`. -/
  | without (s t : CharSet)
  /-- The characters of `s` or `t`, but not of both. -/
  | either (s t : CharSet)
deriving DecidableEq, Inhabited

namespace CharSet

/-- The set of one character. -/
def single (c : Char) : CharSet :=
  .ranges [(c.toNat, c.toNat)]

/-- The set without characters. -/
def empty : CharSet :=
  .ranges []

/-- Whether a character belongs to a set. -/
def contains : CharSet → Char → Bool
  | .ranges rs, c => rs.contains c
  | .digit, c => Text.isDecimalDigit c
  | .word, c => Text.isWordCharacter c
  | .blank, c => Text.isBlank c
  | .anyCase s, c => (Text.caseVariants c).any s.contains
  | .complement s, c => !s.contains c
  | .union s t, c => s.contains c || t.contains c
  | .inter s t, c => s.contains c && t.contains c
  | .without s t, c => s.contains c && !t.contains c
  | .either s t, c => s.contains c != t.contains c

/-- The number of bytes that encode a code point. -/
def encodedLength (n : Nat) : Nat :=
  if n < 0x80 then 1 else if n < 0x800 then 2 else if n < 0x10000 then 3 else 4

/-- The weight of a list of ranges: the bytes of their last characters. -/
def rangesWeight (rs : Text.CharRanges) : Nat :=
  rs.foldl (fun weight r => weight + encodedLength r.2) 0

/-- Roughly the number of steps by which an automaton over bytes reads a set. -/
def weight : CharSet → Nat
  | .ranges rs => max 1 (rangesWeight rs)
  | .digit => rangesWeight Text.decimalDigitRanges
  | .word => rangesWeight Text.wordCharacterRanges
  | .blank => rangesWeight Text.blankRanges
  | .anyCase s => 2 * s.weight
  | .complement s => s.weight + 8
  | .union s t => s.weight + t.weight
  | .inter s t => s.weight + t.weight
  | .without s t => s.weight + t.weight
  | .either s t => s.weight + t.weight

end CharSet

/-! ### Assertions and expressions -/

/-- A condition on the place between two characters. -/
inductive Assertion where
  | textStart
  | textEnd
  | lineStart
  | lineEnd
  /-- The start of a line, where a carriage return ends lines too. -/
  | lineStartCr
  /-- The end of a line, where a carriage return ends lines too. -/
  | lineEndCr
  | wordBoundary
  | noWordBoundary
  | wordStart
  | wordEnd
  /-- No word character before. -/
  | wordStartHalf
  /-- No word character after. -/
  | wordEndHalf
deriving DecidableEq

/-- Whether there is a character and it belongs to a word. -/
def isWordSide (side : Option Char) : Bool :=
  side.any Text.isWordCharacter

/-- Whether an assertion holds between two characters, either of which may be missing. -/
def Assertion.holds (before after : Option Char) : Assertion → Bool
  | .textStart => before.isNone
  | .textEnd => after.isNone
  | .lineStart => before.isNone || before == some '\n'
  | .lineEnd => after.isNone || after == some '\n'
  | .lineStartCr =>
    before.isNone || before == some '\n' || (before == some '\r' && after != some '\n')
  | .lineEndCr =>
    after.isNone || after == some '\r' || (after == some '\n' && before != some '\r')
  | .wordBoundary => isWordSide before != isWordSide after
  | .noWordBoundary => isWordSide before == isWordSide after
  | .wordStart => !isWordSide before && isWordSide after
  | .wordEnd => isWordSide before && !isWordSide after
  | .wordStartHalf => !isWordSide before
  | .wordEndHalf => !isWordSide after

/-- A regular expression over characters. -/
inductive Pattern where
  /-- The empty text. -/
  | empty
  /-- One character of a set. -/
  | char (s : CharSet)
  /-- The empty text, at certain places. -/
  | assertion (a : Assertion)
  | seq (p q : Pattern)
  | alt (p q : Pattern)
  /-- At least `least` times `p`, and at most `extra` times more. -/
  | repeat (p : Pattern) (least : Nat) (extra : Option Nat)
deriving DecidableEq, Inhabited

namespace Pattern

/-- One given character. -/
def literal (c : Char) : Pattern :=
  .char (.single c)

/-- The characters of a text, one after the other. -/
def text (s : String) : Pattern :=
  s.toList.foldr (fun c p => .seq (literal c) p) .empty

/-- Any number of times, or none. -/
def star (p : Pattern) : Pattern :=
  .repeat p 0 none

/-- Once or more. -/
def plus (p : Pattern) : Pattern :=
  .repeat p 1 none

/-- Several patterns, one after the other. -/
def sequence (ps : List Pattern) : Pattern :=
  ps.foldr .seq .empty

/-! ### Matching -/

/-- Whether a pattern matches the empty text between two characters. -/
def nullable (before after : Option Char) : Pattern → Bool
  | .empty => true
  | .char _ => false
  | .assertion a => a.holds before after
  | .seq p q => p.nullable before after && q.nullable before after
  | .alt p q => p.nullable before after || q.nullable before after
  | .repeat p least _ => least == 0 || p.nullable before after

/-- The pattern `p` followed by `q`, where nothing has to come first if `p` is empty. -/
def andThen (p q : Pattern) : Pattern :=
  if p = .empty then q else .seq p q

/-- What remains of a repetition of `p` after one more character, given what remains of `p` itself and
whether `p` matches the empty text here. -/
def stepRepeat (p : Pattern) (rests : List Pattern) (isNullable : Bool) (extra : Option Nat) :
    Nat → List Pattern
  | 0 =>
    match extra with
    | none => rests.map fun r => andThen r (.repeat p 0 none)
    | some 0 => []
    | some (k + 1) => rests.map fun r => andThen r (.repeat p 0 (some k))
  | least + 1 =>
    (rests.map fun r => andThen r (.repeat p least extra))
      ++ if isNullable then stepRepeat p rests isNullable extra least else []

/-- What remains to be matched after the character `c`, which follows `before`. -/
def step (before : Option Char) (c : Char) : Pattern → List Pattern
  | .empty => []
  | .char s => if s.contains c then [.empty] else []
  | .assertion _ => []
  | .seq p q =>
    ((p.step before c).map fun r => andThen r q)
      ++ if p.nullable before (some c) then q.step before c else []
  | .alt p q => p.step before c ++ q.step before c
  | .repeat p least extra =>
    stepRepeat p (p.step before c) (p.nullable before (some c)) extra least

/-- Whether one of several patterns matches the start of a text, or `p` matches a part of it. -/
def searchFrom (p : Pattern) (before : Option Char) (states : List Pattern) : List Char → Bool
  | [] => (p :: states).any fun q => q.nullable before none
  | c :: cs =>
    let states := p :: states
    (states.any fun q => q.nullable before (some c))
      || searchFrom p (some c) (states.flatMap fun q => q.step before c).eraseDups cs

/-- Whether a pattern matches some part of a text. -/
def search (p : Pattern) (text : String) : Bool :=
  searchFrom p none [] text.toList

/-! ### Size -/

/-- Roughly the memory that an automaton for a pattern takes, in bytes. -/
def footprint : Pattern → Nat
  | .empty => 32
  | .char s => 32 * s.weight
  | .assertion _ => 32
  | .seq p q => p.footprint + q.footprint
  | .alt p q => p.footprint + q.footprint + 32
  | .repeat p least extra =>
    p.footprint * (match extra with
      | none => max 1 least
      | some k => least + k) + 32

/-- The memory that the automaton of a pattern may take. -/
def maxFootprint : Nat := 10 * 1024 * 1024

end Pattern

end RequestQuery
