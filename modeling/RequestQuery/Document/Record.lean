import RequestQuery.Document.Basic

/-!
# Reading records from documents

Declared structures are read from documents front to back, and the first fault met is the one that is
reported.

* `Fault` — why a document is not what a declaration asks for.
* `Document.members?` — a document as a table; a date is a table with one member.
* `Field`, `Document.record` — reading a structure from a table of named fields, or from a list of its
  fields in order.
* `Document.string`, `Document.unsigned`, … — reading single values.
-/

namespace RequestQuery

/-- Why a document is not what a declaration asks for. -/
inductive Fault where
  /-- A value of the wrong type, a key that is unknown or repeated, a broken text. -/
  | malformed
  /-- A range of page sizes whose ends are the wrong way round. -/
  | invertedRange (min max : UInt64)
deriving DecidableEq

/-- A value read from a document, or the first fault in it. -/
abbrev Reading := Except Fault

/-- A named field of a structure of type `σ`. -/
structure Field (σ : Type) where
  key : String
  /-- Read the field's value and put it into the structure. -/
  put : σ → Document → Reading σ

namespace Document

/-! ### Single values -/

def string : Document → Reading String
  | .text s => .ok s
  | _ => .error .malformed

/-- A text that may be absent. -/
def string? : Document → Reading (Option String)
  | .null => .ok none
  | .text s => .ok (some s)
  | _ => .error .malformed

def boolean : Document → Reading Bool
  | .bool b => .ok b
  | _ => .error .malformed

/-- An integer of 64 bits without sign. -/
def unsigned : Document → Reading UInt64
  | .integer i => if 0 ≤ i ∧ i < UInt64.size then .ok (UInt64.ofNat i.toNat) else .error .malformed
  | _ => .error .malformed

/-- The items of a list. -/
def items : Document → Reading (List Document)
  | .list ds => .ok ds
  | _ => .error .malformed

/-- A list of texts. -/
def strings (d : Document) : Reading (List String) := do
  (← d.items).mapM string

/-- The key under which a date or time holds its text. -/
def momentKey : String := "$__toml_private_datetime"

/-- The members of a table; a date or time is a table with a single text. -/
def members? : Document → Option (List (String × Document))
  | .table ms => some ms
  | .moment s => some [(momentKey, .text s)]
  | _ => none

/-- The members of a table, each value read in turn. -/
def entries (read : Document → Reading α) (d : Document) : Reading (List (String × α)) :=
  match d.members? with
  | some ms => ms.mapM fun m => do
    let a ← read m.2
    .ok (m.1, a)
  | none => .error .malformed

/-! ### Records -/

/-- Read the members of a table into a structure: a known key once at most, and an unknown one never
if the structure is `closed`. An unknown member that is passed over must still make sense. -/
def readMembers (fields : List (Field σ)) (closed : Bool) :
    List String → σ → List (String × Document) → Reading σ
  | _, s, [] => .ok s
  | seen, s, (key, d) :: ms =>
    match fields.find? fun f => f.key == key with
    | some f =>
      if seen.contains key then
        .error .malformed
      else do
        let s ← f.put s d
        readMembers fields closed (key :: seen) s ms
    | none =>
      if closed || !d.isWhole then
        .error .malformed
      else
        readMembers fields closed seen s ms

/-- Read the first fields of a structure from the items of a list. -/
def readItems : List (Field σ) → σ → List Document → Reading σ
  | _, s, [] => .ok s
  | [], _, _ :: _ => .error .malformed
  | f :: fs, s, d :: ds => do
    let s ← f.put s d
    readItems fs s ds

/-- Read a structure from a table of its fields or a list of them. Fields that are not mentioned keep
the value they have in `start`. -/
def record (fields : List (Field σ)) (closed : Bool) (start : σ) (d : Document) : Reading σ :=
  match d with
  | .list ds => readItems fields start ds
  | d =>
    match d.members? with
    | some ms => readMembers fields closed [] start ms
    | none => .error .malformed

/-- A field that must be mentioned. -/
def required : Option α → Reading α
  | some a => .ok a
  | none => .error .malformed

/-- A value that is read as a whole before anything in it is looked at, inside `outer` lists and
tables. -/
def buffered (outer : Nat) (d : Document) : Reading Document :=
  if d.isReadable && outer + d.height ≤ maxHeight then .ok d else .error .malformed

end Document

end RequestQuery
