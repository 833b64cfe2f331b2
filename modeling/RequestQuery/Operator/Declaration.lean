import RequestQuery.Document.Record
import RequestQuery.Operator.Set
import RequestQuery.Pattern.Reader

/-!
# Declared operators

* `OperatorDeclaration` — an entry of the operator list in settings.
* `OperatorDeclaration.operators` — the operators that an entry stands for.
* `OperatorDeclaration.ofDocument` — the entry in a settings document.
* `Comparison.ofDocument`, `Arity.ofDocument` — words from a closed list in a document.

An entry names its kind, in a table under `kind` and in a list as the first item; the kind decides on
the other fields.
-/

namespace RequestQuery

/-- An entry of the operator list in settings. -/
inductive OperatorDeclaration where
  | identity
  /-- All standard operators, equality included. -/
  | standard
  /-- The standard operator for a comparison. -/
  | comparison (c : Comparison)
  /-- A value-encoded operator with a marker and a pattern of its own. -/
  | custom (marker : String) (comparison : Comparison) (pattern : String) (arity : Arity)
  | inList
  | contains (params : List String) (percentSafe : Bool)
  /-- A search; without a parameter of its own it is asked for by the general search parameter. -/
  | search (fields : List String) (percentSafe : Bool) (param : Option String)
deriving DecidableEq, Inhabited

/-- A value-encoded operator; its marker must not be empty and its pattern must be one. -/
def ValueEncoding.make (marker : String) (comparison : Comparison) (pattern : String) (arity : Arity) :
    Except QueryError ValueEncoding :=
  if marker.isEmpty then
    .error (.emptyMarker comparison)
  else
    match Pattern.parse? pattern with
    | some p => .ok ⟨marker, comparison, p, arity⟩
    | none => .error (.invalidPattern marker)

/-- The operators that an entry stands for. -/
def OperatorDeclaration.operators (searchParam : String) :
    OperatorDeclaration → Except QueryError (List Operator)
  | .identity => .ok [.identity]
  | .standard => .ok OperatorSet.standard
  | .comparison c =>
    match Operator.builtin? c with
    | some op => .ok [op]
    | none => .error (.noBuiltin c)
  | .custom marker c pattern arity =>
    (ValueEncoding.make marker c pattern arity).map fun e => [.encoded e]
  | .inList => .ok [.inList]
  | .contains params percentSafe => .ok [.contains params percentSafe]
  | .search fields percentSafe param => .ok [.search (param.getD searchParam) fields percentSafe]

/-! ### Reading -/

/-- A word, alone or as the only key of a table whose value is `null`; inside an operator entry an
empty table does as well as `null`. -/
def wordOfDocument (inEntry : Bool) : Document → Reading String
  | .text s => .ok s
  | .table [(s, .null)] => .ok s
  | .table [(s, .table [])] => if inEntry then .ok s else .error .malformed
  | _ => .error .malformed

/-- A comparison by its word. -/
def Comparison.ofDocument (inEntry : Bool) (d : Document) : Reading Comparison := do
  Document.required (Comparison.ofTag? (← wordOfDocument inEntry d))

/-- A number of arguments by its word. -/
def Arity.ofDocument (d : Document) : Reading Arity := do
  let word ← wordOfDocument true d
  Document.required ([Arity.one, Arity.two].find? fun a => a.tag == word)

namespace OperatorDeclaration

/-- What an entry of some kind mentions. -/
structure Draft where
  comparison : Option Comparison := none
  marker : Option String := none
  pattern : Option String := none
  arity : Arity := .one
  names : Option (List String) := none
  percentSafe : Bool := false
  searchParam : Option String := none

/-- The word under which a table holds its kind. -/
def kindKey : String := "kind"

def opField : Field Draft :=
  ⟨"op", fun e d => return { e with comparison := some (← Comparison.ofDocument true d) }⟩

def markerField : Field Draft :=
  ⟨"prefix", fun e d => return { e with marker := some (← d.string) }⟩

def patternField : Field Draft :=
  ⟨"pattern", fun e d => return { e with pattern := some (← d.string) }⟩

def arityField : Field Draft :=
  ⟨"arity", fun e d => return { e with arity := ← Arity.ofDocument d }⟩

def namesField (key : String) : Field Draft :=
  ⟨key, fun e d => return { e with names := some (← (← d.items).mapM Document.string) }⟩

def percentSafeField : Field Draft :=
  ⟨"percent_safe", fun e d => return { e with percentSafe := ← d.boolean }⟩

def searchParamField : Field Draft :=
  ⟨"search_param", fun e d => return { e with searchParam := ← d.string? }⟩

/-- Read the fields of an entry. -/
def draft (fields : List (Field Draft)) (d : Document) : Reading Draft :=
  d.record fields false {}

/-- The entry of a kind, from what else it holds. -/
def ofKind (d : Document) : String → Reading OperatorDeclaration
  | "identity" => do
    let _ ← draft [] d
    return .identity
  | "standard" => do
    let _ ← draft [] d
    return .standard
  | "in" => do
    let _ ← draft [] d
    return .inList
  | "comparison" => do
    let e ← draft [opField] d
    return .comparison (← Document.required e.comparison)
  | "custom" => do
    let e ← draft [markerField, opField, patternField, arityField] d
    return .custom (← Document.required e.marker) (← Document.required e.comparison)
      (← Document.required e.pattern) e.arity
  | "contains" => do
    let e ← draft [namesField "only_for_fields", percentSafeField] d
    return .contains (← Document.required e.names) e.percentSafe
  | "search" => do
    let e ← draft [namesField "fields", percentSafeField, searchParamField] d
    return .search (← Document.required e.names) e.percentSafe e.searchParam
  | _ => .error .malformed

/-- The entry in a document. It is read as a whole before its fields are looked at, inside two more
lists or tables; its kind is given once. -/
def ofDocument (d : Document) : Reading OperatorDeclaration := do
  match ← d.buffered 2 with
  | .list (kind :: fields) => ofKind (.list fields) (← kind.string)
  | d =>
    let members ← Document.required d.members?
    match members.partition fun m => m.1 == kindKey with
    | ([(_, kind)], fields) => ofKind (.table fields) (← kind.string)
    | _ => .error .malformed

end OperatorDeclaration

end RequestQuery
