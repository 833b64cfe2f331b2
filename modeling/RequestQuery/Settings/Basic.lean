import RequestQuery.Compiler
import RequestQuery.Operator.Declaration

/-!
# Settings

* `Settings` — all that makes a compiler, as it is declared.
* `Settings.operatorSet` — the declared operators.
* `Settings.compiler` — the compiler, if the declarations fit together.
* `Settings.ofDocument` — the settings in a document.
-/

namespace RequestQuery

/-- All that makes a compiler, as it is declared. -/
structure Settings where
  options : CompilerOptions
  /-- The operators, in the order in which they are tried. -/
  operators : List OperatorDeclaration
  /-- The model that relational filters start from. -/
  rootModel : Option String
  models : Catalog
deriving DecidableEq, Inhabited

namespace Settings

/-- The default options, equality as the only operator, and no models. -/
def default : Settings where
  options := .default
  operators := [.identity]
  rootModel := none
  models := .empty

/-- The declared operators, in order. -/
def operatorSet (s : Settings) : Except QueryError OperatorSet := do
  let sets ← s.operators.mapM (OperatorDeclaration.operators s.options.searchParam)
  return sets.flatten

/-- Whether there is a model to start from if there are models, and whether it is declared. -/
def checkRootModel (s : Settings) : Except QueryError Unit :=
  match s.rootModel with
  | none => if s.models.models.isEmpty then .ok () else .error .noRootModel
  | some root => if (s.models.model? root).isSome then .ok () else .error (.undeclaredRootModel root)

/-- The compiler that the settings declare. -/
def compiler (s : Settings) : Except QueryError Compiler := do
  let ops ← s.operatorSet
  s.checkRootModel
  let c := (Compiler.ofOptions s.options).withOperators ops
  c.validate
  return match s.rootModel with
    | some root => c.withModel s.models.association? root
    | none => c

/-! ### Reading -/

/-- The settings with other options. -/
def withOptions (s : Settings) (change : CompilerOptions → CompilerOptions) : Settings :=
  { s with options := change s.options }

/-- The fields of settings, in order. -/
def fields : List (Field Settings) :=
  [ ⟨"allowed_filters", fun s d => do
      let names ← d.strings
      return s.withOptions ({ · with allowedFilters := names })⟩,
    ⟨"allowed_order", fun s d => do
      let names ← d.strings
      return s.withOptions ({ · with allowedOrder := names })⟩,
    ⟨"filter_aliases", fun s d => do
      let aliases ← d.entries Document.string
      return s.withOptions ({ · with aliases := .ofList aliases })⟩,
    ⟨"order_param", fun s d => do
      let name ← d.string
      return s.withOptions ({ · with orderParam := name })⟩,
    ⟨"search_param", fun s d => do
      let name ← d.string
      return s.withOptions ({ · with searchParam := name })⟩,
    ⟨"operators", fun s d => do
      let operators ← (← d.items).mapM OperatorDeclaration.ofDocument
      return { s with operators := operators }⟩,
    ⟨"paginator", fun s d => do
      let paging ← PagingConfig.ofDocument d
      return s.withOptions ({ · with paging := paging })⟩,
    ⟨"root_model", fun s d => do
      let root ← d.string?
      return { s with rootModel := root }⟩,
    ⟨"models", fun s d => do
      let models ← Catalog.ofDocument d
      return { s with models := models }⟩ ]

/-- The error for a fault in settings. -/
def errorOf : Fault → QueryError
  | .malformed => .invalidSettings
  | .invertedRange min max => .invertedPageSizes min max

/-- The settings in a document; a key that is not known is an error. -/
def ofDocument (d : Document) : Except QueryError Settings :=
  (d.record fields true default).mapError errorOf

end Settings

end RequestQuery
