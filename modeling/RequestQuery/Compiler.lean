import RequestQuery.Join
import RequestQuery.Paging.Pager

/-!
# The compiler

* `SortTerm` — a field to sort by and a direction.
* `SortTerm.ofToken` — the term that a word writes; a minus sign in front of the field asks for
  descending order.
* `SortTerm.parse` — the terms of a comma-separated text whose fields are allowed.
* `CompilerOptions` — which filters and sort fields are allowed, and how parameters are called.
* `Compiler` — options, operators and relation metadata, with the whitelist that follows from them.
* `Compiler.validate` — whether every filter can be represented.
* `Compiler.compile` — the query that the parameters of a request ask for.
* `Descriptor` — the query: offset, limit, order, conditions and joins.
-/

namespace RequestQuery

/-! ### Sort terms -/

/-- A direction of sorting. -/
inductive Direction where
  | ascending
  | descending
deriving DecidableEq, Inhabited

/-- The word for a direction. -/
def Direction.tag : Direction → String
  | .ascending => "ASC"
  | .descending => "DESC"

/-- A field to sort by, and in which direction. -/
structure SortTerm where
  field : String
  direction : Direction
deriving DecidableEq, Inhabited

namespace SortTerm

/-- Separates the terms of a text. -/
def separator : Char := ','

/-- Stands in front of a field in descending order. -/
def descendingMark : Char := '-'

/-- The term that a word writes. -/
def ofToken (token : List Char) : SortTerm :=
  match Text.stripStart? [descendingMark] token with
  | some field => ⟨String.ofList field, .descending⟩
  | none => ⟨String.ofList token, .ascending⟩

/-- The words between the separators of a text, without the blanks around them; empty ones are left
out. -/
def tokens (cs : List Char) : List (List Char) :=
  ((Text.splitOn separator cs).map Text.trim).filter fun token => !token.isEmpty

/-- The terms of a text whose fields are allowed. -/
def parse (allowed : List String) (text : String) : List SortTerm :=
  ((tokens text.toList).map ofToken).filter fun term => allowed.contains term.field

/-- The term as a JSON value. -/
def toJson (term : SortTerm) : Json :=
  .array [.string term.field, .string term.direction.tag]

end SortTerm

/-! ### Options and queries -/

/-- What requests may ask for, and how they ask for it. -/
structure CompilerOptions where
  /-- The parameters that are filters. -/
  allowedFilters : List String
  /-- The fields that may be sorted by. -/
  allowedOrder : List String
  /-- The fields that filters stand for, where the names differ. -/
  aliases : Aliases
  /-- The name of the sort parameter. -/
  orderParam : String
  /-- The name of the search parameter. -/
  searchParam : String
  paging : PagingConfig
deriving DecidableEq, Inhabited

namespace CompilerOptions

/-- Nothing is allowed; sorting is asked for by `sort` and searching by `search`. -/
def default : CompilerOptions where
  allowedFilters := []
  allowedOrder := []
  aliases := ∅
  orderParam := "sort"
  searchParam := "search"
  paging := .default

/-- The parameters that ask for pages and order; an allowed filter of such a name is left out. -/
def reservedParams (options : CompilerOptions) : List String :=
  options.paging.controlParams ++ [options.orderParam]

end CompilerOptions

/-- A query, as it is handed to whatever carries it out. -/
structure Descriptor where
  /-- The number of rows to skip. -/
  offset : UInt64
  /-- The largest number of rows to give, or -1 for all. -/
  limit : Int64
  /-- The terms to sort by; none if nothing sortable was asked for. -/
  order : Option (List SortTerm)
  /-- The conditions on the root model. -/
  filter : FilterTree
  joins : List Join
deriving Inhabited

/-- The query as a JSON object. -/
def Descriptor.toJson (d : Descriptor) : Json :=
  .object
    [ ("offset", .integer d.offset.toNat),
      ("limit", .integer d.limit.toInt),
      ("order", (d.order.map fun terms => .array (terms.map SortTerm.toJson)).getD .null),
      ("where", d.filter.toJson),
      ("include", .array (Join.toJsonAll d.joins)) ]

/-- Where associations are looked up, and the model that paths start from. -/
structure Relations where
  source : RelationSource
  root : String

/-! ### Compiling -/

/-- Compiles the parameters of requests into queries, with operators that settings can declare unless some
other type of operators is given. -/
structure Compiler (ω : Type := Operator) where
  options : CompilerOptions
  operators : OperatorSet ω
  relations : Option Relations

namespace Compiler

/-- The compiler that knows equality only and no relations. -/
def ofOptions (options : CompilerOptions) : Compiler :=
  ⟨options, .identity, none⟩

variable {ω ω' : Type}

/-- The compiler with other operators. -/
def withOperators (c : Compiler ω) (ops : OperatorSet ω') : Compiler ω' :=
  ⟨c.options, ops, c.relations⟩

/-- The compiler with the operators that match parts of texts and search under the search parameter. -/
def withSearchable (c : Compiler ω) (strictFields searchFields : List String) : Compiler :=
  c.withOperators (.searchable strictFields searchFields c.options.searchParam)

/-- The compiler with relation metadata. -/
def withModel (c : Compiler ω) (source : RelationSource) (root : String) : Compiler ω :=
  { c with relations := some ⟨source, root⟩ }

/-- The pager of a request. -/
def pager (c : Compiler ω) (params : Params) : Pager :=
  .ofRequest params c.options.paging

/-- The terms that a request wants to sort by; none if it names no allowed field. -/
def order (c : Compiler ω) (params : Params) : Option (List SortTerm) := do
  let value ← params.scalar? c.options.orderParam
  let text ← value.text?
  let terms := SortTerm.parse c.options.allowedOrder text
  if terms.isEmpty then none else some terms

variable [OperatorLike ω]

/-- The names of the parameters that are filters. -/
def whitelist (c : Compiler ω) : List String :=
  RequestQuery.whitelist c.options.allowedFilters c.options.reservedParams c.operators

/-- Whether no filter leads to the field name of the groups of alternatives. -/
def validate (c : Compiler ω) : Except QueryError Unit :=
  checkFieldNames c.options.aliases c.whitelist

/-- The filters that a request gives. -/
def filters (c : Compiler ω) (params : Params) : List Filter :=
  presentFilters c.whitelist c.options.aliases params

/-- The joins that the relational ones of several filters ask for, which takes relation metadata. -/
def joins (c : Compiler ω) (filters : List Filter) : Except QueryError (List Join) :=
  match filters.find? fun f => f.spec.isRelational, c.relations with
  | none, _ => .ok []
  | some _, some relations => Join.ofFilters relations.source relations.root c.operators filters
  | some first, none => .error (.noModel first.spec.name)

/-- The query that the parameters of a request ask for. -/
def compile (c : Compiler ω) (params : Params) : Except QueryError Descriptor := do
  c.validate
  let (offset, pager) := (c.pager params).offset
  let offset ← offset
  let (limit, _) := pager.limit
  let filters := c.filters params
  let filter ← simpleTree c.operators filters
  let joins ← c.joins filters
  return ⟨offset, limit, c.order params, filter, joins⟩

end Compiler

end RequestQuery
