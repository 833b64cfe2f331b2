import RequestQuery.Document.Record
import RequestQuery.Json.Basic

/-!
# Paging configuration

* `PagingConfig` — the names of the paging parameters, the default page size and its range.
* `SizeRange.clamp` — the size nearest to a requested one inside a range.
* `PagingConfig.controlParams` — the names of the parameters that paging reads.
* `PagingConfig.ofDocument` — the configuration in a settings document.
* `PagingConfig.toJson` — the configuration as a JSON value.
-/

namespace RequestQuery

/-- The least and the largest page size a request may ask for. -/
structure SizeRange where
  min : UInt64
  max : UInt64
deriving DecidableEq, Inhabited

/-- The size nearest to `size` inside the range. -/
def SizeRange.clamp (range : SizeRange) (size : UInt64) : UInt64 :=
  if size < range.min then range.min
  else if range.max < size then range.max
  else size

/-- How a request is cut into pages. -/
structure PagingConfig where
  /-- The page size of a request that does not ask for one. -/
  defaultPageSize : UInt64
  /-- The name of the parameter with the page number. -/
  pageParam : String
  /-- The name of the parameter with the page size. -/
  pageSizeParam : String
  /-- The name of the parameter with the offset; without one, the offset follows from the page. -/
  offsetParam : Option String
  /-- The range of page sizes; without one, every size is allowed. -/
  pageSizeLimit : Option SizeRange
deriving DecidableEq, Inhabited

namespace PagingConfig

/-- The range of page sizes unless the configuration says otherwise. -/
def defaultLimit : SizeRange :=
  ⟨1, 150⟩

/-- Pages of 30, read from `page` and `limit`. -/
def default : PagingConfig where
  defaultPageSize := 30
  pageParam := "page"
  pageSizeParam := "limit"
  offsetParam := none
  pageSizeLimit := some defaultLimit

/-- The names of the parameters that paging reads. -/
def controlParams (config : PagingConfig) : List String :=
  config.pageParam :: config.pageSizeParam :: config.offsetParam.toList

/-! ### Reading and writing -/

/-- A range of page sizes: its two ends, `true` for the default range or `false` for none. -/
def limitOfDocument : Document → Reading (Option SizeRange)
  | .bool b => .ok (if b then some defaultLimit else none)
  | .list [lower, upper] => do
    let min ← lower.unsigned
    let max ← upper.unsigned
    if min ≤ max then .ok (some ⟨min, max⟩) else .error (.invertedRange min max)
  | _ => .error .malformed

/-- The fields of a configuration, in order. -/
def fields : List (Field PagingConfig) :=
  [ ⟨"default_page_size", fun c d => return { c with defaultPageSize := ← d.unsigned }⟩,
    ⟨"page_param", fun c d => return { c with pageParam := ← d.string }⟩,
    ⟨"page_size_param", fun c d => return { c with pageSizeParam := ← d.string }⟩,
    ⟨"offset_param", fun c d => return { c with offsetParam := ← d.string? }⟩,
    ⟨"page_size_limit", fun c d => return { c with pageSizeLimit := ← limitOfDocument d }⟩ ]

/-- The configuration in a document; what it does not mention has its default. -/
def ofDocument (d : Document) : Reading PagingConfig :=
  d.record fields false default

/-- The configuration as a JSON value. -/
def toJson (config : PagingConfig) : Json :=
  .object
    [ ("default_page_size", .integer config.defaultPageSize.toNat),
      ("page_param", .string config.pageParam),
      ("page_size_param", .string config.pageSizeParam),
      ("offset_param", (config.offsetParam.map .string).getD .null),
      ("page_size_limit",
        match config.pageSizeLimit with
        | some range => .array [.integer range.min.toNat, .integer range.max.toNat]
        | none => .null) ]

end PagingConfig

end RequestQuery
