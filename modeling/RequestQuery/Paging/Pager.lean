import RequestQuery.Error
import RequestQuery.Paging.Config
import RequestQuery.Params

/-!
# Paging a request

* `Pager` — the page, the page size and the offset of one request, each worked out when first asked
  for and then kept.
* `Pager.page`, `Pager.pageSize`, `Pager.offset`, `Pager.limit` — what a query needs.
* `Pager.pageCount`, `Pager.result` — what the answer to a request says about its pages.
* `Pager.setPage`, `Pager.setPageSize`, `Pager.setOffset` — values that take the place of the
  request's.

A number that was set holds until it is set again; what depends on it is worked out anew.
-/

namespace RequestQuery

/-- Paging of one request. -/
structure Pager where
  params : Params
  config : PagingConfig
  /-- The page number, once known. -/
  knownPage : Option UInt64
  /-- The page size, once known. -/
  knownPageSize : Option UInt64
  /-- The offset, once known. -/
  knownOffset : Option UInt64

/-- What a page of results says about itself. -/
structure PageMeta where
  totalCount : Int64
  pageCount : UInt64
  currentPage : UInt64
  perPage : UInt64
deriving DecidableEq

/-- A page of results. -/
structure PageResult (α : Type) where
  /-- Its place among all pages. -/
  info : PageMeta
  items : List α

namespace Paging

/-- The limit that stands for no limit. -/
def noLimit : Int64 := -1

/-- The largest offset there is. -/
def maxOffset : Nat := 9223372036854775807

/-- An integer without sign, if it has none. -/
def unsigned? (i : Int64) : Option UInt64 :=
  if 0 ≤ i then some i.toUInt64 else none

/-- The value of a parameter as an integer without sign. -/
def unsignedParam? (params : Params) (name : String) : Option UInt64 :=
  ((params.scalar? name).bind Scalar.toInt64?).bind unsigned?

/-- The page number a request asks for: the first page unless it says otherwise. -/
def requestedPage (params : Params) (config : PagingConfig) : Except QueryError UInt64 :=
  match params.scalar? config.pageParam with
  | none => .ok 1
  | some value =>
    match value.toInt64? with
    | some n => if 0 < n then .ok n.toUInt64 else .error (.notPositive config.pageParam)
    | none => .error (.notPositive config.pageParam)

/-- The page size a request asks for, inside the range that is allowed. -/
def requestedPageSize (params : Params) (config : PagingConfig) : UInt64 :=
  let size := (unsignedParam? params config.pageSizeParam).getD config.defaultPageSize
  match config.pageSizeLimit with
  | some range => range.clamp size
  | none => size

/-- The number of rows before a page. -/
def derivedOffset (page pageSize : UInt64) : Except QueryError UInt64 :=
  let rows := (page.toNat - 1) * pageSize.toNat
  if rows ≤ maxOffset then .ok (UInt64.ofNat rows) else .error (.offsetOutOfRange page)

/-- A page size as a limit; pages of no rows are unlimited. -/
def limitOf (pageSize : UInt64) : Int64 :=
  if pageSize = 0 then noLimit else Int64.ofNat (min maxOffset pageSize.toNat)

/-- The number of pages that hold `total` rows; the last one may be shorter. -/
def pagesFor (total : Int64) (pageSize : UInt64) : UInt64 :=
  let rows := total.toInt.toNat
  if pageSize = 0 then
    if 0 < rows then 1 else 0
  else
    UInt64.ofNat ((rows + pageSize.toNat - 1) / pageSize.toNat)

end Paging

namespace Pager

open Paging

/-- The pager of a request, with nothing worked out yet. -/
def ofRequest (params : Params) (config : PagingConfig) : Pager :=
  ⟨params, config, none, none, none⟩

/-! ### Asking -/

/-- The page number, from 1; an error if the request gives something else. -/
def page (p : Pager) : Except QueryError UInt64 × Pager :=
  match p.knownPage with
  | some n => (.ok n, p)
  | none =>
    match requestedPage p.params p.config with
    | .ok n => (.ok n, { p with knownPage := some n })
    | .error e => (.error e, p)

/-- The number of rows of a page; 0 means all rows. -/
def pageSize (p : Pager) : UInt64 × Pager :=
  match p.knownPageSize with
  | some n => (n, p)
  | none =>
    let n := requestedPageSize p.params p.config
    (n, { p with knownPageSize := some n })

/-- The number of rows to skip: the offset parameter if there is one, else the rows of the pages
before. -/
def offset (p : Pager) : Except QueryError UInt64 × Pager :=
  match p.knownOffset with
  | some n => (.ok n, p)
  | none =>
    match p.config.offsetParam with
    | some name =>
      let n := (unsignedParam? p.params name).getD 0
      (.ok n, { p with knownOffset := some n })
    | none =>
      match p.page with
      | (.error e, p) => (.error e, p)
      | (.ok page, p) =>
        let (size, p) := p.pageSize
        match derivedOffset page size with
        | .ok n => (.ok n, { p with knownOffset := some n })
        | .error e => (.error e, p)

/-- The largest number of rows to give. -/
def limit (p : Pager) : Int64 × Pager :=
  let (size, p) := p.pageSize
  (limitOf size, p)

/-- The number of pages that hold `total` rows. -/
def pageCount (p : Pager) (total : Int64) : UInt64 × Pager :=
  let (size, p) := p.pageSize
  (pagesFor total size, p)

/-- A page of results. The total and the items must be there; zero and none are fine. -/
def result (p : Pager) (total : Option Int64) (items : Option (List α)) :
    Except QueryError (PageResult α) × Pager :=
  match total, items with
  | none, _ => (.error .missingTotal, p)
  | some _, none => (.error .missingItems, p)
  | some total, some items =>
    let (count, p) := p.pageCount total
    match p.page with
    | (.error e, p) => (.error e, p)
    | (.ok page, p) =>
      let (size, p) := p.pageSize
      (.ok ⟨⟨total, count, page, size⟩, items⟩, p)

/-! ### Setting -/

/-- Set the page number, or have it read from the request again. -/
def setPage (p : Pager) (page : Option UInt64) : Except QueryError Unit × Pager :=
  if page = some 0 then
    (.error (.notPositive p.config.pageParam), p)
  else
    (.ok (), { p with knownPage := page, knownOffset := none })

/-- Set the page size, or have it read from the request again. A negative size gives the default
size; no range applies. -/
def setPageSize (p : Pager) (size : Option Int64) : Pager :=
  { p with
    knownPageSize := size.map fun n => (unsigned? n).getD p.config.defaultPageSize
    knownOffset := none }

/-- Set the offset, or have it worked out again. -/
def setOffset (p : Pager) (offset : Option UInt64) : Pager :=
  { p with knownOffset := offset }

end Pager

namespace PageResult

/-- A page of results as a JSON value. -/
def toJson (result : PageResult Json) : Json :=
  .object
    [ ("meta", .object
        [ ("totalCount", .integer result.info.totalCount.toInt),
          ("pageCount", .integer result.info.pageCount.toNat),
          ("currentPage", .integer result.info.currentPage.toNat),
          ("perPage", .integer result.info.perPage.toNat) ]),
      ("items", .array result.items) ]

end PageResult

end RequestQuery
