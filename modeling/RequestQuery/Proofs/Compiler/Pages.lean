import RequestQuery.Proofs.Compiler.Stages
import RequestQuery.Proofs.Paging.Requested

/-!
# The pages of a query and of its answer

A query carries an offset and a limit; the page of results that answers it tells which page it is and how
many rows a page has. Both are read from the same request, at different times.

* `Compiler.limit_of_range` — what a range of page sizes means for the limit of a query: it bounds the
  limit, but for requests for all rows that a range from 0 lets through (`Compiler.limit_of_range_zero`).
* `Compiler.Describes`, `Compiler.result_of_compiled` — a page of results agrees with the query that it
  answers, and there is one unless the page is no page number and the query did not need it
  (`Compiler.result_of_compiled_offset`).
-/

namespace RequestQuery.Compiler

open Paging

variable {ω : Type} [OperatorLike ω] {c : Compiler ω} {params : Params} {d : Descriptor}

/-! ### The limit -/

/-- **A range of page sizes bounds the limit of a query**: it is from 1 to the end of the range, unless the
range starts at 0 and that is what the request asks for, or all that the range allows. Then there is no
limit. -/
theorem limit_of_range (range : SizeRange) (hlimit : c.options.paging.pageSizeLimit = some range)
    (hrange : range.min ≤ range.max) (hd : c.compile params = .ok d) :
    (d.limit = noLimit ↔
      range.min = 0 ∧ (askedPageSize params c.options.paging = 0 ∨ range.max = 0)) ∧
    (d.limit ≠ noLimit → 1 ≤ d.limit.toInt ∧ d.limit.toInt ≤ range.max.toNat) := by
  have hsize := requestedPageSize_of_range params hlimit
  have hcompiled := (compile_ok.1 hd).limit
  rw [hsize] at hcompiled
  have hmax := UInt64.le_iff_toNat_le.1
    (range.clamp_le_max hrange (askedPageSize params c.options.paging))
  constructor
  · rw [hcompiled, limitOf_eq_noLimit]
    exact SizeRange.clamp_eq_zero hrange
  · intro hlimited
    rw [hcompiled, Ne, limitOf_eq_noLimit] at hlimited
    obtain ⟨hone, hle⟩ := toInt_limitOf_bounds hlimited
    rw [hcompiled]
    exact ⟨hone, by omega⟩

/-- A compiler with page sizes from `min` to `max`. -/
def upTo (min max : UInt64) : Compiler :=
  .ofOptions { CompilerOptions.default with
    paging := { PagingConfig.default with pageSizeLimit := some ⟨min, max⟩ } }

theorem limit_of_range_five : ∃ d,
    (upTo 5 50).compile (.ofList [("limit", .integer 0)]) = .ok d ∧ d.limit ≠ noLimit ∧
      1 ≤ d.limit.toInt ∧ d.limit.toInt ≤ 50 := by
  have hcompiled : (upTo 5 50).compile (.ofList [("limit", .integer 0)]) = .ok ⟨0, 5, none, ∅, []⟩ := by
    rfl
  obtain ⟨-, hbounds⟩ := limit_of_range ⟨5, 50⟩ rfl (by decide) hcompiled
  have hlimited : (5 : Int64) ≠ noLimit := by decide
  exact ⟨_, hcompiled, hlimited, hbounds hlimited⟩

/-- A range from 0 to 1 can be configured, and does not keep a request from asking for all rows. -/
theorem limit_of_range_zero :
    PagingConfig.limitOfDocument (.list [.integer 0, .integer 1]) = .ok (some ⟨0, 1⟩) ∧
    (upTo 0 1).options.paging.pageSizeLimit = some ⟨0, 1⟩ ∧ (0 : UInt64) ≤ 1 ∧
    ∃ d, (upTo 0 1).compile (.ofList [("limit", .integer 0)]) = .ok d ∧ d.limit = noLimit :=
  ⟨rfl, rfl, by decide, _, rfl, rfl⟩

/-! ### The page of results -/

/-- A page of results that agrees with the query that it answers. -/
structure Describes (c : Compiler ω) (d : Descriptor) (total : Int64) (items : List α)
    (r : PageResult α) : Prop where
  items : r.items = items
  total : r.info.totalCount = total
  /-- The limit is the number of rows of a page, as far as there is a limit. -/
  limit : d.limit.toInt
    = if r.info.perPage = 0 then -1 else min (r.info.perPage.toNat : Int) Int64.maxValue.toInt
  /-- Without an offset parameter, the offset is the number of rows of the pages before. -/
  offset : c.options.paging.offsetParam = none →
    (d.offset.toNat : Int) = ((r.info.currentPage.toNat : Int) - 1) * r.info.perPage.toNat

/-- The rows of the pages before are those that the query skips. -/
theorem Compiled.offset_of_page (h : c.Compiled params d) (hparam : c.options.paging.offsetParam = none)
    {page : UInt64} (hpage : requestedPage params c.options.paging = .ok page) :
    (d.offset.toNat : Int)
      = ((page.toNat : Int) - 1) * (requestedPageSize params c.options.paging).toNat := by
  have hone := one_le_of_requestedPage hpage
  have hoffset := h.offset
  rw [requestedOffset, hparam] at hoffset
  obtain ⟨page', hpage', hrows⟩ := bind_ok.1 hoffset
  rw [hpage] at hpage'
  cases hpage'
  rw [(derivedOffset_ok.1 hrows).2, Int.natCast_mul, Int.ofNat_sub hone]
  rfl

/-- A request that compiled and tells its page has a page of results. -/
theorem Compiled.exists_result (h : c.Compiled params d) {page : UInt64}
    (hpage : requestedPage params c.options.paging = .ok page) (total : Int64) (items : List α) :
    ∃ r, ((c.pager params).result (some total) (some items)).1 = .ok r ∧
      c.Describes d total items r := by
  have hpage' : (c.pager params).page.1 = .ok page := by
    rw [Pager.page_fst]
    exact hpage
  have hresult := Pager.result_fst (c.pager params) (some total) (some items)
  rw [hpage'] at hresult
  refine ⟨_, hresult, ?_⟩
  constructor
  · rfl
  · rfl
  · rw [h.limit]
    exact toInt_limitOf_eq _
  · intro hparam
    exact h.offset_of_page hparam hpage

/-- **A request that compiles can be answered**, and the page of results agrees with the query: if the
offset follows from the page, or the page is no bad one. With an offset parameter the query does not need
the page; a bad page is then an error of the page of results, and of nothing else. -/
theorem result_of_compiled (hd : c.compile params = .ok d) (total : Int64) (items : List α) :
    (c.options.paging.offsetParam = none ∨ ¬ BadPage params c.options.paging →
      ∃ r, ((c.pager params).result (some total) (some items)).1 = .ok r ∧
        c.Describes d total items r) ∧
    (BadPage params c.options.paging →
      ((c.pager params).result (some total) (some items)).1
        = .error (.notPositive c.options.paging.pageParam)) := by
  have h := compile_ok.1 hd
  constructor
  · intro hgood
    cases hpage : requestedPage params c.options.paging with
    | ok page => exact h.exists_result hpage total items
    | error e =>
      obtain ⟨hbad, rfl⟩ := requestedPage_error.1 hpage
      rcases hgood with hparam | hnot
      · -- the query would have failed for the same reason
        have hoffset := h.offset
        rw [requestedOffset_error.2 ⟨hparam, .badPage hbad⟩] at hoffset
        cases hoffset
      · exact absurd hbad hnot
  · intro hbad
    have hpage : (c.pager params).page.1 = .error (.notPositive c.options.paging.pageParam) := by
      rw [Pager.page_fst]
      exact requestedPage_error.2 ⟨hbad, rfl⟩
    rw [Pager.result_fst, hpage]
    rfl

/-- A compiler with an offset parameter. -/
def byOffset : Compiler :=
  .ofOptions { CompilerOptions.default with
    paging := { PagingConfig.default with offsetParam := some "offset" } }

theorem result_of_compiled_third : ∃ d r,
    byOffset.compile (.ofList [("page", .string "3rd"), ("offset", .integer 7)]) = .ok d ∧
    ((byOffset.pager (.ofList [("page", .string "3rd"), ("offset", .integer 7)])).result
      (some 95) (some ["a"])).1 = .ok r ∧
    d.offset = 7 ∧ r.info = ⟨95, 4, 3, 30⟩ ∧ byOffset.Describes d 95 ["a"] r := by
  have hcompiled : byOffset.compile (.ofList [("page", .string "3rd"), ("offset", .integer 7)])
      = .ok ⟨7, 30, none, ∅, []⟩ := by
    rfl
  have hgood : ¬ BadPage (.ofList [("page", .string "3rd"), ("offset", .integer 7)])
      byOffset.options.paging := by
    intro hbad
    exact hbad.2 3 rfl (by decide)
  obtain ⟨r, hr, hdescribes⟩ := (result_of_compiled hcompiled 95 ["a"]).1 (.inr hgood)
  refine ⟨_, r, hcompiled, hr, rfl, ?_, hdescribes⟩
  cases hr
  rfl

/-- A request with an offset and a bad page compiles, and cannot be answered. -/
theorem result_of_compiled_offset :
    (∃ d, byOffset.compile (.ofList [("page", .string "x"), ("offset", .integer 20)]) = .ok d) ∧
    ((byOffset.pager (.ofList [("page", .string "x"), ("offset", .integer 20)])).result
      (some 5) (some ([] : List String))).1 = .error (.notPositive "page") :=
  ⟨⟨_, rfl⟩, rfl⟩

end RequestQuery.Compiler
