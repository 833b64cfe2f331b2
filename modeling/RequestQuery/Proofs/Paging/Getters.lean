import RequestQuery.Paging.Pager

/-!
# What a pager answers

A pager keeps what it has worked out, so every question also gives a new pager.

* `Pager.pageSize_fst`, `Pager.page_fst`, `Pager.offset_fst`, `Pager.result_fst` — the answers, read off
  what is known, the request and the configuration.
* `Pager.pageSize_offset` — asking for the offset does not change the page size.
* `Paging.requestedOffset`, `Pager.offset_ofRequest`, `Pager.limit_offset_ofRequest` — what the pager of a
  request answers at first, without the pager.
* `Paging.derivedOffset_ok`, `Paging.kind_of_derivedOffset` — the rows before a page, and the error if
  there are too many.
-/

namespace RequestQuery

namespace Paging

/-- The number of rows before a page is exact, as far as there is one. -/
theorem derivedOffset_ok {page size offset : UInt64} :
    derivedOffset page size = .ok offset ↔
      (page.toNat - 1) * size.toNat ≤ maxOffset ∧
        offset.toNat = (page.toNat - 1) * size.toNat := by
  unfold derivedOffset
  constructor
  · intro h
    dsimp only at h
    split at h
    · rename_i hle
      cases h
      have hlt : (page.toNat - 1) * size.toNat < UInt64.size := Nat.lt_of_le_of_lt hle (by decide)
      exact ⟨hle, UInt64.toNat_ofNat_of_lt' hlt⟩
    · cases h
  · rintro ⟨hle, hrows⟩
    dsimp only
    rw [if_pos hle, ← hrows, UInt64.ofNat_toNat]

/-- Too many rows before a page are the fault of the request. -/
theorem kind_of_derivedOffset {page size : UInt64} {e : QueryError}
    (h : derivedOffset page size = .error e) : e.kind = .invalidArgument := by
  unfold derivedOffset at h
  dsimp only at h
  split at h
  · cases h
  · cases h
    rfl

/-- The offset that a request asks for. -/
def requestedOffset (params : Params) (config : PagingConfig) : Except QueryError UInt64 :=
  match config.offsetParam with
  | some name => .ok ((unsignedParam? params name).getD 0)
  | none =>
    requestedPage params config >>= fun page => derivedOffset page (requestedPageSize params config)

end Paging

namespace Pager

open Paging

/-! ### Answers -/

theorem pageSize_fst (p : Pager) :
    p.pageSize.1 = p.knownPageSize.getD (requestedPageSize p.params p.config) := by
  unfold pageSize
  cases p.knownPageSize <;> rfl

theorem page_fst (p : Pager) :
    p.page.1 = match p.knownPage with
      | some n => .ok n
      | none => requestedPage p.params p.config := by
  unfold page
  cases p.knownPage with
  | some n => rfl
  | none => cases requestedPage p.params p.config <;> rfl

theorem limit_fst (p : Pager) : p.limit.1 = limitOf p.pageSize.1 := rfl

theorem pageCount_fst (p : Pager) (total : Int64) :
    (p.pageCount total).1 = pagesFor total p.pageSize.1 := rfl

/-! ### The pager after a question -/

/-- A page number that could be told is known from then on. -/
theorem page_snd (p : Pager) : p.page.2 = { p with knownPage := p.page.1.toOption } := by
  obtain ⟨params, config, known, size, offset⟩ := p
  unfold page
  cases known with
  | some n => rfl
  | none => cases requestedPage params config <;> rfl

theorem pageSize_snd (p : Pager) : p.pageSize.2 = { p with knownPageSize := some p.pageSize.1 } := by
  obtain ⟨params, config, page, known, offset⟩ := p
  cases known <;> rfl

theorem pageSize_page (p : Pager) : p.page.2.pageSize.1 = p.pageSize.1 := by
  rw [page_snd, pageSize_fst, pageSize_fst]

theorem pageSize_pageSize (p : Pager) : p.pageSize.2.pageSize.1 = p.pageSize.1 := by
  rw [pageSize_snd, pageSize_fst]
  rfl

theorem page_pageSize (p : Pager) : p.pageSize.2.page.1 = p.page.1 := by
  rw [pageSize_snd, page_fst, page_fst]

/-! ### The offset -/

/-- The offset that is not known yet: the offset parameter if there is one, else the rows of the pages
before. -/
theorem offset_fst (p : Pager) :
    p.offset.1 = match p.knownOffset, p.config.offsetParam with
      | some n, _ => .ok n
      | none, some name => .ok ((unsignedParam? p.params name).getD 0)
      | none, none => p.page.1 >>= fun page => derivedOffset page p.pageSize.1 := by
  have hsize := pageSize_page p
  unfold offset
  cases p.knownOffset with
  | some n => rfl
  | none =>
    cases p.config.offsetParam with
    | some name => rfl
    | none =>
      dsimp only
      rcases hpage : p.page with ⟨_ | page, q⟩
      · rfl
      · rw [hpage] at hsize
        show _ = derivedOffset page p.pageSize.1
        rw [← hsize]
        dsimp only
        cases derivedOffset page q.pageSize.1 <;> rfl

theorem pageSize_offset (p : Pager) : p.offset.2.pageSize.1 = p.pageSize.1 := by
  have hpage := pageSize_page p
  unfold offset
  cases p.knownOffset with
  | some n => rfl
  | none =>
    cases p.config.offsetParam with
    | some name => rw [pageSize_fst, pageSize_fst]
    | none =>
      dsimp only
      generalize p.page = answer at hpage ⊢
      obtain ⟨page | page, q⟩ := answer
      · exact hpage
      · have hsize : q.pageSize.2.pageSize.1 = p.pageSize.1 := (pageSize_pageSize q).trans hpage
        dsimp only
        cases derivedOffset page q.pageSize.1 with
        | error e => exact hsize
        | ok n =>
          rw [pageSize_fst] at hsize ⊢
          exact hsize

/-! ### A page of results -/

theorem result_fst {α : Type} (p : Pager) (total : Option Int64) (items : Option (List α)) :
    (p.result total items).1 = match total, items with
      | none, _ => .error .missingTotal
      | some _, none => .error .missingItems
      | some total, some items =>
        p.page.1 >>= fun page =>
          .ok ⟨⟨total, pagesFor total p.pageSize.1, page, p.pageSize.1⟩, items⟩ := by
  cases total with
  | none => rfl
  | some total =>
    cases items with
    | none => rfl
    | some items =>
      have hpage := page_pageSize p
      have hsize : p.pageSize.2.page.2.pageSize.1 = p.pageSize.1 :=
        (pageSize_page _).trans (pageSize_pageSize p)
      unfold result pageCount
      dsimp only
      generalize p.pageSize.2.page = answer at hpage hsize ⊢
      obtain ⟨e | page, q⟩ := answer
      · rw [← hpage]
        rfl
      · rw [← hpage, ← hsize]
        rfl

/-! ### The pager of a request -/

theorem offset_ofRequest (params : Params) (config : PagingConfig) :
    (ofRequest params config).offset.1 = requestedOffset params config := by
  rw [offset_fst, requestedOffset, page_fst, pageSize_fst]
  dsimp only [ofRequest]
  cases config.offsetParam <;> rfl

theorem limit_offset_ofRequest (params : Params) (config : PagingConfig) :
    (ofRequest params config).offset.2.limit.1 = limitOf (requestedPageSize params config) := by
  rw [limit_fst, pageSize_offset, pageSize_fst]
  rfl

end Pager

end RequestQuery
