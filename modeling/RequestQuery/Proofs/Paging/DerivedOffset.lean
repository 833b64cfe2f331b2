import RequestQuery.Proofs.Paging.Requested
import RequestQuery.Proofs.Paging.Transparency

/-!
# Offsets that follow from the page

Without an offset parameter, a pager works the offset out from its page and its page size, unless an offset
was set.

* `Pager.Call.heldOffset`, `Pager.heldOffset` — the offset that was set and that no later call has taken
  back.
* `FreshPager.chosenOffset_ask`, `FreshPager.chosenOffset_after` — a pager keeps that offset, and no other.
* `FreshPager.Serves`, `FreshPager.Serves.ask`, `FreshPager.Serves.after` — what no call changes: the
  request, the configuration, and that no page 0 is set.
* `Paging.rowsBefore` — the number of rows of the pages before, however many they are.
* `Pager.DerivesOffset`, `Pager.derivesOffset_after` — the offset is that number, as far as a signed 64-bit
  integer counts, and 64-bit arithmetic gives no other.
-/

namespace RequestQuery

open Paging

/-! ### The rows of the pages before -/

namespace Paging

/-- The number of rows of the pages before a page, as an integer without bounds. -/
def rowsBefore (page size : UInt64) : Int :=
  ((page.toNat : Int) - 1) * size.toNat

variable {page size : UInt64}

theorem rowsBefore_eq (h : 1 ≤ page.toNat) (size : UInt64) :
    rowsBefore page size = ((page.toNat - 1) * size.toNat : Nat) := by
  rw [rowsBefore, Int.natCast_mul, Int.ofNat_sub h]
  rfl

/-- 64-bit arithmetic does not go below page 0, and does not wrap around where an offset fits. -/
theorem toNat_sub_one_mul (h : 1 ≤ page.toNat) (hle : (page.toNat - 1) * size.toNat ≤ maxOffset) :
    ((page - 1) * size).toNat = (page.toNat - 1) * size.toNat := by
  have hone : (1 : UInt64) ≤ page := UInt64.le_iff_toNat_le.2 h
  have hmax : maxOffset < 2 ^ 64 := by decide
  rw [UInt64.toNat_mul, UInt64.toNat_sub_of_le _ _ hone]
  show (page.toNat - 1) * size.toNat % 2 ^ 64 = _
  exact Nat.mod_eq_of_lt (by omega)

end Paging

namespace Pager

/-! ### Offsets that were set -/

/-- The offset that was set and still holds after one more call. Setting an offset, a page or a page size
puts an end to it; page 0 cannot be set. -/
def Call.heldOffset (held : Option UInt64) : Call → Option UInt64
  | .setOffset n => n
  | .setPageSize _ => none
  | .setPage n => if n = some 0 then held else none
  | _ => held

/-- The offset that was set and still holds after several calls. -/
def heldOffset (calls : List Call) : Option UInt64 :=
  calls.foldl Call.heldOffset none

end Pager

namespace FreshPager

variable {q : FreshPager} {params : Params} {config : PagingConfig}

theorem chosenOffset_ask (q : FreshPager) (call : Pager.Call) :
    (q.ask call).2.chosenOffset = call.heldOffset q.chosenOffset := by
  cases call with
  | setPage page =>
    simp only [ask, Pager.Call.heldOffset]
    split
    · rfl
    · rfl
  | setPageSize size => rfl
  | setOffset offset => rfl
  | _ => rfl

theorem chosenOffset_after (q : FreshPager) (calls : List Pager.Call) :
    (q.after calls).chosenOffset = calls.foldl Pager.Call.heldOffset q.chosenOffset := by
  induction calls generalizing q with
  | nil => rfl
  | cons call calls ih =>
    show ((q.ask call).2.after calls).chosenOffset = _
    rw [ih, chosenOffset_ask]
    rfl

/-! ### What no call changes -/

/-- A pager that serves a request: it reads this request and this configuration, and no page 0 is set. -/
structure Serves (q : FreshPager) (params : Params) (config : PagingConfig) : Prop where
  params : q.params = params
  config : q.config = config
  chosenPage : q.chosenPage ≠ some 0

theorem serves_ofRequest (params : Params) (config : PagingConfig) :
    (ofRequest params config).Serves params config where
  params := rfl
  config := rfl
  chosenPage := nofun

theorem Serves.ask (h : q.Serves params config) (call : Pager.Call) :
    (q.ask call).2.Serves params config := by
  cases call with
  | setPage page =>
    simp only [FreshPager.ask]
    split
    · exact h
    · rename_i hpage
      exact ⟨h.params, h.config, hpage⟩
  | setPageSize size => exact ⟨h.params, h.config, h.chosenPage⟩
  | setOffset offset => exact ⟨h.params, h.config, h.chosenPage⟩
  | _ => exact h

theorem Serves.after (h : q.Serves params config) (calls : List Pager.Call) :
    (q.after calls).Serves params config := by
  induction calls generalizing q with
  | nil => exact h
  | cons call calls ih => exact ih (h.ask call)

/-- Whoever set it, a page number is at least 1. -/
theorem Serves.one_le_page (h : q.Serves params config) {page : UInt64} (hpage : q.page = .ok page) :
    1 ≤ page.toNat := by
  unfold FreshPager.page at hpage
  cases hset : q.chosenPage with
  | none =>
    rw [hset] at hpage
    exact one_le_of_requestedPage hpage
  | some n =>
    rw [hset] at hpage
    cases hpage
    have hne : page ≠ 0 := fun hzero => h.chosenPage (by rw [hset, hzero])
    exact toNat_pos_of_ne_zero hne

theorem kind_of_page {e : QueryError} (h : q.page = .error e) : e.kind = .invalidArgument := by
  unfold FreshPager.page at h
  cases hset : q.chosenPage with
  | none =>
    rw [hset] at h
    rw [(requestedPage_error.1 h).2]
    rfl
  | some n =>
    rw [hset] at h
    cases h

end FreshPager

namespace Pager

/-! ### The offset -/

/-- A pager whose offset follows exactly from its page and its page size. -/
structure DerivesOffset (p : Pager) : Prop where
  /-- Pages are counted from 1, so 1 can be taken off. -/
  one_le : ∀ page, p.page.1 = .ok page → 1 ≤ page
  /-- As many rows as a signed 64-bit integer counts are counted exactly; 64-bit arithmetic gives the same
  number. -/
  exact : ∀ page, p.page.1 = .ok page → rowsBefore page p.pageSize.1 ≤ Int64.maxValue.toInt →
    ∃ offset, p.offset.1 = .ok offset ∧ (offset.toNat : Int) = rowsBefore page p.pageSize.1 ∧
      offset = (page - 1) * p.pageSize.1
  /-- More rows are refused. -/
  tooFar : ∀ page, p.page.1 = .ok page → Int64.maxValue.toInt < rowsBefore page p.pageSize.1 →
    p.offset.1 = .error (.offsetOutOfRange page)
  /-- Where there is no page, there is no offset for the same reason. -/
  noPage : ∀ e, p.page.1 = .error e → p.offset.1 = .error e
  /-- Whatever fails is the fault of the request. -/
  kind : ∀ e, p.offset.1 = .error e → e.kind = .invalidArgument
  /-- Pages without limit all start at the first row. -/
  unlimited : p.pageSize.1 = 0 → ∀ page, p.page.1 = .ok page → p.offset.1 = .ok 0

variable {p : Pager} {q : FreshPager} {params : Params} {config : PagingConfig}

theorem Mirrors.offset_of_none (h : p.Mirrors q) (hserves : q.Serves params config)
    (hparam : config.offsetParam = none) (hset : q.chosenOffset = none) :
    p.offset.1 = p.page.1 >>= fun page => derivedOffset page p.pageSize.1 := by
  rw [h.offset_fst, h.page_fst, h.pageSize_fst, FreshPager.offset, hset, hserves.config, hparam]

theorem Mirrors.derivesOffset (h : p.Mirrors q) (hserves : q.Serves params config)
    (hparam : config.offsetParam = none) (hset : q.chosenOffset = none) : p.DerivesOffset := by
  have hoffset := h.offset_of_none hserves hparam hset
  have hone : ∀ page, p.page.1 = .ok page → 1 ≤ page.toNat := by
    intro page hpage
    rw [h.page_fst] at hpage
    exact hserves.one_le_page hpage
  -- where there is a page, only the number of rows before it decides
  have hrows : ∀ page, p.page.1 = .ok page → p.offset.1 = derivedOffset page p.pageSize.1 := by
    intro page hpage
    rw [hoffset, hpage]
    rfl
  constructor
  · intro page hpage
    exact UInt64.le_iff_toNat_le.2 (hone page hpage)
  · intro page hpage hle
    rw [rowsBefore_eq (hone page hpage), toInt_maxValue] at hle
    have hfits : (page.toNat - 1) * p.pageSize.1.toNat ≤ maxOffset := by omega
    have hwords := toNat_sub_one_mul (hone page hpage) hfits
    refine ⟨(page - 1) * p.pageSize.1, ?_, ?_, rfl⟩
    · rw [hrows page hpage]
      exact derivedOffset_ok.2 ⟨hfits, hwords⟩
    · rw [hwords, rowsBefore_eq (hone page hpage)]
  · intro page hpage hgt
    rw [rowsBefore_eq (hone page hpage), toInt_maxValue] at hgt
    rw [hrows page hpage]
    exact derivedOffset_error.2 ⟨by omega, rfl⟩
  · intro e he
    rw [hoffset, he]
    rfl
  · intro e he
    rw [hoffset] at he
    rcases bind_error.1 he with hpage | ⟨page, -, hderived⟩
    · rw [h.page_fst] at hpage
      exact FreshPager.kind_of_page hpage
    · exact kind_of_derivedOffset hderived
  · intro hsize page hpage
    rw [hrows page hpage, hsize]
    exact derivedOffset_ok.2 (by simp)

/-- **Offsets are exact.** Without an offset parameter, whatever was asked and set before: an offset that was
set and still holds is given back, and else the offset follows exactly from the page and the page size. -/
theorem derivesOffset_after (params : Params) (config : PagingConfig) (hparam : config.offsetParam = none)
    (calls : List Call) :
    (∀ n, heldOffset calls = some n → ((ofRequest params config).after calls).offset.1 = .ok n) ∧
    (heldOffset calls = none → ((ofRequest params config).after calls).DerivesOffset) := by
  have hmirrors := after_mirrors (mirrors_ofRequest params config) calls
  have hserves := (FreshPager.serves_ofRequest params config).after calls
  have hheld := FreshPager.chosenOffset_after (.ofRequest params config) calls
  constructor
  · intro n hn
    rw [hmirrors.offset_fst, FreshPager.offset, hheld.trans hn]
  · intro hnone
    exact hmirrors.derivesOffset hserves hparam (hheld.trans hnone)

/-- A request without parameters, and page sizes without limits. -/
def unlimited : Pager :=
  ofRequest .empty { PagingConfig.default with pageSizeLimit := none }

/-- One row a page, sent to a page of the largest numbers; an offset is set on the way and taken back. -/
def farTo (page : UInt64) : List Call :=
  [.setPageSize (some 1), .setOffset (some 3), .offset, .setOffset none, .setPage (some page),
    .setPage (some 0)]

/-- The page behind the last offset there is has one, and the next page has none. -/
theorem derivesOffset_after_farthest :
    unlimited.config.offsetParam = none ∧ heldOffset (farTo 9223372036854775808) = none ∧
    (unlimited.after (farTo 9223372036854775808)).offset.1 = .ok 9223372036854775807 ∧
    (unlimited.after (farTo 9223372036854775809)).offset.1
      = .error (.offsetOutOfRange 9223372036854775809) := by
  have hlast := (derivesOffset_after .empty { PagingConfig.default with pageSizeLimit := none } rfl
    (farTo 9223372036854775808)).2 rfl
  have hnext := (derivesOffset_after .empty { PagingConfig.default with pageSizeLimit := none } rfl
    (farTo 9223372036854775809)).2 rfl
  refine ⟨rfl, rfl, ?_, hnext.tooFar 9223372036854775809 rfl (by decide)⟩
  obtain ⟨offset, hoffset, -, hwords⟩ := hlast.exact 9223372036854775808 rfl (by decide)
  rw [hwords] at hoffset
  exact hoffset

end Pager

end RequestQuery
