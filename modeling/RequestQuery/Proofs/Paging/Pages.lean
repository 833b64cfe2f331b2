import Mathlib.Logic.ExistsUnique
import RequestQuery.Proofs.Paging.Getters

/-!
# Pages partition a collection

Without an offset parameter, the offset, the limit and the number of pages are worked out apart from each
other; together they cut the rows of a collection into pages.

* `Paging.InWindow` — whether a row is among those that an offset and a limit ask for.
* `Pager.startOf` — the offset of a pager that was sent to a page.
* `Paging.le_pagesFor_iff`, `Paging.inWindow_iff` — the pages that there are, and the rows of a page.
* `Pager.Partitions`, `Pager.partitions` — every row is on exactly one page, no page is without rows, and
  behind the last page there are no rows.

All page sizes are covered: 0, which is one page of all rows, and those above the largest limit.
-/

namespace RequestQuery

namespace Paging

/-- Whether a row is among those that an offset and a limit ask for. -/
def InWindow (offset : UInt64) (limit : Int64) (row : Nat) : Prop :=
  offset.toNat ≤ row ∧ (limit = noLimit ∨ (row : Int) < offset.toNat + limit.toInt)

/-! ### The number of pages -/

theorem toNat_pos_of_ne_zero {size : UInt64} (h : size ≠ 0) : 0 < size.toNat := by
  refine Nat.pos_of_ne_zero fun hzero => h ?_
  rw [← UInt64.toNat_inj, hzero]
  rfl

/-- The quotient does not wrap around: there are no more pages than rows. -/
theorem toNat_pagesFor (total : Int64) {size : UInt64} (h : size ≠ 0) :
    (pagesFor total size).toNat = (total.toInt.toNat + size.toNat - 1) / size.toNat := by
  have hpos := toNat_pos_of_ne_zero h
  have htotal := total.toInt_lt
  have hlt : (total.toInt.toNat + size.toNat - 1) / size.toNat < UInt64.size := by
    rw [Nat.div_lt_iff_lt_mul hpos]
    have hrows : total.toInt.toNat < 2 ^ 63 := by omega
    have hmul : 2 ^ 63 * size.toNat ≤ UInt64.size * size.toNat :=
      Nat.mul_le_mul_right _ (by decide)
    have hpad : 2 ^ 63 + size.toNat - 1 ≤ 2 ^ 63 * size.toNat := by
      obtain ⟨n, hn⟩ : ∃ n, size.toNat = n + 1 := ⟨size.toNat - 1, by omega⟩
      rw [hn]
      omega
    omega
  rw [pagesFor, if_neg h]
  exact UInt64.toNat_ofNat_of_lt' hlt

/-- **The pages that there are**: those that some row stands behind the rows of the pages before. -/
theorem le_pagesFor_iff (total : Int64) (size : UInt64) {page : UInt64} (hpage : 1 ≤ page.toNat) :
    page ≤ pagesFor total size ↔
      (page.toNat - 1) * size.toNat < total.toInt.toNat ∧ (size = 0 → page.toNat = 1) := by
  obtain ⟨before, hbefore⟩ : ∃ n, page.toNat = n + 1 := ⟨page.toNat - 1, by omega⟩
  rw [UInt64.le_iff_toNat_le, hbefore, Nat.add_sub_cancel]
  by_cases hsize : size = 0
  · subst hsize
    have hzero : (0 : UInt64).toNat = 0 := rfl
    have hone : (1 : UInt64).toNat = 1 := rfl
    rw [pagesFor, if_pos rfl, hzero, Nat.mul_zero]
    simp only [true_implies]
    split
    · omega
    · omega
  · have hpos := toNat_pos_of_ne_zero hsize
    rw [toNat_pagesFor total hsize, Nat.le_div_iff_mul_le hpos, Nat.succ_mul]
    constructor
    · intro h
      exact ⟨by omega, fun hzero => absurd hzero hsize⟩
    · rintro ⟨h, -⟩
      omega

/-! ### The rows of a page -/

theorem toInt_limitOf {size : UInt64} (h : size ≠ 0) :
    (limitOf size).toInt = (min maxOffset size.toNat : Nat) := by
  have hlt : min maxOffset size.toNat < 2 ^ 63 :=
    Nat.lt_of_le_of_lt (Nat.min_le_left _ _) (by decide)
  rw [limitOf, if_neg h, Int64.toInt_ofNat_of_lt hlt]

theorem limitOf_eq_noLimit {size : UInt64} : limitOf size = noLimit ↔ size = 0 := by
  by_cases hsize : size = 0
  · rw [limitOf, if_pos hsize]
    exact iff_of_true rfl hsize
  · refine iff_of_false (fun hnone => ?_) hsize
    have hneg : noLimit.toInt = -1 := rfl
    rw [← hnone, toInt_limitOf hsize] at hneg
    omega

/-- **The rows of a page**: those from the rows of the pages before up to the next page, or up to the end
if pages have no limit. A limit that was cut off is above all rows. -/
theorem inWindow_iff {total : Int64} {size page offset : UInt64} {row : Nat}
    (hoffset : offset.toNat = (page.toNat - 1) * size.toNat) (hpage : 1 ≤ page.toNat)
    (hlast : page ≤ pagesFor total size) (hrow : (row : Int) < total.toInt) :
    InWindow offset (limitOf size) row ↔
      (page.toNat - 1) * size.toNat ≤ row ∧ (size ≠ 0 → row < page.toNat * size.toNat) := by
  have hnext : page.toNat * size.toNat = (page.toNat - 1) * size.toNat + size.toNat := by
    rw [← Nat.succ_mul]
    congr 1
    omega
  have htotal := total.toInt_lt
  rw [InWindow, hoffset, limitOf_eq_noLimit]
  by_cases hsize : size = 0
  · simp [hsize]
  · have hlimit := toInt_limitOf hsize
    have hmax : maxOffset = 2 ^ 63 - 1 := rfl
    have hbefore := ((le_pagesFor_iff total size hpage).1 hlast).1
    simp only [hsize, false_or, ne_eq, not_false_eq_true, true_implies, hlimit, hnext]
    generalize hstart : (page.toNat - 1) * size.toNat = start at *
    rcases Nat.lt_or_ge maxOffset size.toNat with hcut | hfits
    · -- only the first page has rows then, and all rows are below the limit
      have hzero : start = 0 := by
        rcases Nat.eq_zero_or_pos (page.toNat - 1) with h | h
        · rw [← hstart, h, Nat.zero_mul]
        · have hle := Nat.le_mul_of_pos_left size.toNat h
          omega
      omega
    · omega

end Paging

namespace Pager

open Paging

/-- The offset of a pager that was sent to a page. -/
def startOf (p : Pager) (page : UInt64) : Except QueryError UInt64 :=
  (p.setPage (some page)).2.offset.1

theorem setPage_ok (p : Pager) {page : UInt64} (h : page ≠ 0) :
    p.setPage (some page) = (.ok (), { p with knownPage := some page, knownOffset := none }) := by
  have hsome : some page ≠ some 0 := fun heq => h (Option.some.inj heq)
  rw [setPage, if_neg hsome]

theorem startOf_eq {p : Pager} (h : p.config.offsetParam = none) {page : UInt64} (hpage : page ≠ 0) :
    p.startOf page = derivedOffset page p.pageSize.1 := by
  rw [startOf, setPage_ok p hpage, offset_fst, pageSize_fst, pageSize_fst, page_fst]
  dsimp only
  rw [h]
  rfl

/-- The pages of a pager cut `total` rows into pieces. -/
structure Partitions (p : Pager) (total : Int64) : Prop where
  /-- Each page can be turned to, has an offset, and shows some row. -/
  inhabited : ∀ page, 1 ≤ page → page ≤ (p.pageCount total).1 →
    (p.setPage (some page)).1 = .ok () ∧ ∃ offset, p.startOf page = .ok offset ∧
      ∃ row : Nat, (row : Int) < total.toInt ∧ InWindow offset p.limit.1 row
  /-- Each row is shown by exactly one page. -/
  unique : ∀ row : Nat, (row : Int) < total.toInt →
    ∃! page, 1 ≤ page ∧ page ≤ (p.pageCount total).1 ∧
      ∃ offset, p.startOf page = .ok offset ∧ InWindow offset p.limit.1 row
  /-- Behind the last page there are no rows: there is no offset, or it is not below the total. -/
  beyond : 1 ≤ p.pageSize.1 → ∀ page, (p.pageCount total).1 < page →
    (∃ e, p.startOf page = .error e ∧ e.kind = .invalidArgument) ∨
      ∃ offset, p.startOf page = .ok offset ∧ max total.toInt 0 ≤ offset.toNat

section

variable {p : Pager} {total : Int64} {page : UInt64}

theorem ne_zero_of_one_le (h : 1 ≤ page) : page ≠ 0 := by
  rintro rfl
  exact absurd h (by decide)

theorem one_le_toNat (h : 1 ≤ page) : 1 ≤ page.toNat :=
  UInt64.le_iff_toNat_le.1 h

/-- A page that there is has an offset. -/
theorem exists_startOf (h : p.config.offsetParam = none) (hpage : 1 ≤ page)
    (hlast : page ≤ (p.pageCount total).1) :
    ∃ offset, p.startOf page = .ok offset ∧
      offset.toNat = (page.toNat - 1) * p.pageSize.1.toNat := by
  have hbefore := ((le_pagesFor_iff total p.pageSize.1 (one_le_toNat hpage)).1 hlast).1
  have htotal := total.toInt_lt
  have hmax : maxOffset = 2 ^ 63 - 1 := rfl
  have hle : (page.toNat - 1) * p.pageSize.1.toNat ≤ maxOffset := by omega
  have hlt : (page.toNat - 1) * p.pageSize.1.toNat < UInt64.size := by
    have hword : UInt64.size = 2 ^ 64 := rfl
    omega
  refine ⟨UInt64.ofNat ((page.toNat - 1) * p.pageSize.1.toNat), ?_, UInt64.toNat_ofNat_of_lt' hlt⟩
  rw [startOf_eq h (ne_zero_of_one_le hpage)]
  exact derivedOffset_ok.2 ⟨hle, UInt64.toNat_ofNat_of_lt' hlt⟩

/-- The rows that a page shows. -/
theorem shows_iff (h : p.config.offsetParam = none) (hpage : 1 ≤ page)
    (hlast : page ≤ (p.pageCount total).1) {row : Nat} (hrow : (row : Int) < total.toInt) :
    (∃ offset, p.startOf page = .ok offset ∧ InWindow offset p.limit.1 row) ↔
      (page.toNat - 1) * p.pageSize.1.toNat ≤ row ∧
        (p.pageSize.1 ≠ 0 → row < page.toNat * p.pageSize.1.toNat) := by
  obtain ⟨offset, hstart, hoffset⟩ := exists_startOf h hpage hlast
  rw [← inWindow_iff hoffset (one_le_toNat hpage) hlast hrow, hstart]
  constructor
  · rintro ⟨other, hother, hwindow⟩
    cases hother
    exact hwindow
  · intro hwindow
    exact ⟨offset, rfl, hwindow⟩

/-- Two pages that show the same row are the same page. -/
theorem page_eq_of_row {size i j row : Nat} (hi : 1 ≤ i) (hj : 1 ≤ j) (hlow : (i - 1) * size ≤ row)
    (hhigh : row < i * size) (hlow' : (j - 1) * size ≤ row) (hhigh' : row < j * size) : i = j := by
  have hrow : ∀ k, 1 ≤ k → (k - 1) * size ≤ row → row < k * size → row / size = k - 1 := by
    intro k hk hle hlt
    refine Nat.div_eq_of_lt_le hle ?_
    rwa [Nat.sub_add_cancel hk]
  have hpi := hrow i hi hlow hhigh
  have hpj := hrow j hj hlow' hhigh'
  omega

/-- The page that shows a row: the quotient of the row and the page size, from 1. -/
theorem exists_page_of_row (h : p.config.offsetParam = none) {row : Nat}
    (hrow : (row : Int) < total.toInt) :
    ∃ page, 1 ≤ page ∧ page ≤ (p.pageCount total).1 ∧
      ∃ offset, p.startOf page = .ok offset ∧ InWindow offset p.limit.1 row := by
  have htotal := total.toInt_lt
  -- a quotient by zero is zero, which gives the only page there is then
  have hquot : row / p.pageSize.1.toNat ≤ row := Nat.div_le_self _ _
  have hlt : row / p.pageSize.1.toNat + 1 < UInt64.size := by
    have hword : UInt64.size = 2 ^ 64 := rfl
    omega
  have hpage := UInt64.toNat_ofNat_of_lt' hlt
  generalize UInt64.ofNat (row / p.pageSize.1.toNat + 1) = page at hpage
  have hone : 1 ≤ page := by
    rw [UInt64.le_iff_toNat_le, hpage]
    exact Nat.le_add_left 1 _
  have hbefore : (page.toNat - 1) * p.pageSize.1.toNat ≤ row := by
    rw [hpage, Nat.add_sub_cancel]
    exact Nat.div_mul_le_self _ _
  have hlast : page ≤ (p.pageCount total).1 := by
    refine (le_pagesFor_iff total p.pageSize.1 (one_le_toNat hone)).2 ⟨by omega, fun hzero => ?_⟩
    rw [hpage, hzero]
    simp
  refine ⟨page, hone, hlast, (shows_iff h hone hlast hrow).2 ⟨hbefore, fun hsize => ?_⟩⟩
  rw [hpage]
  exact Nat.lt_mul_of_div_lt (Nat.lt_succ_self _) (toNat_pos_of_ne_zero hsize)

/-- **Pages partition a collection.** Without an offset parameter, in every state of a pager and for
every total, every row is on exactly one page, no page is without rows, and behind the last page there
are no rows. -/
theorem partitions (p : Pager) (total : Int64) (h : p.config.offsetParam = none) :
    p.Partitions total where
  inhabited := by
    intro page hpage hlast
    obtain ⟨offset, hstart, hoffset⟩ := exists_startOf h hpage hlast
    have hbefore := ((le_pagesFor_iff total p.pageSize.1 (one_le_toNat hpage)).1 hlast).1
    have hrow : (((page.toNat - 1) * p.pageSize.1.toNat : Nat) : Int) < total.toInt := by omega
    refine ⟨by rw [setPage_ok p (ne_zero_of_one_le hpage)], offset, hstart, _, hrow, ?_⟩
    refine (inWindow_iff hoffset (one_le_toNat hpage) hlast hrow).2 ⟨Nat.le_refl _, fun hsize => ?_⟩
    have hone := one_le_toNat hpage
    exact Nat.mul_lt_mul_of_pos_right (by omega) (toNat_pos_of_ne_zero hsize)
  unique := by
    intro row hrow
    obtain ⟨page, hpage, hlast, hshows⟩ := exists_page_of_row h hrow
    refine ⟨page, ⟨hpage, hlast, hshows⟩, ?_⟩
    rintro other ⟨hother, hlast', hshows'⟩
    obtain ⟨hlow, hhigh⟩ := (shows_iff h hpage hlast hrow).1 hshows
    obtain ⟨hlow', hhigh'⟩ := (shows_iff h hother hlast' hrow).1 hshows'
    rw [← UInt64.toNat_inj]
    by_cases hsize : p.pageSize.1 = 0
    · rw [((le_pagesFor_iff total _ (one_le_toNat hpage)).1 hlast).2 hsize,
        ((le_pagesFor_iff total _ (one_le_toNat hother)).1 hlast').2 hsize]
    · exact page_eq_of_row (one_le_toNat hother) (one_le_toNat hpage) hlow' (hhigh' hsize) hlow
        (hhigh hsize)
  beyond := by
    intro hsize page hbehind
    have hone : 1 ≤ page := by
      have hlt := UInt64.lt_iff_toNat_lt.1 hbehind
      exact UInt64.le_iff_toNat_le.2 (Nat.lt_of_le_of_lt (Nat.zero_le _) hlt)
    have hrows : total.toInt.toNat ≤ (page.toNat - 1) * p.pageSize.1.toNat := by
      refine Nat.le_of_not_lt fun hlt => ?_
      have hle := (le_pagesFor_iff total p.pageSize.1 (one_le_toNat hone)).2
        ⟨hlt, fun hzero => absurd hzero (ne_zero_of_one_le hsize)⟩
      exact absurd hbehind (UInt64.not_lt.2 hle)
    rw [startOf_eq h (ne_zero_of_one_le hone)]
    cases hstart : derivedOffset page p.pageSize.1 with
    | error e => exact .inl ⟨e, rfl, kind_of_derivedOffset hstart⟩
    | ok offset =>
      have hoffset := (derivedOffset_ok.1 hstart).2
      exact .inr ⟨offset, rfl, by omega⟩

end

/-- Pages of 10 whatever the request says. -/
def tens : Pager :=
  (ofRequest (.ofList [("page", .integer 4), ("limit", .string "25")]) .default).setPageSize (some 10)

theorem partitions_tens :
    tens.config.offsetParam = none ∧ (tens.pageCount 25).1 = 3 ∧ tens.startOf 3 = .ok 20 ∧
      tens.Partitions 25 :=
  ⟨rfl, rfl, rfl, partitions tens 25 rfl⟩

end Pager

end RequestQuery
