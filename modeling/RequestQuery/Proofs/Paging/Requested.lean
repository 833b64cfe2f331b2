import RequestQuery.Proofs.Except
import RequestQuery.Proofs.Paging.Pages

/-!
# The pages that a request asks for

* `Paging.BadPage`, `Paging.OffsetFault` — what a request can get wrong about its page and about the rows
  before it.
* `Paging.requestedPage_error`, `Paging.requestedOffset_error` — these are the only errors, and they come
  just when they are meant to.
* `SizeRange.min_le_clamp`, `SizeRange.clamp_le_max`, `SizeRange.clamp_of_mem`, `SizeRange.clamp_mono`,
  `SizeRange.clamp_eq_zero` — the sizes that a range lets through.
* `Paging.toInt_limitOf_bounds`, `Paging.toInt_limitOf_eq` — a size as a limit.
-/

namespace RequestQuery

namespace SizeRange

variable {range : SizeRange}

theorem min_le_clamp (h : range.min ≤ range.max) (size : UInt64) : range.min ≤ range.clamp size := by
  unfold clamp
  split
  · exact UInt64.le_refl _
  · rename_i hlow
    split
    · exact h
    · exact UInt64.not_lt.1 hlow

theorem clamp_le_max (h : range.min ≤ range.max) (size : UInt64) : range.clamp size ≤ range.max := by
  unfold clamp
  split
  · exact h
  · split
    · exact UInt64.le_refl _
    · rename_i hhigh
      exact UInt64.not_lt.1 hhigh

/-- Sizes inside the range stay as they are. -/
theorem clamp_of_mem {size : UInt64} (hmin : range.min ≤ size) (hmax : size ≤ range.max) :
    range.clamp size = size := by
  rw [clamp, if_neg (UInt64.not_lt.2 hmin), if_neg (UInt64.not_lt.2 hmax)]

/-- A larger size does not come out smaller. -/
theorem clamp_mono (h : range.min ≤ range.max) {a b : UInt64} (hab : a ≤ b) :
    range.clamp a ≤ range.clamp b := by
  have hmin := min_le_clamp h b
  have hmax := clamp_le_max h a
  by_cases hlow : a < range.min
  · rw [clamp, if_pos hlow]
    exact hmin
  · by_cases hhigh : range.max < b
    · have hb : range.clamp b = range.max := by
        rw [clamp, if_pos hhigh, if_neg]
        exact UInt64.not_lt.2 (UInt64.le_of_lt (UInt64.lt_of_le_of_lt h hhigh))
      rw [hb]
      exact hmax
    · -- both sizes are inside the range
      rw [UInt64.not_lt] at hlow hhigh
      rw [clamp_of_mem hlow (UInt64.le_trans hab hhigh), clamp_of_mem (UInt64.le_trans hlow hab) hhigh]
      exact hab

/-- A range lets size 0 through if it starts there, and then only for those who ask for it, unless it
also ends there. -/
theorem clamp_eq_zero (h : range.min ≤ range.max) {size : UInt64} :
    range.clamp size = 0 ↔ range.min = 0 ∧ (size = 0 ∨ range.max = 0) := by
  have hzero : ∀ n : UInt64, n ≤ 0 ↔ n = 0 := fun n => UInt64.le_zero_iff
  constructor
  · intro hclamp
    have hmin := min_le_clamp h size
    rw [hclamp, hzero] at hmin
    refine ⟨hmin, ?_⟩
    unfold clamp at hclamp
    rw [hmin, if_neg UInt64.not_lt_zero] at hclamp
    split at hclamp
    · exact .inr hclamp
    · exact .inl hclamp
  · intro hends
    obtain ⟨hmin, hsize | hmax⟩ := hends
    · have hnot : ¬ range.max < size := by
        rw [hsize]
        exact UInt64.not_lt_zero
      unfold clamp
      rw [if_neg (by rw [hmin]; exact UInt64.not_lt_zero), if_neg hnot, hsize]
    · have hmax' := clamp_le_max h size
      rw [hmax, hzero] at hmax'
      exact hmax'

end SizeRange

namespace Paging

/-! ### The page -/

/-- The integer that a request gives for its page. -/
def pageNumber? (params : Params) (config : PagingConfig) : Option Int64 :=
  (params.scalar? config.pageParam).bind Scalar.toInt64?

/-- Whether a request gives something for its page that is no positive integer. -/
def BadPage (params : Params) (config : PagingConfig) : Prop :=
  (∃ value, params.scalar? config.pageParam = some value) ∧
    ∀ n, pageNumber? params config = some n → ¬ 0 < n

/-- What a request can get wrong where the offset follows from its page. -/
inductive OffsetFault (params : Params) (config : PagingConfig) : QueryError → Prop
  /-- The page is no positive integer. -/
  | badPage (h : BadPage params config) : OffsetFault params config (.notPositive config.pageParam)
  /-- The rows before the page are more than a signed 64-bit integer counts. -/
  | tooFar (n : Int64) (hn : pageNumber? params config = some n) (hpos : 0 < n)
      (hrows : Int64.maxValue.toInt < (n.toInt - 1) * (requestedPageSize params config).toNat) :
      OffsetFault params config (.offsetOutOfRange n.toUInt64)

variable {params : Params} {config : PagingConfig}

/-- The page of a request is its page number, or the first page if it gives none. -/
theorem requestedPage_ok {page : UInt64} :
    requestedPage params config = .ok page ↔
      (params.scalar? config.pageParam = none ∧ page = 1) ∨
        ∃ n, pageNumber? params config = some n ∧ 0 < n ∧ page = n.toUInt64 := by
  unfold requestedPage pageNumber?
  cases params.scalar? config.pageParam with
  | none => simp [eq_comm]
  | some value =>
    simp only [Option.bind_some, reduceCtorEq, false_and, false_or]
    cases value.toInt64? with
    | none => simp
    | some n =>
      by_cases hpos : 0 < n
      · simp [hpos, eq_comm]
      · simp [hpos]

theorem requestedPage_error {e : QueryError} :
    requestedPage params config = .error e ↔
      BadPage params config ∧ e = .notPositive config.pageParam := by
  unfold requestedPage BadPage pageNumber?
  cases params.scalar? config.pageParam with
  | none => simp
  | some value =>
    simp only [Option.bind_some]
    cases value.toInt64? with
    | none => simp [eq_comm]
    | some n =>
      simp only [Option.some.injEq, exists_eq', true_and, forall_eq']
      split
      · rename_i hpos
        exact iff_of_false nofun fun h => h.1 hpos
      · rename_i hneg
        simp only [hneg, not_false_eq_true, true_and, Except.error.injEq, eq_comm]

theorem toNat_toUInt64 {n : Int64} (h : 0 ≤ n) : (n.toUInt64.toNat : Int) = n.toInt := by
  rw [Int64.toNat_toUInt64_of_le h]
  exact Int.toNat_of_nonneg (Int64.le_iff_toInt_le.1 h)

/-- Pages are counted from 1. -/
theorem one_le_of_requestedPage {page : UInt64} (h : requestedPage params config = .ok page) :
    1 ≤ page.toNat := by
  rcases requestedPage_ok.1 h with ⟨-, rfl⟩ | ⟨n, -, hpos, rfl⟩
  · exact Nat.le_refl 1
  · have hn := toNat_toUInt64 (Int64.le_of_lt hpos)
    have hone : 0 < n.toInt := Int64.lt_iff_toInt_lt.1 hpos
    omega

/-! ### The offset -/

theorem derivedOffset_error {page size : UInt64} {e : QueryError} :
    derivedOffset page size = .error e ↔
      maxOffset < (page.toNat - 1) * size.toNat ∧ e = .offsetOutOfRange page := by
  unfold derivedOffset
  dsimp only
  split
  · rename_i hle
    exact iff_of_false nofun fun h => absurd h.1 (Nat.not_lt.2 hle)
  · rename_i hgt
    simp only [Nat.lt_of_not_le hgt, true_and, Except.error.injEq, eq_comm]

theorem toInt_maxValue : Int64.maxValue.toInt = maxOffset := by
  decide

/-- The rows before a page, counted in integers. -/
theorem maxOffset_lt_iff {n : Int64} (h : 0 < n) (size : Nat) :
    maxOffset < (n.toUInt64.toNat - 1) * size ↔ Int64.maxValue.toInt < (n.toInt - 1) * size := by
  have hpos : 0 < n.toInt := Int64.lt_iff_toInt_lt.1 h
  have hpage := toNat_toUInt64 (Int64.le_of_lt h)
  have hcast : (((n.toUInt64.toNat - 1) * size : Nat) : Int) = (n.toInt - 1) * size := by
    rw [Int.natCast_mul, ← hpage, Int.ofNat_sub (by omega)]
    rfl
  rw [toInt_maxValue, ← hcast]
  exact Int.ofNat_lt.symm

/-- **A request has no offset just if its page is at fault**, and if the offset follows from the page at
all. -/
theorem requestedOffset_error {e : QueryError} :
    requestedOffset params config = .error e ↔
      config.offsetParam = none ∧ OffsetFault params config e := by
  unfold requestedOffset
  cases config.offsetParam with
  | some name => simp
  | none =>
    simp only [true_and, bind_error]
    constructor
    · intro h
      rcases h with hpage | ⟨page, hpage, hoffset⟩
      · obtain ⟨hbad, rfl⟩ := requestedPage_error.1 hpage
        exact .badPage hbad
      · obtain ⟨hrows, rfl⟩ := derivedOffset_error.1 hoffset
        rcases requestedPage_ok.1 hpage with ⟨-, rfl⟩ | ⟨n, hn, hpos, rfl⟩
        · -- there are no rows before the first page
          have hone : (1 : UInt64).toNat - 1 = 0 := rfl
          rw [hone, Nat.zero_mul] at hrows
          exact absurd hrows (Nat.not_lt_zero _)
        · exact .tooFar n hn hpos ((maxOffset_lt_iff hpos _).1 hrows)
    · intro h
      cases h with
      | badPage hbad => exact .inl (requestedPage_error.2 ⟨hbad, rfl⟩)
      | tooFar n hn hpos hrows =>
        have hpage := requestedPage_ok.2 (.inr ⟨n, hn, hpos, rfl⟩)
        exact .inr ⟨_, hpage, derivedOffset_error.2 ⟨(maxOffset_lt_iff hpos _).2 hrows, rfl⟩⟩

/-! ### The page size -/

/-- The page size that a request asks for, before a range is applied. -/
def askedPageSize (params : Params) (config : PagingConfig) : UInt64 :=
  (unsignedParam? params config.pageSizeParam).getD config.defaultPageSize

theorem requestedPageSize_of_range (params : Params) {range : SizeRange}
    (h : config.pageSizeLimit = some range) :
    requestedPageSize params config = range.clamp (askedPageSize params config) := by
  rw [requestedPageSize, h]
  rfl

/-- A limit is at least one row, and not more rows than the page size. -/
theorem toInt_limitOf_bounds {size : UInt64} (h : size ≠ 0) :
    1 ≤ (limitOf size).toInt ∧ (limitOf size).toInt ≤ size.toNat := by
  have hpos := toNat_pos_of_ne_zero h
  have hmax : maxOffset = 2 ^ 63 - 1 := rfl
  rw [toInt_limitOf h]
  omega

/-- A page size as a limit: -1 for 0, and else the size as far as a signed 64-bit integer counts. -/
theorem toInt_limitOf_eq (size : UInt64) :
    (limitOf size).toInt = if size = 0 then -1 else min (size.toNat : Int) Int64.maxValue.toInt := by
  split
  · rename_i hzero
    rw [hzero]
    rfl
  · rename_i hsize
    rw [toInt_limitOf hsize, toInt_maxValue]
    omega

end Paging

end RequestQuery
