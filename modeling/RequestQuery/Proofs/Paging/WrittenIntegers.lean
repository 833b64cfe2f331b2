import RequestQuery.Proofs.Paging.DerivedOffset
import RequestQuery.Proofs.Text.LeadingInteger

/-!
# Integers given as texts

A query string carries texts only, a JSON object carries integers as well. Paging does not tell them apart.

* `Params.Respells`, `Params.respells_insert` — a request that gives an integer of another request as its
  decimal text.
* `Paging.Reads`, `Paging.reads_of_respells` — what is read then: the same integer, or two negative ones.
* `Paging.SamePaging`, `Paging.samePaging_of_respells` — requests that ask for the same page, page size and
  offset.
* `FreshPager.ask_withParams`, `FreshPager.after_withParams` — one call, and several, with either request.
* `Pager.AnswersAlike`, `Pager.answersAlike_after` — pagers of the two requests give the same answers,
  errors included, whatever was asked and set before.
-/

namespace RequestQuery

namespace Params

/-- Whether a request gives a parameter as another one does, or gives the decimal text of the other's
integer. -/
def Respells (p q : Params) (name : String) : Prop :=
  q.get? name = p.get? name ∨
    ∃ n : Int64, p.get? name = some (.integer n.toInt) ∧
      q.get? name = some (.string (toString n.toInt))

/-- Putting the decimal text in the place of an integer. -/
theorem respells_insert {p : Params} {name : String} {n : Int64}
    (h : p.get? name = some (.integer n.toInt)) (other : String) :
    p.Respells (p.insert name (.string (toString n.toInt))) other := by
  have hget : (p.insert name (.string (toString n.toInt))).get? other
      = if other = name then some (.string (toString n.toInt)) else p.get? other := by
    rw [get?, insert, SortedMap.get?_insert]
    rfl
  by_cases hname : other = name
  · subst hname
    refine .inr ⟨n, h, ?_⟩
    rw [hget, if_pos rfl]
  · left
    rw [hget, if_neg hname]

end Params

namespace Paging

variable {p q : Params} {config : PagingConfig}

/-! ### What is read -/

/-- Two values of a parameter that paging does not tell apart: the same value, or two values that are read
as the same integer or as negative ones. -/
def Reads (a b : Option Scalar) : Prop :=
  a = b ∨ ∃ v w n i, a = some v ∧ b = some w ∧ v.toInt64? = some n ∧ w.toInt64? = some i ∧
    (i = n ∨ n < 0 ∧ i < 0)

theorem reads_of_respells {name : String} (h : p.Respells q name) :
    Reads (p.scalar? name) (q.scalar? name) := by
  rcases h with hsame | ⟨n, hp, hq⟩
  · left
    rw [Params.scalar?, Params.scalar?, hsame]
  · right
    obtain ⟨i, hread, hi⟩ := Text.leadingInteger?_toString n
    have hscalar : Scalar.ofJson? (.integer n.toInt) = some (.integer n) := by
      show some (Scalar.ofInt n.toInt) = _
      rw [Scalar.ofInt, if_pos ⟨n.minValue_le_toInt, n.toInt_le⟩, Int64.ofInt_toInt]
    refine ⟨.integer n, .text (toString n.toInt), n, i, ?_, ?_, rfl, hread, ?_⟩
    · rw [Params.scalar?, hp]
      exact hscalar
    · rw [Params.scalar?, hq]
      rfl
    · rcases Int.le_total (-Int64.maxValue.toInt) n.toInt with hle | hlt
      · left
        apply Int64.toInt_inj.1
        omega
      · right
        have hmax : Int64.maxValue.toInt = 2 ^ 63 - 1 := rfl
        have hzero : (0 : Int64).toInt = 0 := rfl
        rw [Int64.lt_iff_toInt_lt, Int64.lt_iff_toInt_lt]
        omega

theorem requestedPage_reads (h : Reads (p.scalar? config.pageParam) (q.scalar? config.pageParam)) :
    requestedPage p config = requestedPage q config := by
  rw [requestedPage, requestedPage]
  rcases h with hsame | ⟨v, w, n, i, hv, hw, hn, hi, rfl | ⟨hneg, hneg'⟩⟩
  · rw [hsame]
  · simp only [hv, hw, hn, hi]
  · have hnot : ¬ 0 < n := Int64.not_lt.2 (Int64.le_of_lt hneg)
    have hnot' : ¬ 0 < i := Int64.not_lt.2 (Int64.le_of_lt hneg')
    simp only [hv, hw, hn, hi, if_neg hnot, if_neg hnot']

theorem unsignedParam?_reads {name : String} (h : Reads (p.scalar? name) (q.scalar? name)) :
    unsignedParam? p name = unsignedParam? q name := by
  rw [unsignedParam?, unsignedParam?]
  rcases h with hsame | ⟨v, w, n, i, hv, hw, hn, hi, rfl | ⟨hneg, hneg'⟩⟩
  · rw [hsame]
  · simp only [hv, hw, hn, hi, Option.bind_some]
  · have hnot : ¬ 0 ≤ n := Int64.not_le.2 hneg
    have hnot' : ¬ 0 ≤ i := Int64.not_le.2 hneg'
    simp only [hv, hw, hn, hi, Option.bind_some, unsigned?, if_neg hnot, if_neg hnot']

/-- Requests that ask for the same page, the same page size and the same offset. -/
structure SamePaging (p q : Params) (config : PagingConfig) : Prop where
  page : requestedPage p config = requestedPage q config
  pageSize : requestedPageSize p config = requestedPageSize q config
  offset : ∀ name, config.offsetParam = some name → unsignedParam? p name = unsignedParam? q name

theorem samePaging_of_respells (h : ∀ name ∈ config.controlParams, p.Respells q name) :
    SamePaging p q config where
  page := requestedPage_reads (reads_of_respells (h _ List.mem_cons_self))
  pageSize := by
    have hsize : config.pageSizeParam ∈ config.controlParams :=
      List.mem_cons_of_mem _ List.mem_cons_self
    rw [requestedPageSize, requestedPageSize,
      unsignedParam?_reads (reads_of_respells (h _ hsize))]
  offset := by
    intro name hname
    have hoffset : name ∈ config.controlParams := by
      rw [PagingConfig.controlParams, hname]
      simp
    exact unsignedParam?_reads (reads_of_respells (h _ hoffset))

end Paging

open Paging

/-! ### Calls -/

namespace FreshPager

variable {q : FreshPager} {params other : Params} {config : PagingConfig}

/-- The pager for another request. -/
def withParams (q : FreshPager) (other : Params) : FreshPager :=
  { q with params := other }

@[simp] theorem withParams_params : (q.withParams other).params = other := rfl

@[simp] theorem withParams_config : (q.withParams other).config = q.config := rfl

@[simp] theorem withParams_chosenOffset : (q.withParams other).chosenOffset = q.chosenOffset := rfl

section

variable (h : SamePaging params other config) (hserves : q.Serves params config)
include h hserves

theorem page_withParams : (q.withParams other).page = q.page := by
  simp only [FreshPager.page, withParams, hserves.params, hserves.config, h.page]

theorem pageSize_withParams : (q.withParams other).pageSize = q.pageSize := by
  simp only [FreshPager.pageSize, withParams, hserves.params, hserves.config, h.pageSize]

theorem offset_withParams : (q.withParams other).offset = q.offset := by
  unfold FreshPager.offset
  rw [page_withParams h hserves, pageSize_withParams h hserves, withParams_params,
    withParams_config, withParams_chosenOffset, hserves.params, hserves.config]
  cases q.chosenOffset with
  | some n => rfl
  | none =>
    cases hparam : config.offsetParam with
    | none => rfl
    | some name =>
      show Except.ok ((unsignedParam? other name).getD 0) = _
      rw [← h.offset name hparam]

theorem result_withParams {α : Type} (total : Option Int64) (items : Option (List α)) :
    (q.withParams other).result total items = q.result total items := by
  unfold FreshPager.result
  rw [page_withParams h hserves, pageSize_withParams h hserves]

/-- **One call** is answered alike for either request, and sets the same. -/
theorem ask_withParams (call : Pager.Call) :
    (q.withParams other).ask call = ((q.ask call).1, (q.ask call).2.withParams other) := by
  have hpage := page_withParams h hserves
  have hsize := pageSize_withParams h hserves
  cases call with
  | page => rw [ask, hpage]; rfl
  | pageSize => rw [ask, hsize]; rfl
  | offset => rw [ask, offset_withParams h hserves]; rfl
  | limit => rw [ask, hsize]; rfl
  | pageCount total => rw [ask, hsize]; rfl
  | result total items => rw [ask, result_withParams h hserves]; rfl
  | setPage page =>
    simp only [ask]
    split
    · rfl
    · rfl
  | setPageSize size => rfl
  | setOffset offset => rfl

/-- Several calls set the same for either request. -/
theorem after_withParams (calls : List Pager.Call) :
    (q.withParams other).after calls = (q.after calls).withParams other := by
  induction calls generalizing q with
  | nil => rfl
  | cons call calls ih =>
    show ((q.withParams other).ask call).2.after calls = _
    rw [ask_withParams h hserves]
    exact ih (hserves.ask call)

end

end FreshPager

namespace Pager

/-- Pagers that give the same answers, errors included. -/
structure AnswersAlike (p p' : Pager) : Prop where
  page : p.page.1 = p'.page.1
  pageSize : p.pageSize.1 = p'.pageSize.1
  offset : p.offset.1 = p'.offset.1
  limit : p.limit.1 = p'.limit.1
  pageCount : ∀ total, (p.pageCount total).1 = (p'.pageCount total).1

/-- **Paging does not depend on how an integer is given.** If a request gives the page, the page size or the
offset as the decimal text of the integer that another request gives, the pagers of the two give the same
answers, whatever was asked and set before. -/
theorem answersAlike_after (config : PagingConfig) {params other : Params}
    (h : ∀ name ∈ config.controlParams, params.Respells other name) (calls : List Call) :
    ((ofRequest params config).after calls).AnswersAlike ((ofRequest other config).after calls) := by
  have hsame := samePaging_of_respells h
  have hstart := FreshPager.serves_ofRequest params config
  have hserves := hstart.after calls
  have hp := after_mirrors (mirrors_ofRequest params config) calls
  have hq : ((ofRequest other config).after calls).Mirrors
      (((FreshPager.ofRequest params config).after calls).withParams other) := by
    rw [← FreshPager.after_withParams hsame hstart]
    exact after_mirrors (mirrors_ofRequest other config) calls
  have hsize : ((ofRequest params config).after calls).pageSize.1
      = ((ofRequest other config).after calls).pageSize.1 := by
    rw [hp.pageSize_fst, hq.pageSize_fst, FreshPager.pageSize_withParams hsame hserves]
  constructor
  · rw [hp.page_fst, hq.page_fst, FreshPager.page_withParams hsame hserves]
  · exact hsize
  · rw [hp.offset_fst, hq.offset_fst, FreshPager.offset_withParams hsame hserves]
  · rw [limit_fst, limit_fst, hsize]
  · intro total
    rw [pageCount_fst, pageCount_fst, hsize]

/-- The third page, of the least size there is. -/
def leastSize : Params :=
  .ofList [("page", .integer 3), ("limit", .integer Int64.minValue.toInt)]

/-- As text the least integer is read as the one above it; both are no page size, so pages have 30 rows. -/
theorem answersAlike_after_least :
    (∀ name ∈ PagingConfig.default.controlParams,
      leastSize.Respells (leastSize.insert "limit" (.string "-9223372036854775808")) name) ∧
    (ofRequest leastSize .default).offset.1 = .ok 60 ∧
    (ofRequest (leastSize.insert "limit" (.string "-9223372036854775808")) .default).offset.1
      = .ok 60 := by
  have htext : toString Int64.minValue.toInt = "-9223372036854775808" := by decide
  have hrespells : ∀ name ∈ PagingConfig.default.controlParams,
      leastSize.Respells (leastSize.insert "limit" (.string "-9223372036854775808")) name := by
    intro name _
    rw [← htext]
    exact Params.respells_insert rfl name
  have hoffset : (ofRequest leastSize .default).offset.1 = .ok 60 := by rfl
  refine ⟨hrespells, hoffset, ?_⟩
  exact (answersAlike_after .default hrespells []).offset.symm.trans hoffset

end Pager

end RequestQuery
