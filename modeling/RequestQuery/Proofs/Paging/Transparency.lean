import RequestQuery.Proofs.Except
import RequestQuery.Proofs.Paging.Getters

/-!
# What a pager keeps cannot be seen

A pager keeps the answers that it has worked out. Beside it stands a pager that keeps nothing but the
numbers that were set and works out every answer anew; nobody who only asks and sets can tell the two
apart.

* `Pager.Call`, `Pager.Answer` — a question to a pager or a number that is set, and what it gives.
* `Pager.ask`, `Pager.answers`, `Pager.after` — one call, the answers to several, and the pager after them.
* `FreshPager` — the pager that works out every answer anew.
* `Pager.Mirrors`, `Pager.ask_mirrors`, `Pager.after_mirrors` — what a pager keeps is what would be worked
  out, and one call keeps it so, as several do.
* `Pager.transparent` — the two answer every sequence of calls alike, and a call that failed has changed
  no later answer.
-/

namespace RequestQuery

open Paging

/-! ### Calls -/

namespace Pager

/-- A question to a pager, or a number that is set. -/
inductive Call : Type 1 where
  | page
  | pageSize
  | offset
  | limit
  | pageCount (total : Int64)
  | result {α : Type} (total : Option Int64) (items : Option (List α))
  | setPage (page : Option UInt64)
  | setPageSize (size : Option Int64)
  | setOffset (offset : Option UInt64)

/-- What a call gives if it does not fail. -/
inductive Answer : Type 1 where
  | count (n : UInt64)
  | limit (n : Int64)
  | result {α : Type} (r : PageResult α)
  | done

/-- The answer to a call, and the pager after it. -/
def ask (p : Pager) : Call → Except QueryError Answer × Pager
  | .page => (p.page.1.map .count, p.page.2)
  | .pageSize => (.ok (.count p.pageSize.1), p.pageSize.2)
  | .offset => (p.offset.1.map .count, p.offset.2)
  | .limit => (.ok (.limit p.limit.1), p.limit.2)
  | .pageCount total => (.ok (.count (p.pageCount total).1), (p.pageCount total).2)
  | .result total items => ((p.result total items).1.map .result, (p.result total items).2)
  | .setPage page => ((p.setPage page).1.map fun _ => .done, (p.setPage page).2)
  | .setPageSize size => (.ok .done, p.setPageSize size)
  | .setOffset offset => (.ok .done, p.setOffset offset)

/-- The answers to several calls, one after the other. -/
def answers (p : Pager) : List Call → List (Except QueryError Answer)
  | [] => []
  | call :: calls => (p.ask call).1 :: answers (p.ask call).2 calls

/-- The pager after several calls. -/
def after (p : Pager) : List Call → Pager
  | [] => p
  | call :: calls => after (p.ask call).2 calls

end Pager

/-! ### Working out every answer anew -/

/-- Paging of one request that keeps nothing but the numbers that were set: a page number, a page size and
an offset. -/
structure FreshPager where
  params : Params
  config : PagingConfig
  chosenPage : Option UInt64
  chosenPageSize : Option UInt64
  chosenOffset : Option UInt64

namespace FreshPager

/-- A pager for which nothing was set. -/
def ofRequest (params : Params) (config : PagingConfig) : FreshPager :=
  ⟨params, config, none, none, none⟩

variable (q : FreshPager)

/-- The page number that was set, else the one that the request asks for. -/
def page : Except QueryError UInt64 :=
  match q.chosenPage with
  | some n => .ok n
  | none => requestedPage q.params q.config

/-- The page size that was set, else the one that the request asks for. -/
def pageSize : UInt64 :=
  q.chosenPageSize.getD (requestedPageSize q.params q.config)

/-- The offset that was set, else the offset parameter if there is one, else the rows of the pages
before. -/
def offset : Except QueryError UInt64 :=
  match q.chosenOffset, q.config.offsetParam with
  | some n, _ => .ok n
  | none, some name => .ok ((unsignedParam? q.params name).getD 0)
  | none, none => q.page >>= fun page => derivedOffset page q.pageSize

/-- A page of results. -/
def result (total : Option Int64) (items : Option (List α)) : Except QueryError (PageResult α) :=
  match total, items with
  | none, _ => .error .missingTotal
  | some _, none => .error .missingItems
  | some total, some items =>
    q.page >>= fun page => .ok ⟨⟨total, pagesFor total q.pageSize, page, q.pageSize⟩, items⟩

/-- The answer to a call, and the pager after it. Questions leave it as it is; a page number or a page
size that is set takes the place of an offset that was set before. -/
def ask : Pager.Call → Except QueryError Pager.Answer × FreshPager
  | .page => (q.page.map .count, q)
  | .pageSize => (.ok (.count q.pageSize), q)
  | .offset => (q.offset.map .count, q)
  | .limit => (.ok (.limit (limitOf q.pageSize)), q)
  | .pageCount total => (.ok (.count (pagesFor total q.pageSize)), q)
  | .result total items => ((q.result total items).map .result, q)
  | .setPage page =>
    if page = some 0 then (.error (.notPositive q.config.pageParam), q)
    else (.ok .done, { q with chosenPage := page, chosenOffset := none })
  | .setPageSize size =>
    let size := size.map fun n => (unsigned? n).getD q.config.defaultPageSize
    (.ok .done, { q with chosenPageSize := size, chosenOffset := none })
  | .setOffset offset => (.ok .done, { q with chosenOffset := offset })

def answers (q : FreshPager) : List Pager.Call → List (Except QueryError Pager.Answer)
  | [] => []
  | call :: calls => (q.ask call).1 :: answers (q.ask call).2 calls

def after (q : FreshPager) : List Pager.Call → FreshPager
  | [] => q
  | call :: calls => after (q.ask call).2 calls

/-- A call that fails sets nothing. -/
theorem ask_snd_of_error {call : Pager.Call} {e : QueryError} (h : (q.ask call).1 = .error e) :
    (q.ask call).2 = q := by
  cases call with
  | setPage page =>
    rw [ask] at h ⊢
    split at h
    · rename_i hzero
      rw [if_pos hzero]
    · cases h
  | setPageSize size => cases h
  | setOffset offset => cases h
  | _ => rfl

end FreshPager

namespace Pager

/-! ### What a pager keeps -/

/-- A pager keeps the numbers that were set, and else only what would be worked out anew. -/
structure Mirrors (p : Pager) (q : FreshPager) : Prop where
  params : p.params = q.params
  config : p.config = q.config
  /-- A page number that was set is known, and a page number that is known is right. -/
  chosenPage : ∀ n, q.chosenPage = some n → p.knownPage = some n
  page : ∀ n, p.knownPage = some n → q.page = .ok n
  chosenPageSize : ∀ n, q.chosenPageSize = some n → p.knownPageSize = some n
  pageSize : ∀ n, p.knownPageSize = some n → q.pageSize = n
  chosenOffset : ∀ n, q.chosenOffset = some n → p.knownOffset = some n
  offset : ∀ n, p.knownOffset = some n → q.offset = .ok n

theorem mirrors_ofRequest (params : Params) (config : PagingConfig) :
    (ofRequest params config).Mirrors (.ofRequest params config) where
  params := rfl
  config := rfl
  chosenPage := nofun
  page := nofun
  chosenPageSize := nofun
  pageSize := nofun
  chosenOffset := nofun
  offset := nofun

/-- Where nothing is known, nothing was set. -/
theorem not_set {set known : Option UInt64} (h : ∀ n, set = some n → known = some n)
    (hknown : known = none) : set = none := by
  cases set with
  | none => rfl
  | some n =>
    have hsome := h n rfl
    rw [hknown] at hsome
    cases hsome

section

variable {p : Pager} {q : FreshPager} (h : p.Mirrors q)
include h

/-! ### Answers -/

theorem Mirrors.page_fst : p.page.1 = q.page := by
  rw [Pager.page_fst]
  cases hknown : p.knownPage with
  | some n => exact (h.page n hknown).symm
  | none =>
    have hset : q.chosenPage = none := not_set h.chosenPage hknown
    rw [FreshPager.page, hset, h.params, h.config]

theorem Mirrors.pageSize_fst : p.pageSize.1 = q.pageSize := by
  rw [Pager.pageSize_fst]
  cases hknown : p.knownPageSize with
  | some n => exact (h.pageSize n hknown).symm
  | none =>
    have hset : q.chosenPageSize = none := not_set h.chosenPageSize hknown
    rw [FreshPager.pageSize, hset, h.params, h.config]

theorem Mirrors.offset_fst : p.offset.1 = q.offset := by
  rw [Pager.offset_fst]
  cases hknown : p.knownOffset with
  | some n => exact (h.offset n hknown).symm
  | none =>
    have hset : q.chosenOffset = none := not_set h.chosenOffset hknown
    unfold FreshPager.offset
    cases hparam : q.config.offsetParam with
    | some name => simp only [hset, h.config, hparam, h.params]
    | none => simp only [hset, h.config, hparam, h.page_fst, h.pageSize_fst]

theorem Mirrors.result_fst {α : Type} (total : Option Int64) (items : Option (List α)) :
    (p.result total items).1 = q.result total items := by
  rw [Pager.result_fst, h.page_fst, h.pageSize_fst]
  rfl

/-! ### The pager after a question -/

theorem Mirrors.page_snd : p.page.2.Mirrors q := by
  have hpage := h.page_fst
  rw [Pager.page_snd]
  refine { h with chosenPage := ?_, page := ?_ }
  · intro n hset
    have hanswer : q.page = .ok n := h.page n (h.chosenPage n hset)
    show p.page.1.toOption = some n
    rw [hpage, hanswer]
    rfl
  · intro n hknown
    rw [hpage] at hknown
    cases hanswer : q.page with
    | error e =>
      rw [hanswer] at hknown
      cases hknown
    | ok m =>
      rw [hanswer] at hknown
      cases hknown
      rfl

theorem Mirrors.pageSize_snd : p.pageSize.2.Mirrors q := by
  have hsize := h.pageSize_fst
  rw [Pager.pageSize_snd]
  refine { h with chosenPageSize := ?_, pageSize := ?_ }
  · intro n hset
    have hanswer : q.pageSize = n := h.pageSize n (h.chosenPageSize n hset)
    show some p.pageSize.1 = some n
    rw [hsize, hanswer]
  · intro n hknown
    rw [← hsize]
    exact Option.some.inj hknown

/-- An offset that would be worked out may be kept. -/
theorem Mirrors.keep_offset {n : UInt64} (hoffset : q.offset = .ok n) :
    { p with knownOffset := some n }.Mirrors q := by
  refine { h with chosenOffset := ?_, offset := ?_ }
  · intro m hset
    have hanswer : q.offset = .ok m := h.offset m (h.chosenOffset m hset)
    rw [hoffset] at hanswer
    cases hanswer
    rfl
  · intro m hknown
    cases hknown
    exact hoffset

theorem Mirrors.offset_snd : p.offset.2.Mirrors q := by
  have hanswer := h.offset_fst
  have hpage := h.page_snd
  unfold Pager.offset at hanswer ⊢
  cases hknown : p.knownOffset with
  | some n => exact h
  | none =>
    rw [hknown] at hanswer
    cases hparam : p.config.offsetParam with
    | some name =>
      rw [hparam] at hanswer
      exact h.keep_offset hanswer.symm
    | none =>
      rw [hparam] at hanswer
      dsimp only at hanswer ⊢
      -- the pager is handed from the page number to the page size
      generalize p.page = answer at hanswer hpage ⊢
      obtain ⟨e | page, p'⟩ := answer
      · exact hpage
      · have hsize : p'.pageSize.2.Mirrors q := Mirrors.pageSize_snd hpage
        dsimp only at hanswer ⊢
        cases hrows : derivedOffset page p'.pageSize.1 with
        | error e => exact hsize
        | ok n =>
          rw [hrows] at hanswer
          exact hsize.keep_offset hanswer.symm

theorem Mirrors.result_snd {α : Type} (total : Option Int64) (items : Option (List α)) :
    (p.result total items).2.Mirrors q := by
  cases total with
  | none => exact h
  | some total =>
    cases items with
    | none => exact h
    | some items =>
      have hpage : p.pageSize.2.page.2.Mirrors q := h.pageSize_snd.page_snd
      unfold Pager.result
      dsimp only [pageCount]
      generalize p.pageSize.2.page = answer at hpage ⊢
      obtain ⟨e | page, p'⟩ := answer
      · exact hpage
      · exact Mirrors.pageSize_snd hpage

/-! ### The pager after a number was set -/

theorem Mirrors.set_page (page : Option UInt64) :
    { p with knownPage := page, knownOffset := none }.Mirrors
      { q with chosenPage := page, chosenOffset := none } where
  params := h.params
  config := h.config
  chosenPage := fun _ hset => hset
  page := by
    intro n hknown
    cases hknown
    rfl
  chosenPageSize := h.chosenPageSize
  pageSize := h.pageSize
  chosenOffset := nofun
  offset := nofun

theorem Mirrors.set_pageSize (size : Option UInt64) :
    { p with knownPageSize := size, knownOffset := none }.Mirrors
      { q with chosenPageSize := size, chosenOffset := none } where
  params := h.params
  config := h.config
  chosenPage := h.chosenPage
  page := h.page
  chosenPageSize := fun _ hset => hset
  pageSize := by
    intro n hknown
    cases hknown
    rfl
  chosenOffset := nofun
  offset := nofun

theorem Mirrors.set_offset (offset : Option UInt64) :
    { p with knownOffset := offset }.Mirrors { q with chosenOffset := offset } where
  params := h.params
  config := h.config
  chosenPage := h.chosenPage
  page := h.page
  chosenPageSize := h.chosenPageSize
  pageSize := h.pageSize
  chosenOffset := fun _ hset => hset
  offset := by
    intro n hknown
    cases hknown
    rfl

/-! ### Calls -/

/-- **One call**: it is answered as if nothing had been kept, and what is kept after it is right. -/
theorem ask_mirrors (call : Call) :
    (p.ask call).1 = (q.ask call).1 ∧ (p.ask call).2.Mirrors (q.ask call).2 := by
  have hsize := h.pageSize_fst
  have hconfig := h.config
  cases call with
  | page => exact ⟨congrArg (Except.map _) h.page_fst, h.page_snd⟩
  | pageSize =>
    refine ⟨?_, h.pageSize_snd⟩
    rw [ask, FreshPager.ask, hsize]
  | offset => exact ⟨congrArg (Except.map _) h.offset_fst, h.offset_snd⟩
  | limit =>
    refine ⟨?_, h.pageSize_snd⟩
    rw [ask, FreshPager.ask, limit_fst, hsize]
  | pageCount total =>
    refine ⟨?_, h.pageSize_snd⟩
    rw [ask, FreshPager.ask, pageCount_fst, hsize]
  | result total items =>
    exact ⟨congrArg (Except.map _) (h.result_fst total items), h.result_snd total items⟩
  | setPage page =>
    rw [ask, FreshPager.ask, setPage]
    by_cases hzero : page = some 0
    · rw [if_pos hzero, if_pos hzero]
      exact ⟨by rw [hconfig]; rfl, h⟩
    · rw [if_neg hzero, if_neg hzero]
      exact ⟨rfl, h.set_page page⟩
  | setPageSize size =>
    have hset : p.setPageSize size = { p with
        knownPageSize := size.map fun n => (unsigned? n).getD q.config.defaultPageSize
        knownOffset := none } := by
      rw [setPageSize, hconfig]
    refine ⟨rfl, ?_⟩
    show (p.setPageSize size).Mirrors _
    rw [hset]
    exact h.set_pageSize _
  | setOffset offset => exact ⟨rfl, h.set_offset offset⟩

/-- Several calls are answered as if nothing had been kept. -/
theorem answers_mirrors (calls : List Call) : p.answers calls = q.answers calls := by
  induction calls generalizing p q with
  | nil => rfl
  | cons call calls ih =>
    obtain ⟨hanswer, hnext⟩ := ask_mirrors h call
    rw [answers, FreshPager.answers, hanswer, ih hnext]

/-- Whatever was asked and set, what a pager keeps is what would be worked out anew. -/
theorem after_mirrors (calls : List Call) : (p.after calls).Mirrors (q.after calls) := by
  induction calls generalizing p q with
  | nil => exact h
  | cons call calls ih => exact ih (ask_mirrors h call).2

theorem exists_mirrors_after (calls : List Call) : ∃ q', (p.after calls).Mirrors q' :=
  ⟨q.after calls, after_mirrors h calls⟩

end

/-- **What a pager keeps cannot be seen.** It answers every sequence of calls as the pager does that works
out every answer anew; and a call that failed, whenever it was made, has changed no later answer. -/
theorem transparent (params : Params) (config : PagingConfig) :
    (∀ calls, (ofRequest params config).answers calls
      = (FreshPager.ofRequest params config).answers calls) ∧
    ∀ before call e calls, (((ofRequest params config).after before).ask call).1 = .error e →
      (((ofRequest params config).after before).ask call).2.answers calls
        = ((ofRequest params config).after before).answers calls := by
  have hstart := mirrors_ofRequest params config
  constructor
  · exact answers_mirrors hstart
  · intro before call e calls hfail
    obtain ⟨q, hq⟩ := exists_mirrors_after hstart before
    obtain ⟨hanswer, hnext⟩ := ask_mirrors hq call
    -- the other pager is the same before and after the call
    have hsame : (q.ask call).2 = q := q.ask_snd_of_error (hanswer.symm.trans hfail)
    rw [hsame] at hnext
    rw [answers_mirrors hnext, answers_mirrors hq]

/-- A request for a page that is no number, ten rows a page. -/
def unpaged : Pager :=
  ofRequest (.ofList [("page", .string "x"), ("limit", .integer 10)]) .default

/-- No offset can be told, nor can page 0 be set, and neither leaves a trace: the page size that was asked
for on the way still holds, and the offset follows the page that is set. -/
theorem transparent_unpaged :
    (unpaged.ask .offset).1 = .error (.notPositive "page") ∧
    (unpaged.ask .offset).2.answers [.pageSize, .setPage (some 3), .setPage (some 0), .offset]
      = [.ok (.count 10), .ok .done, .error (.notPositive "page"), .ok (.count 20)] := by
  refine ⟨rfl, ?_⟩
  have hsame := (transparent (.ofList [("page", .string "x"), ("limit", .integer 10)]) .default).2
    [] .offset _ [.pageSize, .setPage (some 3), .setPage (some 0), .offset] rfl
  exact hsame.trans rfl

end Pager

end RequestQuery
