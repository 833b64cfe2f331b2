import RequestQuery.Proofs.Compiler.Stages

/-!
# What a query depends on

Every stage of compiling reads parameters by their names, and no stage reads more than the scalar value of
a parameter.

* `Params.AgreeOn` — requests that give some parameters the same values.
* `Params.given?` — the value of a parameter as filters see it: the empty text counts as absent.
* `Compiler.mem_filters` — the filters of a request.
* `Paging.requestedOffset_congr`, `Compiler.order_congr`, `Compiler.filters_congr` — what the stages read.
* `Compiler.compile_congr` — requests that agree where the stages read are answered alike.
* `Compiler.ReadsOwn`, `Compiler.readsOwn` — only the parameters that a compiler owns matter, and of those
  only the scalar values.
* `Compiler.reserved_filters` — which paging and sort parameters are filters as well.
-/

namespace RequestQuery

namespace Params

/-- Whether two requests give the same values to some parameters. -/
def AgreeOn (names : List String) (p q : Params) : Prop :=
  ∀ name ∈ names, p.scalar? name = q.scalar? name

/-- The value of a parameter as filters see it: the empty text counts as absent. -/
def given? (params : Params) (name : String) : Option Scalar :=
  (params.scalar? name).filter fun value => !value.isEmptyText

theorem AgreeOn.mono {names more : List String} {p q : Params} (h : p.AgreeOn more q)
    (hsub : names ⊆ more) : p.AgreeOn names q :=
  fun name hname => h name (hsub hname)

theorem given?_congr {p q : Params} {name : String} (h : p.scalar? name = q.scalar? name) :
    p.given? name = q.given? name := by
  rw [given?, given?, h]

theorem scalar?_insert (params : Params) (name other : String) (value : Json) :
    (params.insert name value).scalar? other
      = if other = name then Scalar.ofJson? value else params.scalar? other := by
  rw [scalar?, get?, insert, SortedMap.get?_insert]
  split
  · rfl
  · rfl

/-- Setting a parameter leaves the others as they were. -/
theorem agreeOn_insert (params : Params) {name : String} {names : List String} (value : Json)
    (h : name ∉ names) : (params.insert name value).AgreeOn names params := by
  intro other hother
  have hne : other ≠ name := by
    rintro rfl
    exact h hother
  rw [scalar?_insert, if_neg hne]

end Params

/-! ### What the stages read -/

theorem presentFilter?_eq (aliases : Aliases) (params : Params) (name : String) :
    presentFilter? aliases params name
      = (params.given? name).map fun value => ⟨.ofName aliases name, value⟩ := by
  rw [presentFilter?, Params.given?]
  cases params.scalar? name with
  | none => rfl
  | some value =>
    show (if value.isEmptyText = true then none else _) = (Option.filter _ (some value)).map _
    rw [Option.filter_some]
    cases value.isEmptyText <;> rfl

namespace Paging

variable {config : PagingConfig} {p q : Params}

theorem unsignedParam?_congr {name : String} (h : p.scalar? name = q.scalar? name) :
    unsignedParam? p name = unsignedParam? q name := by
  rw [unsignedParam?, unsignedParam?, h]

theorem requestedPage_congr (h : p.AgreeOn config.controlParams q) :
    requestedPage p config = requestedPage q config := by
  have hpage : p.scalar? config.pageParam = q.scalar? config.pageParam :=
    h _ List.mem_cons_self
  rw [requestedPage, requestedPage, hpage]

theorem requestedPageSize_congr (h : p.AgreeOn config.controlParams q) :
    requestedPageSize p config = requestedPageSize q config := by
  have hsize : p.scalar? config.pageSizeParam = q.scalar? config.pageSizeParam :=
    h _ (List.mem_cons_of_mem _ List.mem_cons_self)
  rw [requestedPageSize, requestedPageSize, unsignedParam?_congr hsize]

/-- Paging reads its control parameters. -/
theorem requestedOffset_congr (h : p.AgreeOn config.controlParams q) :
    requestedOffset p config = requestedOffset q config := by
  rw [requestedOffset, requestedOffset]
  cases hparam : config.offsetParam with
  | none => rw [requestedPage_congr h, requestedPageSize_congr h]
  | some name =>
    have hmem : name ∈ config.controlParams := by
      rw [PagingConfig.controlParams, hparam]
      simp
    exact congrArg (fun n => Except.ok (n.getD 0)) (unsignedParam?_congr (h name hmem))

end Paging

namespace Compiler

variable {ω : Type} {c : Compiler ω} {p q : Params}

theorem agreeOn_controlParams (h : p.AgreeOn c.options.reservedParams q) :
    p.AgreeOn c.options.paging.controlParams q :=
  h.mono (List.subset_append_left _ _)

/-- Sorting reads the sort parameter. -/
theorem order_congr (h : p.AgreeOn c.options.reservedParams q) : c.order p = c.order q := by
  have horder : p.scalar? c.options.orderParam = q.scalar? c.options.orderParam :=
    h _ (List.mem_append_right _ (List.mem_singleton_self _))
  rw [order, order, horder]

variable [OperatorLike ω]

/-- The filters of a request have names of the whitelist and the values that are given for these. -/
theorem mem_filters {f : Filter} :
    f ∈ c.filters p ↔
      ∃ name ∈ c.whitelist, p.given? name = some f.value ∧ f.spec = .ofName c.options.aliases name := by
  obtain ⟨spec, value⟩ := f
  rw [filters, presentFilters, List.mem_filterMap]
  refine exists_congr fun name => and_congr_right fun _ => ?_
  rw [presentFilter?_eq, Option.map_eq_some_iff]
  simp [eq_comm]

/-- Filters read the parameters of the whitelist. -/
theorem filters_congr (h : ∀ name ∈ c.whitelist, p.given? name = q.given? name) :
    c.filters p = c.filters q := by
  refine List.filterMap_congr fun name hname => ?_
  rw [presentFilter?_eq, presentFilter?_eq, h name hname]

/-- **Requests that agree where the stages read are answered alike**, with the same query or the same
error. -/
theorem compile_congr (hreserved : p.AgreeOn c.options.reservedParams q)
    (hgiven : ∀ name ∈ c.whitelist, p.given? name = q.given? name) : c.compile p = c.compile q := by
  have hcontrol := agreeOn_controlParams hreserved
  rw [compile_eq, compile_eq, Paging.requestedOffset_congr hcontrol,
    Paging.requestedPageSize_congr hcontrol, order_congr hreserved, filters_congr hgiven]

/-! ### The parameters that a compiler owns -/

/-- The parameters that a compiler reads: the filters, and those for paging and order. -/
def ownedParams (c : Compiler ω) : List String :=
  c.whitelist ++ c.options.reservedParams

/-- A compiler that reads nothing but the scalar values of the parameters it owns. -/
structure ReadsOwn (c : Compiler ω) : Prop where
  /-- Where those agree, the answers are the same, be it a query or an error. -/
  owned : ∀ p q : Params, p.AgreeOn c.ownedParams q → c.compile p = c.compile q
  /-- Other parameters do not matter. -/
  unlisted : ∀ (p : Params) name value, name ∉ c.ownedParams →
    c.compile (p.insert name value) = c.compile p
  /-- Nulls, lists and objects count as absent. -/
  nonScalar : ∀ (p : Params) name value, Scalar.ofJson? value = none → p.scalar? name = none →
    c.compile (p.insert name value) = c.compile p
  /-- So does the empty text, unless the parameter is for paging or order. -/
  emptyText : ∀ (p : Params) name, name ∉ c.options.reservedParams → p.scalar? name = none →
    c.compile (p.insert name (.string "")) = c.compile p
  /-- Offset, limit and order depend on the parameters for paging and order only. -/
  paging : ∀ (p q : Params) d e, p.AgreeOn c.options.reservedParams q → c.compile p = .ok d →
    c.compile q = .ok e → d.offset = e.offset ∧ d.limit = e.limit ∧ d.order = e.order

theorem compile_congr_owned (h : p.AgreeOn c.ownedParams q) : c.compile p = c.compile q :=
  compile_congr (h.mono (List.subset_append_right _ _)) fun name hname =>
    Params.given?_congr (h name (List.mem_append_left _ hname))

/-- A value that filters do not see is as good as none. -/
theorem compile_insert_of_given? {name : String} {value : Json}
    (hreserved : (p.insert name value).AgreeOn c.options.reservedParams p)
    (hvalue : (Scalar.ofJson? value).filter (fun s => !s.isEmptyText) = none)
    (hnone : p.scalar? name = none) : c.compile (p.insert name value) = c.compile p := by
  refine compile_congr hreserved fun other _ => ?_
  rw [Params.given?, Params.given?, Params.scalar?_insert]
  by_cases hother : other = name
  · rw [if_pos hother, hvalue, hother, hnone]
    rfl
  · rw [if_neg hother]

/-- **A compiler reads nothing but the scalar values of the parameters it owns.** -/
theorem readsOwn (c : Compiler ω) : c.ReadsOwn where
  owned _ _ h := compile_congr_owned h
  unlisted p _ value h := compile_congr_owned (p.agreeOn_insert value h)
  nonScalar := by
    intro p name value hvalue hnone
    refine compile_insert_of_given? (fun other _ => ?_) (by rw [hvalue]; rfl) hnone
    rw [Params.scalar?_insert]
    split
    · rename_i hother
      rw [hvalue, hother, hnone]
    · rfl
  emptyText p _ hname hnone := compile_insert_of_given? (p.agreeOn_insert _ hname) rfl hnone
  paging := by
    intro p q d e h hd he
    have hd := compile_ok.1 hd
    have he := compile_ok.1 he
    have hcontrol := agreeOn_controlParams h
    refine ⟨?_, ?_, ?_⟩
    · have hoffset := hd.offset
      rw [Paging.requestedOffset_congr hcontrol, he.offset] at hoffset
      exact (Except.ok.inj hoffset).symm
    · rw [hd.limit, he.limit, Paging.requestedPageSize_congr hcontrol]
    · rw [hd.order, he.order, order_congr h]

/-- Posts by status and title, sorted by title. -/
def posts : Compiler :=
  .ofOptions { CompilerOptions.default with
    allowedFilters := ["status", "title"], allowedOrder := ["title"] }

/-- A parameter that is not listed, a list of values and an empty text do not matter to posts. -/
theorem readsOwn_posts :
    posts.compile (.ofList [("status", .string ""), ("title", .array [.string "a"]),
        ("secret", .string "1"), ("page", .integer 2)])
      = posts.compile (.ofList [("page", .integer 2)]) := by
  have hsecret := posts.readsOwn.unlisted (.ofList [("page", .integer 2)]) "secret" (.string "1")
    (by decide)
  have htitle := posts.readsOwn.nonScalar
    (.ofList [("page", .integer 2), ("secret", .string "1")]) "title" (.array [.string "a"]) rfl rfl
  have hstatus := posts.readsOwn.emptyText
    (.ofList [("page", .integer 2), ("secret", .string "1"), ("title", .array [.string "a"])]) "status"
    (by decide) rfl
  exact hstatus.trans (htitle.trans hsecret)

/-! ### Reserved parameters that are filters -/

/-- **A parameter for paging or order is a filter just if an operator brings it along.** Other reserved
parameters do not change conditions and joins. -/
theorem reserved_filters (c : Compiler ω) :
    (∀ name ∈ c.options.reservedParams,
      name ∈ c.whitelist ↔ name ∈ c.operators.extraFields c.options.allowedFilters) ∧
    ∀ (p q : Params) d e,
      (∀ name, name ∉ c.options.reservedParams ∨
          name ∈ c.operators.extraFields c.options.allowedFilters →
        p.scalar? name = q.scalar? name) →
      c.compile p = .ok d → c.compile q = .ok e → d.filter = e.filter ∧ d.joins = e.joins := by
  constructor
  · intro name hname
    rw [mem_whitelist]
    constructor
    · rintro (⟨-, hnot⟩ | hextra)
      · exact absurd hname hnot
      · exact hextra
    · exact .inr
  · intro p q d e h hd he
    have hd := compile_ok.1 hd
    have he := compile_ok.1 he
    have hfilters : c.filters p = c.filters q := by
      refine filters_congr fun name hname => Params.given?_congr (h name ?_)
      exact ((mem_whitelist c name).1 hname).imp And.right id
    have hfilter := hd.filter
    have hjoins := hd.joins
    rw [hfilters, he.filter] at hfilter
    rw [hfilters, he.joins] at hjoins
    exact ⟨(Except.ok.inj hfilter).symm, (Except.ok.inj hjoins).symm⟩

/-- A request for live posts. -/
def live : Params :=
  .ofList [("status", .string "live")]

/-- Another page of live posts starts elsewhere, under the same conditions. -/
theorem reserved_filters_live :
    ∃ d e, posts.compile (live.insert "page" (.integer 1)) = .ok d ∧
      posts.compile (live.insert "page" (.integer 2)) = .ok e ∧
        d.offset ≠ e.offset ∧ d.filter = e.filter ∧ d.joins = e.joins := by
  have hagree : ∀ name, name ∉ posts.options.reservedParams ∨
      name ∈ posts.operators.extraFields posts.options.allowedFilters →
      (live.insert "page" (.integer 1)).scalar? name
        = (live.insert "page" (.integer 2)).scalar? name := by
    intro name hname
    have hpage : name ≠ "page" := by
      rintro rfl
      revert hname
      decide
    rw [Params.scalar?_insert, Params.scalar?_insert, if_neg hpage, if_neg hpage]
  exact ⟨_, _, rfl, rfl, by decide, posts.reserved_filters.2 _ _ _ _ hagree rfl rfl⟩

/-- Texts that contain the value of `page`. -/
def pageSearch : Compiler :=
  (Compiler.ofOptions .default).withSearchable ["page"] []

/-- An operator for the page parameter makes it a filter, though it is reserved: another page has other
conditions. -/
theorem reserved_filters_pageSearch :
    "page" ∈ pageSearch.options.reservedParams ∧ "page" ∈ pageSearch.whitelist ∧
      ∃ d e, pageSearch.compile (.ofList [("page", .string "1")]) = .ok d ∧
        pageSearch.compile (.ofList [("page", .string "2")]) = .ok e ∧ d.filter ≠ e.filter :=
  ⟨by decide, by decide, _, _, rfl, rfl, by decide⟩

end Compiler

end RequestQuery
