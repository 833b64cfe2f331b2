import RequestQuery.Paging.Config
import RequestQuery.Proofs.Document.Record

/-!
# Reading back a paging configuration that was written

* `Document.unsigned_toNat`, `Document.string?_toDocument` — single values that were written.
* `PagingConfig.limitToJson`, `PagingConfig.limitOfDocument_toDocument` — a range of page sizes.
* `PagingConfig.members`, `PagingConfig.pairwise_members` — what is written about a configuration, each
  member apart from the others.
* `PagingConfig.ofDocument_written` — a configuration with a range of page sizes is read back just as it was,
  whatever the order of its members. One without a range is written as `null`, which is no way to say so
  (`PagingConfig.ofDocument_withoutRange`).
-/

namespace RequestQuery

/-! ### Single values -/

theorem Document.unsigned_toNat (n : UInt64) : (Document.integer n.toNat).unsigned = .ok n := by
  have hlt : (n.toNat : Int) < UInt64.size := Int.ofNat_lt.2 n.toNat_lt
  have hle : (0 : Int) ≤ n.toNat := Int.natCast_nonneg _
  rw [Document.unsigned, if_pos ⟨hle, hlt⟩]
  simp

theorem Document.string?_toDocument (s : Option String) :
    ((s.map Json.string).getD .null).toDocument.string? = .ok s := by
  cases s with
  | none => rfl
  | some s => rfl

namespace PagingConfig

open Document

/-- A range of page sizes as a JSON value. -/
def limitToJson : Option SizeRange → Json
  | some range => .array [.integer range.min.toNat, .integer range.max.toNat]
  | none => .null

/-- A range is read back if its ends are the right way round; that there is none is not. -/
theorem limitOfDocument_toDocument (limit : Option SizeRange) :
    limitOfDocument (limitToJson limit).toDocument = match limit with
      | some range =>
        if range.min ≤ range.max then .ok (some range) else .error (.invertedRange range.min range.max)
      | none => .error .malformed := by
  cases limit with
  | none => rfl
  | some range =>
    simp only [limitToJson, Json.toDocument, Json.toDocuments, limitOfDocument, unsigned_toNat]
    rfl

/-! ### The members -/

/-- The members of a configuration that is written. -/
def members (config : PagingConfig) : List (String × Json) :=
  [ ("default_page_size", .integer config.defaultPageSize.toNat),
    ("page_param", .string config.pageParam),
    ("page_size_param", .string config.pageSizeParam),
    ("offset_param", (config.offsetParam.map .string).getD .null),
    ("page_size_limit", limitToJson config.pageSizeLimit) ]

theorem toJson_eq (config : PagingConfig) : config.toJson = .object config.members := by
  obtain ⟨size, page, pageSize, offset, limit⟩ := config
  cases limit with
  | none => rfl
  | some range => rfl

/-- What is written about a configuration, as a document. -/
theorem toTable_members (config : PagingConfig) :
    Json.toTable config.members =
      [ ("default_page_size", .integer config.defaultPageSize.toNat),
        ("page_param", .text config.pageParam),
        ("page_size_param", .text config.pageSizeParam),
        ("offset_param", ((config.offsetParam.map Json.string).getD .null).toDocument),
        ("page_size_limit", (limitToJson config.pageSizeLimit).toDocument) ] :=
  rfl

theorem put_defaultPageSize (n : UInt64) (c : PagingConfig) :
    putMember fields c ("default_page_size", .integer n.toNat)
      = .ok { c with defaultPageSize := n } := by
  have hput : ∀ d, putMember fields c ("default_page_size", d)
      = d.unsigned >>= fun n => .ok { c with defaultPageSize := n } := fun _ => rfl
  rw [hput, unsigned_toNat]
  rfl

theorem put_pageParam (name : String) (c : PagingConfig) :
    putMember fields c ("page_param", .text name) = .ok { c with pageParam := name } := by
  rw [putMember]
  rfl

theorem put_pageSizeParam (name : String) (c : PagingConfig) :
    putMember fields c ("page_size_param", .text name) = .ok { c with pageSizeParam := name } := by
  rw [putMember]
  rfl

theorem put_offsetParam (name : Option String) (c : PagingConfig) :
    putMember fields c ("offset_param", ((name.map Json.string).getD .null).toDocument)
      = .ok { c with offsetParam := name } := by
  have hput : ∀ d, putMember fields c ("offset_param", d)
      = d.string? >>= fun name => .ok { c with offsetParam := name } := fun _ => rfl
  rw [hput, string?_toDocument]
  rfl

theorem put_pageSizeLimit (d : Document) (c : PagingConfig) :
    putMember fields c ("page_size_limit", d)
      = limitOfDocument d >>= fun limit => .ok { c with pageSizeLimit := limit } := by
  rw [putMember]
  rfl

/-- Each member says something of its own, and only the range of page sizes can be faulty. -/
theorem pairwise_members (config : PagingConfig) :
    (Json.toTable config.members).Pairwise (StepsCommute (putMember fields)) := by
  rw [toTable_members]
  simp only [List.pairwise_cons, List.forall_mem_cons, List.not_mem_nil, false_implies,
    implies_true, List.Pairwise.nil, and_true]
  simp only [StepsCommute, put_defaultPageSize, put_pageParam, put_pageSizeParam, put_offsetParam,
    put_pageSizeLimit, bind_assoc, ok_bind, implies_true, and_self]

/-- Read in the order in which they are written, the members give the configuration. -/
theorem foldlM_members (config start : PagingConfig) :
    (Json.toTable config.members).foldlM (putMember fields) start
      = limitOfDocument (limitToJson config.pageSizeLimit).toDocument >>= fun limit =>
        .ok { config with pageSizeLimit := limit } := by
  rw [toTable_members]
  simp only [List.foldlM_cons, List.foldlM_nil, put_defaultPageSize, put_pageParam,
    put_pageSizeParam, put_offsetParam, put_pageSizeLimit, bind_assoc, ok_bind]
  rfl

/-! ### Reading back -/

theorem toTable_eq (ms : List (String × Json)) :
    Json.toTable ms = ms.map fun m => (m.1, m.2.toDocument) := by
  induction ms with
  | nil => rfl
  | cons m ms ih =>
    show (m.1, m.2.toDocument) :: Json.toTable ms = _
    rw [ih]
    rfl

/-- In whatever order they stand, the members give the configuration. -/
theorem ofDocument_object (config : PagingConfig) {written : List (String × Json)}
    (h : written.Perm config.members) :
    ofDocument (Json.object written).toDocument
      = limitOfDocument (limitToJson config.pageSizeLimit).toDocument >>= fun limit =>
        .ok { config with pageSizeLimit := limit } := by
  have hperm : (Json.toTable written).Perm (Json.toTable config.members) := by
    rw [toTable_eq, toTable_eq]
    exact h.map _
  have hknown : ∀ m ∈ Json.toTable config.members,
      (fields.find? fun f => f.key == m.1).isSome := by
    rw [toTable_members]
    simp only [List.forall_mem_cons, List.not_mem_nil, false_implies, implies_true, and_true]
    decide
  have hnodup : ((Json.toTable config.members).map Prod.fst).Nodup := by
    show ["default_page_size", "page_param", "page_size_param", "offset_param",
      "page_size_limit"].Nodup
    decide
  show record fields false default (.table (Json.toTable written)) = _
  rw [record_perm hperm hknown hnodup (pairwise_members config), foldlM_members]

/-- **A configuration that was written is read back**, whatever the order of its members: just as it was if
its range of page sizes is the right way round. The only faults are a range that is not, and that there
is no range. -/
theorem ofDocument_written (config : PagingConfig) (written : List (String × Json))
    (h : written.Perm config.members) :
    config.toJson = .object config.members ∧
    ofDocument (Json.object written).toDocument = match config.pageSizeLimit with
      | some range =>
        if range.min ≤ range.max then .ok config else .error (.invertedRange range.min range.max)
      | none => .error .malformed := by
  refine ⟨toJson_eq config, ?_⟩
  rw [ofDocument_object config h, limitOfDocument_toDocument]
  obtain ⟨size, page, pageSize, offset, limit⟩ := config
  cases limit with
  | none => rfl
  | some range =>
    dsimp only
    split
    · rfl
    · rfl

/-- Pages of 5 to 50 rows, and an offset parameter. -/
def skipping : PagingConfig :=
  { default with offsetParam := some "skip", pageSizeLimit := some ⟨5, 50⟩ }

theorem ofDocument_written_skipping :
    skipping.members.reverse.Perm skipping.members ∧
    ofDocument skipping.toJson.toDocument = .ok skipping ∧
    ofDocument (Json.object skipping.members.reverse).toDocument = .ok skipping := by
  have hforward := ofDocument_written skipping skipping.members (.refl _)
  have hbackward := ofDocument_written skipping _ (List.reverse_perm skipping.members)
  have hrange : (5 : UInt64) ≤ 50 := by decide
  refine ⟨List.reverse_perm _, ?_, hbackward.2.trans (if_pos hrange)⟩
  rw [hforward.1]
  exact hforward.2.trans (if_pos hrange)

/-- Pages of any size. -/
def withoutRange : PagingConfig :=
  { default with pageSizeLimit := none }

/-- That there is no range is read from `false`, but written as `null`. -/
theorem ofDocument_withoutRange :
    ofDocument (.table [("page_size_limit", .bool false)]) = .ok withoutRange ∧
    withoutRange.pageSizeLimit = none ∧
    ofDocument withoutRange.toJson.toDocument = .error .malformed := by
  refine ⟨rfl, rfl, ?_⟩
  rw [toJson_eq, ofDocument_object withoutRange (.refl _), limitOfDocument_toDocument]
  rfl

end PagingConfig

end RequestQuery
