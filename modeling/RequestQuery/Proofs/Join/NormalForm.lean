import RequestQuery.Proofs.Join.Collapse

/-!
# Merged joins are a normal form

* `Join.hasNaN` — whether a NaN occurs in the conditions of a join or below it.
* `Join.beq_self` — joins without NaN equal themselves.
* `UniqueKeys` — at every level, siblings have distinct keys.
* `merge_normal_form` — merging gives such a list, changes no other one, and merging it with itself
  gives it back.

A NaN equals nothing, so a group that compares with one would be added a second time.
-/

namespace RequestQuery.Join

/-! ### Joins without NaN -/

mutual

/-- Whether a NaN occurs in the conditions of a join or below it. -/
def hasNaN : Join → Bool
  | ⟨_, _, _, _, filter, joins⟩ => filter.any FilterTree.hasNaN || hasNaNAll joins

/-- Whether a NaN occurs in the conditions of several joins or below them. -/
def hasNaNAll : List Join → Bool
  | [] => false
  | j :: js => j.hasNaN || hasNaNAll js

end

theorem hasNaN_eq (j : Join) :
    j.hasNaN = (j.filter.any FilterTree.hasNaN || hasNaNAll j.joins) := by
  obtain ⟨a, m, n, r, f, js⟩ := j
  rw [hasNaN]

theorem hasNaN_of_mem {joins : List Join} (h : hasNaNAll joins = false) {j : Join} (hj : j ∈ joins) :
    j.hasNaN = false := by
  induction joins with
  | nil => cases hj
  | cons k ks ih =>
    obtain ⟨hk, hks⟩ := Bool.or_eq_false_iff.1 h
    rcases List.mem_cons.1 hj with rfl | hj
    · exact hk
    · exact ih hks hj

/-- Joins from a join without NaN have none. -/
theorem hasNaNAll_joins {joins : List Join} (h : hasNaNAll joins = false) {j : Join}
    (hj : j ∈ joins) : hasNaNAll j.joins = false := by
  have hj := hasNaN_of_mem h hj
  rw [hasNaN_eq] at hj
  exact (Bool.or_eq_false_iff.1 hj).2

/-- Conditions of a join without NaN have none. -/
theorem hasNaN_filter {joins : List Join} (h : hasNaNAll joins = false) {j : Join} (hj : j ∈ joins) :
    ∀ t ∈ j.filter, t.hasNaN = false := by
  intro t ht
  have hj := hasNaN_of_mem h hj
  rw [hasNaN_eq, ht] at hj
  exact (Bool.or_eq_false_iff.1 hj).1

/-! ### Equality of joins -/

theorem beqAll_eq (as bs : List Join) : beqAll as bs = (as == bs) := by
  induction as generalizing bs with
  | nil => cases bs <;> rfl
  | cons a as ih => cases bs with
    | nil => rfl
    | cons b bs =>
      rw [beqAll, ih, List.cons_beq_cons]
      rfl

theorem beq_iff (i j : Join) :
    (i == j) = true ↔ i.key = j.key ∧ i.isRequired = j.isRequired ∧ (i.filter == j.filter) = true ∧
      (i.joins == j.joins) = true := by
  obtain ⟨a, m, n, r, f, js⟩ := i
  obtain ⟨b, p, q, s, g, ks⟩ := j
  show beq _ _ = true ↔ _
  rw [beq, beqAll_eq]
  simp only [Bool.and_eq_true, beq_iff_eq, key, Key.mk.injEq, and_assoc]

/-- Joins without NaN equal themselves. -/
theorem beq_self {joins : List Join} (h : hasNaNAll joins = false) : (joins == joins) = true := by
  induction joins using levels_induction with
  | step joins ih =>
    refine list_beq_self fun j hj => (beq_iff j j).2 ⟨rfl, rfl, ?_, ?_⟩
    · cases hf : j.filter with
      | none => rfl
      | some t => exact FilterTree.beq_self (hasNaN_filter h hj t hf)
    · exact ih j.joins (depthAll_joins_lt hj) (hasNaNAll_joins h hj)

/-- Equal lists have equal joins in the same places. -/
theorem exists_beq_of_mem {as bs : List Join} (h : (as == bs) = true) {b : Join} (hb : b ∈ bs) :
    ∃ a ∈ as, (a == b) = true := by
  induction as generalizing bs with
  | nil => cases bs with
    | nil => cases hb
    | cons b bs => cases h
  | cons a as ih => cases bs with
    | nil => cases hb
    | cons c cs =>
      obtain ⟨hhead, htail⟩ := Bool.and_eq_true_iff.1 h
      rcases List.mem_cons.1 hb with rfl | hb
      · exact ⟨a, List.mem_cons_self, hhead⟩
      · obtain ⟨a', ha', heq⟩ := ih htail hb
        exact ⟨a', List.mem_cons_of_mem a ha', heq⟩

theorem map_key_of_beq {as bs : List Join} (h : (as == bs) = true) : as.map key = bs.map key := by
  induction as generalizing bs with
  | nil => cases bs with
    | nil => rfl
    | cons b bs => cases h
  | cons a as ih => cases bs with
    | nil => cases h
    | cons b bs =>
      obtain ⟨hhead, htail⟩ := Bool.and_eq_true_iff.1 h
      rw [List.map_cons, List.map_cons, ((beq_iff a b).1 hhead).1, ih htail]

/-! ### Distinct keys -/

/-- At every level, siblings have distinct keys. -/
inductive UniqueKeys : List Join → Prop
  | intro {joins : List Join} (nodup : (joins.map key).Nodup)
      (below : ∀ j ∈ joins, UniqueKeys j.joins) : UniqueKeys joins

/-- Equality does not look past keys, so lists equal to one with distinct keys have distinct keys. -/
theorem UniqueKeys.of_beq {as bs : List Join} (h : UniqueKeys as) (heq : (as == bs) = true) :
    UniqueKeys bs := by
  induction h generalizing bs with
  | intro nodup _ ih =>
    refine .intro ?_ fun b hb => ?_
    · rwa [← map_key_of_beq heq]
    · obtain ⟨a, ha, hab⟩ := exists_beq_of_mem heq hb
      exact ih a ha ((beq_iff a b).1 hab).2.2.2

theorem uniqueKeys_merge (joins : List Join) : UniqueKeys (merge joins) := by
  induction joins using levels_induction with
  | step joins ih =>
    refine .intro ?_ fun j hj => ?_
    · rw [map_key_merge]
      exact nodup_eraseDups _
    · rw [merge_eq] at hj
      obtain ⟨k, hk, rfl⟩ := List.mem_map.1 hj
      exact ih k.joins (depthAll_joins_collapse_lt hk)

/-- Among joins with distinct keys, at most one has a given key. -/
theorem withKey_of_nodup {joins : List Join} (h : (joins.map key).Nodup) (k : Key) :
    withKey joins k = [] ∨ ∃ j ∈ joins, withKey joins k = [j] := by
  induction joins with
  | nil => exact .inl rfl
  | cons j js ih =>
    obtain ⟨hnot, htail⟩ := List.nodup_cons.1 h
    rw [withKey_cons]
    by_cases hj : j.key = k
    · refine .inr ⟨j, List.mem_cons_self, ?_⟩
      rw [if_pos hj, withKey_eq_nil.2 (hj ▸ hnot)]
    · rw [if_neg hj]
      rcases ih htail with hnil | ⟨i, hi, hone⟩
      · exact .inl hnil
      · exact .inr ⟨i, List.mem_cons_of_mem j hi, hone⟩

/-- Where keys are distinct, nothing is collapsed. -/
theorem collapse_of_nodup {joins : List Join} (h : (joins.map key).Nodup) : collapse joins = joins := by
  have hkeys : (collapse joins).map key = joins.map key := by
    rw [map_key_collapse, eraseDups_eq_self h]
  refine ext_withKey hkeys (hkeys ▸ h) fun k => ?_
  rw [withKey_collapse]
  rcases withKey_of_nodup h k with hnil | ⟨j, -, hone⟩
  · rw [hnil]
    rfl
  · rw [hone]
    rfl

/-- Merging changes nothing where keys are distinct. -/
theorem merge_of_uniqueKeys {joins : List Join} (h : UniqueKeys joins) : merge joins = joins := by
  induction h with
  | @intro joins nodup _ ih =>
    have hsettle : ∀ j ∈ joins, j.settle = j := fun j hj => eq_of_parts rfl rfl rfl (ih j hj)
    rw [merge_eq, collapse_of_nodup nodup]
    exact (List.map_congr_left hsettle).trans (List.map_id joins)

/-- A join without NaN takes in nothing new from itself. -/
theorem settle_absorb_self {j : Join} (hfilter : ∀ t ∈ j.filter, t.hasNaN = false)
    (hjoins : merge (j.joins ++ j.joins) = j.joins) : (j.absorb j).settle = j := by
  refine eq_of_parts rfl ?_ ?_ hjoins
  · exact Bool.or_self j.isRequired
  · rw [filter_settle, filter_absorb]
    cases hf : j.filter with
    | none => rfl
    | some t => exact congrArg some (FilterTree.mergeMissing_self (hfilter t hf))

/-- Merging a list with itself gives it back. -/
theorem merge_append_self {joins : List Join} (h : UniqueKeys joins)
    (hnan : hasNaNAll joins = false) : merge (joins ++ joins) = joins := by
  induction h with
  | @intro joins nodup _ ih =>
    refine merge_eq_of_withKey ?_ fun k => ?_
    · rw [List.map_append, eraseDups_append_self nodup]
    · rw [withKey_append]
      rcases withKey_of_nodup nodup k with hnil | ⟨j, hj, hone⟩
      · rw [hnil]
        rfl
      · have hself := settle_absorb_self (hasNaN_filter hnan hj) (ih j hj (hasNaNAll_joins hnan hj))
        rw [hone]
        exact congrArg (fun j => [j]) hself

/-- **Merging gives a normal form.** For joins without NaN: in a merged list, siblings have distinct
keys at every level; merging gives back a list, up to equality of values or up to identity, just if its
keys are distinct already; and then merging it with itself gives it back as well. -/
theorem merge_normal_form (joins : List Join) (h : hasNaNAll joins = false) :
    UniqueKeys (merge joins) ∧
    ((merge joins == joins) = true ↔ UniqueKeys joins) ∧
    (merge joins = joins ↔ UniqueKeys joins) ∧
    (UniqueKeys joins → merge (joins ++ joins) = joins) := by
  refine ⟨uniqueKeys_merge joins, ⟨fun heq => ?_, fun hunique => ?_⟩,
    ⟨fun heq => ?_, merge_of_uniqueKeys⟩, fun hunique => merge_append_self hunique h⟩
  · exact (uniqueKeys_merge joins).of_beq heq
  · rw [merge_of_uniqueKeys hunique]
    exact beq_self h
  · exact heq ▸ uniqueKeys_merge joins

/-- Writers by their names, and by one group of alternatives twice; the firm of a writer may be missing. -/
def writerJoins : List Join :=
  [ ⟨"post.author", "user", "writer", true,
      some (.ofPredicates [.field ⟨"name", .equal, .value (.text "Ann")⟩,
        .anyOf [⟨"name", .like, .text "%x%"⟩], .anyOf [⟨"name", .like, .text "%x%"⟩]]),
      [⟨"user.company", "firm", "company", false, none, []⟩]⟩,
    ⟨"post.tags", "tag", "tags", true, none, []⟩ ]

theorem merge_normal_form_writers : hasNaNAll writerJoins = false ∧
    UniqueKeys (merge writerJoins) ∧ merge writerJoins = writerJoins ∧
      merge (writerJoins ++ writerJoins) = writerJoins := by
  have hnan : hasNaNAll writerJoins = false := by decide
  obtain ⟨hmerged, -, hfixed, htwice⟩ := merge_normal_form writerJoins hnan
  have hunique : UniqueKeys writerJoins := hfixed.1 rfl
  exact ⟨hnan, hmerged, rfl, htwice hunique⟩

end RequestQuery.Join
