import RequestQuery.Proofs.Join.Collapse

/-!
# Merging in batches

* `merge_append_merge` — two lists of joins may be merged before they are merged together.
* `merge_merge` — a merged list stays as it is.
* `Batches` — a bracketing of lists of joins; `Batches.merged` merges at every bracket.
* `merge_batches` — every bracketing gives what merging all joins at once gives.
-/

namespace RequestQuery.Join

/-! ### Two batches -/

/-- What is gathered for a key stands in the collapsed list. -/
theorem gather_mem_collapse {joins : List Join} {k : Key} {first : Join} {later : List Join}
    (h : withKey joins k = first :: later) : gather first later ∈ collapse joins := by
  have hfuse : withKey (collapse joins) k = [gather first later] := by
    rw [withKey_collapse, h, fuse]
  exact (mem_withKey.1 (hfuse ▸ List.mem_singleton_self _)).1

/-- The joins from what is gathered for a key have fewer levels. -/
theorem depthAll_joins_gather_lt {joins : List Join} {k : Key} {first : Join} {later : List Join}
    (h : withKey joins k = first :: later) :
    depthAll (gather first later).joins < depthAll joins :=
  depthAll_joins_collapse_lt (gather_mem_collapse h)

/-- Two lists of equal joins are gathered one by one or together. -/
theorem fuse_append_of_cons (a b : Join) (as bs : List Join) :
    fuse (a :: as ++ b :: bs) = [(gather a as).absorb (gather b bs)] := by
  have hgather : gather a (as ++ b :: bs) = (gather a as).absorb (gather b bs) := by
    rw [gather_append, absorb_gather]
    rfl
  rw [List.cons_append, fuse, hgather]

/-- Two joins of one key may be merged below before they are taken together. -/
theorem settle_absorb_settle {i j : Join}
    (h : merge (merge i.joins ++ merge j.joins) = merge (i.joins ++ j.joins)) :
    (i.settle.absorb j.settle).settle = (i.absorb j).settle :=
  eq_of_parts rfl rfl rfl h

theorem settle_settle {j : Join} (h : merge (merge j.joins) = merge j.joins) :
    j.settle.settle = j.settle :=
  eq_of_parts rfl rfl rfl h

/-- **Two lists may be merged before they are merged together.** -/
theorem merge_append_merge (as bs : List Join) :
    merge (merge as ++ merge bs) = merge (as ++ bs) := by
  generalize hjoins : as ++ bs = joins
  induction joins using levels_induction generalizing as bs with
  | step joins ih =>
    subst hjoins
    -- the joins below one key have fewer levels, alone and together
    have hone : ∀ j : Join, depthAll j.joins < depthAll (as ++ bs) →
        merge (merge j.joins) = merge j.joins := by
      intro j hj
      have := ih j.joins hj j.joins [] (List.append_nil _)
      rwa [show merge [] = [] from rfl, List.append_nil] at this
    refine merge_eq_of_withKey ?_ fun k => ?_
    · rw [map_key_merge, List.map_append, List.map_append, map_key_merge, map_key_merge,
        eraseDups_append_eraseDups]
    · rw [withKey_merge, withKey_append, withKey_append, withKey_merge, withKey_merge]
      cases ha : withKey as k with
      | nil =>
        cases hb : withKey bs k with
        | nil => rfl
        | cons b bs' =>
          have hlt := depthAll_joins_gather_lt hb
          have hsettle := settle_settle (hone (gather b bs') (by rw [depthAll_append]; omega))
          exact congrArg (fun j => [j]) hsettle
      | cons a as' =>
        have hlta := depthAll_joins_gather_lt ha
        cases hb : withKey bs k with
        | nil =>
          have hsettle := settle_settle (hone (gather a as') (by rw [depthAll_append]; omega))
          rw [List.append_nil]
          exact congrArg (fun j => [j]) hsettle
        | cons b bs' =>
          have hltb := depthAll_joins_gather_lt hb
          have hboth := ih ((gather a as').joins ++ (gather b bs').joins)
            (by rw [depthAll_append, depthAll_append]; omega) _ _ rfl
          rw [fuse_append_of_cons]
          exact congrArg (fun j => [j]) (settle_absorb_settle hboth)

theorem merge_merge (joins : List Join) : merge (merge joins) = merge joins := by
  have h := merge_append_merge joins []
  rwa [show merge [] = [] from rfl, List.append_nil, List.append_nil] at h

/-! ### Any bracketing -/

/-- Lists of joins in brackets. -/
inductive Batches where
  | batch (joins : List Join)
  | both (left right : Batches)

/-- All joins, from left to right. -/
def Batches.all : Batches → List Join
  | .batch joins => joins
  | .both left right => left.all ++ right.all

/-- The joins, merged at every bracket. -/
def Batches.merged : Batches → List Join
  | .batch joins => merge joins
  | .both left right => merge (left.merged ++ right.merged)

theorem Batches.merged_eq (b : Batches) : b.merged = merge b.all := by
  induction b with
  | batch joins => rfl
  | both left right ihl ihr =>
    rw [merged, ihl, ihr, all, merge_append_merge]

/-- **Joins can be merged batch by batch.** Merging two merged lists gives what merging both lists at
once gives, a merged list stays as it is, and the same holds of any bracketing. -/
theorem merge_batches :
    (∀ as bs : List Join, merge (merge as ++ merge bs) = merge (as ++ bs)) ∧
    (∀ joins : List Join, merge (merge joins) = merge joins) ∧
    (∀ b : Batches, b.merged = merge b.all) :=
  ⟨merge_append_merge, merge_merge, Batches.merged_eq⟩

end RequestQuery.Join
