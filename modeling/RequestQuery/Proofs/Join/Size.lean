import RequestQuery.Proofs.Join.NormalForm

/-!
# Merging ends, and adds no join

Merging puts the joins from equal joins into one list before it goes on below them. So it may go on with
longer lists than the ones it was given; but they have fewer levels.

* `Merges`, `MergesEach` — what merging gives, told without a bound on the levels.
* `merges_iff` — merging ends for every list, with one result.
* `depthAll_merge` — merging keeps the number of levels.
* `size`, `sizeAll` — the number of joins at all levels.
* `sizeAll_collapse` — collapsing takes one join away for each repetition of a key.
* `sizeAll_merge_le`, `sizeAll_merge_eq_iff` — merging adds no join, and takes none away just if keys are
  distinct already.
* `merge_ends` — all this together.
-/

namespace RequestQuery.Join

/-! ### Merging without a bound on the levels -/

mutual

/-- What merging a list gives: it is collapsed, and merging goes on below each join that is left. Only what
is reached after finitely many steps counts. -/
inductive Merges : List Join → List Join → Prop
  | intro {joins merged : List Join} (each : MergesEach (collapse joins) merged) : Merges joins merged

/-- What merging below each join of a list gives. -/
inductive MergesEach : List Join → List Join → Prop
  | nil : MergesEach [] []
  | cons {j : Join} {js below merged : List Join} (first : Merges j.joins below)
    (rest : MergesEach js merged) : MergesEach (j :: js) ({ j with joins := below } :: merged)

end

theorem mergesEach_settle {joins : List Join} (h : ∀ j ∈ joins, Merges j.joins (merge j.joins)) :
    MergesEach joins (joins.map settle) := by
  induction joins with
  | nil => exact .nil
  | cons j js ih =>
    obtain ⟨hj, hjs⟩ := List.forall_mem_cons.1 h
    exact .cons hj (ih hjs)

/-- Merging ends. -/
theorem merges_merge (joins : List Join) : Merges joins (merge joins) := by
  induction joins using levels_induction with
  | step joins ih =>
    rw [merge_eq]
    exact .intro (mergesEach_settle fun j hj => ih j.joins (depthAll_joins_collapse_lt hj))

theorem MergesEach.eq_settle {joins merged : List Join}
    (h : ∀ j ∈ joins, ∀ below, Merges j.joins below → below = merge j.joins)
    (hmerged : MergesEach joins merged) : merged = joins.map settle := by
  induction joins generalizing merged with
  | nil =>
    cases hmerged
    rfl
  | cons j js ih =>
    obtain ⟨hj, hjs⟩ := List.forall_mem_cons.1 h
    cases hmerged with
    | cons first rest =>
      rw [hj _ first, ih hjs rest]
      rfl

/-- **Merging ends for every list, with one result.** -/
theorem merges_iff {joins merged : List Join} : Merges joins merged ↔ merged = merge joins := by
  constructor
  · intro h
    induction joins using levels_induction generalizing merged with
    | step joins ih =>
      obtain ⟨each⟩ := h
      rw [merge_eq]
      exact each.eq_settle fun j hj below hbelow => ih j.joins (depthAll_joins_collapse_lt hj) hbelow
  · intro h
    rw [h]
    exact merges_merge joins

/-! ### Levels -/

theorem depthAll_map_settle {joins : List Join}
    (h : ∀ j ∈ joins, depthAll (merge j.joins) = depthAll j.joins) :
    depthAll (joins.map settle) = depthAll joins := by
  induction joins with
  | nil => rfl
  | cons j js ih =>
    obtain ⟨hj, hjs⟩ := List.forall_mem_cons.1 h
    have hdepth : j.settle.depth = j.depth := by
      rw [depth_eq, depth_eq, settle, hj]
    rw [List.map_cons, depthAll, depthAll, hdepth, ih hjs]

/-- Merging keeps the number of levels. -/
theorem depthAll_merge (joins : List Join) : depthAll (merge joins) = depthAll joins := by
  induction joins using levels_induction with
  | step joins ih =>
    rw [merge_eq, ← depthAll_collapse joins]
    exact depthAll_map_settle fun j hj => ih j.joins (depthAll_joins_collapse_lt hj)

/-! ### Number of joins -/

mutual

/-- The number of joins from a join on, at all levels, itself included. -/
def size : Join → Nat
  | ⟨_, _, _, _, _, joins⟩ => sizeAll joins + 1

/-- The number of joins in a list, at all levels. -/
def sizeAll : List Join → Nat
  | [] => 0
  | j :: js => j.size + sizeAll js

end

theorem size_eq (j : Join) : j.size = sizeAll j.joins + 1 := by
  obtain ⟨a, m, n, r, f, js⟩ := j
  rw [size]

theorem sizeAll_append (as bs : List Join) : sizeAll (as ++ bs) = sizeAll as + sizeAll bs := by
  induction as with
  | nil => rw [List.nil_append, sizeAll, Nat.zero_add]
  | cons a as ih => rw [List.cons_append, sizeAll, sizeAll, ih, Nat.add_assoc]

/-- Of two joins that are made one, the joins below are all kept. -/
theorem size_absorb (j other : Join) : (j.absorb other).size + 1 = j.size + other.size := by
  rw [size_eq, size_eq, size_eq, joins_absorb, sizeAll_append]
  omega

/-- Placing a join loses one if it does not make the list longer. -/
theorem sizeAll_place (other : Join) (joins : List Join) :
    sizeAll (place other joins) + joins.length + 1
      = sizeAll joins + other.size + (place other joins).length := by
  induction joins with
  | nil =>
    simp only [place, sizeAll, List.length_nil, List.length_singleton]
    omega
  | cons j js ih =>
    rw [place]
    split
    · have habsorb := size_absorb j other
      simp only [sizeAll, List.length_cons]
      omega
    · simp only [sizeAll, List.length_cons]
      omega

/-- **Collapsing takes one join away for each repetition of a key.** -/
theorem sizeAll_collapse (joins : List Join) :
    sizeAll (collapse joins) + joins.length = sizeAll joins + (collapse joins).length := by
  induction joins using List.reverseRecOn with
  | nil => rfl
  | append_singleton joins j ih =>
    have hplace := sizeAll_place j (collapse joins)
    have hsingle : sizeAll [j] = j.size := by rw [sizeAll, sizeAll, Nat.add_zero]
    rw [collapse_concat, sizeAll_append, List.length_append, List.length_singleton, hsingle]
    omega

theorem length_collapse (joins : List Join) :
    (collapse joins).length = (joins.map key).eraseDups.length := by
  rw [← map_key_collapse, List.length_map]

theorem sizeAll_collapse_le (joins : List Join) : sizeAll (collapse joins) ≤ sizeAll joins := by
  have hlength := (eraseDups_sublist (joins.map key)).length_le
  rw [← length_collapse, List.length_map] at hlength
  have hsize := sizeAll_collapse joins
  omega

/-- Where collapsing takes nothing away, keys are distinct. -/
theorem nodup_of_sizeAll_collapse {joins : List Join} (h : sizeAll (collapse joins) = sizeAll joins) :
    (joins.map key).Nodup := by
  have hsize := sizeAll_collapse joins
  refine nodup_of_length_eraseDups ?_
  rw [← length_collapse, List.length_map]
  omega

/-- If merging adds no join below the joins of a list, it adds none to the list; and if the list then loses
none, neither do the lists below. -/
theorem sizeAll_map_settle {joins : List Join}
    (h : ∀ j ∈ joins, sizeAll (merge j.joins) ≤ sizeAll j.joins) :
    sizeAll (joins.map settle) ≤ sizeAll joins ∧
      (sizeAll (joins.map settle) = sizeAll joins →
        ∀ j ∈ joins, sizeAll (merge j.joins) = sizeAll j.joins) := by
  induction joins with
  | nil => exact ⟨Nat.le_refl _, nofun⟩
  | cons j js ih =>
    obtain ⟨hj, hjs⟩ := List.forall_mem_cons.1 h
    obtain ⟨hle, heq⟩ := ih hjs
    have hsettle : j.settle.size = sizeAll (merge j.joins) + 1 := size_eq j.settle
    have hsize := size_eq j
    rw [List.map_cons, sizeAll, sizeAll]
    refine ⟨by omega, fun hsame => List.forall_mem_cons.2 ⟨by omega, heq (by omega)⟩⟩

theorem sizeAll_merge_le (joins : List Join) : sizeAll (merge joins) ≤ sizeAll joins := by
  induction joins using levels_induction with
  | step joins ih =>
    have hbelow := sizeAll_map_settle fun j hj => ih j.joins (depthAll_joins_collapse_lt hj)
    rw [merge_eq]
    exact Nat.le_trans hbelow.1 (sizeAll_collapse_le joins)

/-- Merging takes no join away just if siblings have distinct keys at every level. -/
theorem sizeAll_merge_eq_iff (joins : List Join) :
    sizeAll (merge joins) = sizeAll joins ↔ UniqueKeys joins := by
  constructor
  · intro h
    induction joins using levels_induction with
    | step joins ih =>
      obtain ⟨hle, hbelow⟩ := sizeAll_map_settle fun j (_ : j ∈ collapse joins) => sizeAll_merge_le j.joins
      have hcollapse := sizeAll_collapse_le joins
      rw [merge_eq] at h
      -- neither collapsing nor merging below may lose a join
      have hnodup : (joins.map key).Nodup := nodup_of_sizeAll_collapse (by omega)
      rw [collapse_of_nodup hnodup] at h hbelow
      exact .intro hnodup fun j hj => ih j.joins (depthAll_joins_lt hj) (hbelow h j hj)
  · intro h
    rw [merge_of_uniqueKeys h]

/-- **Merging ends, keeps the levels and adds no join.** Every list that it goes on with has fewer levels
than the one it was given, though it may be longer; so the recursion ends, and with just one result. This
has as many levels as the list, and fewer joins unless siblings have distinct keys at every level. -/
theorem merge_ends (joins : List Join) :
    (∀ j ∈ collapse joins, depthAll j.joins < depthAll joins) ∧
    (∀ merged, Merges joins merged ↔ merged = merge joins) ∧
    depthAll (merge joins) = depthAll joins ∧
    sizeAll (merge joins) ≤ sizeAll joins ∧
    (sizeAll (merge joins) = sizeAll joins ↔ UniqueKeys joins) :=
  ⟨fun _ => depthAll_joins_collapse_lt, fun _ => merges_iff, depthAll_merge joins, sizeAll_merge_le joins,
    sizeAll_merge_eq_iff joins⟩

/-- Merging the writers with themselves takes away every second join, also those that are siblings only once
the writers above them are made one. -/
theorem merge_ends_writers :
    (∀ j ∈ collapse (writerJoins ++ writerJoins), depthAll j.joins < 2) ∧
    Merges (writerJoins ++ writerJoins) writerJoins ∧
    sizeAll (writerJoins ++ writerJoins) = 6 ∧ sizeAll (merge (writerJoins ++ writerJoins)) = 3 ∧
    ¬ UniqueKeys (writerJoins ++ writerJoins) := by
  obtain ⟨hbelow, hmerges, -, -, hunique⟩ := merge_ends (writerJoins ++ writerJoins)
  have hsize : sizeAll (writerJoins ++ writerJoins) = 6 := rfl
  have hmerged : sizeAll (merge (writerJoins ++ writerJoins)) = 3 := rfl
  refine ⟨hbelow, (hmerges writerJoins).2 rfl, hsize, hmerged, fun h => ?_⟩
  have hsame := hunique.2 h
  rw [hsize, hmerged] at hsame
  cases hsame

end RequestQuery.Join
