import RequestQuery.Proofs.Join.Chains
import RequestQuery.Proofs.Vocabulary

/-!
# Where joins come from

* `RelationSource.Leads` — a path of names that leads through joins.
* `Join.StandsBelow` — the joins of a list at any level, each below a path of keys.
* `Join.exists_gather_of_mem_merge` — a join of a merged list is gathered from joins of its key.
* `Join.FromFilters`, `Join.ofFilters_fromFilters` — every join stands for an association along the path
  of a filter, and its conditions are about fields at the end of such paths.
-/

namespace RequestQuery

/-- Whether a path of names leads through joins. -/
def RelationSource.Leads (source : RelationSource) (root : String) (path : List String)
    (keys : List Join.Key) : Prop :=
  ∃ as, source.walk root path = .ok as ∧ as.map Association.key = keys

namespace Join

/-- The joins of a list at any level, each below the keys of the joins that it is reached through. -/
inductive StandsBelow (joins : List Join) : List Key → Join → Prop
  | top {j : Join} (h : j ∈ joins) : StandsBelow joins [] j
  | under {path : List Key} {i j : Join} (hi : StandsBelow joins path i) (hj : j ∈ i.joins) :
    StandsBelow joins (path ++ [i.key]) j

theorem StandsBelow.mem_siblingsAt {joins : List Join} {path : List Key} {j : Join}
    (h : StandsBelow joins path j) : j ∈ siblingsAt joins path := by
  induction h with
  | top h => exact h
  | under _ hj ih =>
    rw [siblingsAt_concat]
    exact List.mem_flatMap.2 ⟨_, mem_withKey.2 ⟨ih, rfl⟩, hj⟩

theorem not_standsBelow_nil {path : List Key} {j : Join} : ¬ StandsBelow [] path j := by
  intro h
  have hmem := h.mem_siblingsAt
  rw [siblingsAt_nil] at hmem
  cases hmem

/-- A join of a merged list is gathered from the joins of its key. -/
theorem exists_gather_of_mem_merge {joins : List Join} {j : Join} (h : j ∈ merge joins) :
    ∃ first later, withKey joins j.key = first :: later ∧ j = (gather first later).settle := by
  have hj : j ∈ withKey (merge joins) j.key := mem_withKey.2 ⟨h, rfl⟩
  rw [withKey_merge] at hj
  cases hjoins : withKey joins j.key with
  | nil =>
    rw [hjoins] at hj
    cases hj
  | cons first later =>
    rw [hjoins] at hj
    exact ⟨first, later, rfl, List.mem_singleton.1 hj⟩

/-- Conditions that are gathered add no word. -/
theorem within_gather {v : Vocabulary} {first : Join} {later : List Join}
    (h : ∀ n ∈ first :: later, ∀ t ∈ n.filter, t.Within v) :
    ∀ t ∈ (gather first later).filter, t.Within v := by
  induction later using List.reverseRecOn with
  | nil => exact h first List.mem_cons_self
  | append_singleton later j ih =>
    rw [gather_concat, filter_absorb]
    have hearlier := ih fun n hn => h n (List.mem_append_left [j] hn)
    have hlast := h j (by simp)
    exact FilterTree.within_combine hearlier hlast

/-! ### The joins of filters -/

variable {source : RelationSource} {root : String} {ops : OperatorSet} {filters : List Filter}

/-- The fields that filters name at the end of paths that lead through joins. -/
def Named (source : RelationSource) (root : String) (filters : List Filter) (keys : List Key)
    (field : String) : Prop :=
  ∃ f ∈ filters, f.spec.leaf = field ∧ source.Leads root f.spec.path keys

/-- A join below a path of keys that comes from filters. -/
structure FromFilters (source : RelationSource) (root : String) (ops : OperatorSet)
    (filters : List Filter) (path : List Key) (j : Join) : Prop where
  /-- Some filter leads through it. -/
  node : ∃ f ∈ filters, ∃ p, p <+: f.spec.path ∧ source.Leads root p (path ++ [j.key])
  /-- Its conditions are about fields that filters name there, or that operators search. -/
  conditions : ∀ t ∈ j.filter,
    t.Within (ops.vocabulary (Named source root filters (path ++ [j.key])))

/-- What a filter asks for keeps to the words of the operators, whatever its value is. -/
theorem leafTree_within {f : Filter} (hf : f.Resolved source root ops) {named : String → Prop}
    (hnamed : named f.spec.leaf) : (f.leafTree ops).Within (ops.vocabulary named) := by
  obtain ⟨p, hp⟩ := hf.asks
  have hok := Filter.leafPredicate?_eq_some.1 hp
  rw [Filter.leafTree, hp]
  exact FilterTree.Within.ofPredicate (OperatorSet.predicate_within hok hnamed)

/-- The joins of a chain come from its filter. -/
theorem fromFilters_chainOf {f : Filter} (hf : f.Resolved source root ops) (hmem : f ∈ filters)
    {path : List Key} {n : Join} (hn : n ∈ siblingsAt (chainOf source root ops f) path) :
    FromFilters source root ops filters path n := by
  obtain ⟨p, s, rest, as, a, cs, hpath, hp, ha, hcs, rfl, rfl⟩ := mem_siblingsAt_chainOf hf hn
  have hleads : source.Leads root (p ++ [s]) (as.map Association.key ++ [a.key]) :=
    ⟨as ++ [a], RelationSource.walk_concat hp ha, List.map_append⟩
  constructor
  · have hbegins : p ++ [s] <+: f.spec.path :=
      ⟨rest, by rw [hpath, List.append_assoc, List.singleton_append]⟩
    rw [key_chain]
    exact ⟨f, hmem, p ++ [s], hbegins, hleads⟩
  · intro t ht
    rw [filter_chain] at ht
    split at ht
    · -- only the last join of a chain has conditions, so the path ends here
      rename_i hlast
      subst hlast
      cases ht
      have hrest : rest = [] := RelationSource.walk_eq_nil hcs
      rw [hrest] at hpath
      rw [key_chain]
      exact leafTree_within hf ⟨f, hmem, rfl, hpath ▸ hleads⟩
    · cases ht

/-- What is gathered from joins of one key comes from filters if they do. -/
theorem FromFilters.gather {path : List Key} {first : Join} {later : List Join}
    (hkeys : ∀ n ∈ later, n.key = first.key)
    (h : ∀ n ∈ first :: later, FromFilters source root ops filters path n) :
    FromFilters source root ops filters path (gather first later).settle := by
  have hfirst := h first List.mem_cons_self
  constructor
  · rw [key_settle, key_gather]
    exact hfirst.node
  · rw [key_settle, key_gather, filter_settle]
    refine within_gather fun n hn => ?_
    have hkey : n.key = first.key := (List.mem_cons.1 hn).elim (congrArg key) (hkeys n)
    rw [← hkey]
    exact (h n hn).conditions

/-- **Every join comes from filters**, at every level. -/
theorem ofFilters_fromFilters {joins : List Join}
    (h : ofFilters source root ops filters = .ok joins) {path : List Key} {j : Join}
    (hj : StandsBelow joins path j) : FromFilters source root ops filters path j := by
  obtain ⟨hall, rfl⟩ := ofFilters_ok h
  have hmem := hj.mem_siblingsAt
  rw [siblingsAt_merge] at hmem
  obtain ⟨first, later, hnodes, rfl⟩ := exists_gather_of_mem_merge hmem
  rw [key_settle, key_gather] at hnodes
  -- what was merged stands in the chains of filters
  have hchains : ∀ n ∈ first :: later, n.key = first.key ∧
      FromFilters source root ops filters path n := by
    intro n hn
    rw [← hnodes] at hn
    obtain ⟨hn, hkey⟩ := mem_withKey.1 hn
    rw [siblingsAt_flatMap] at hn
    obtain ⟨f, hf, hn⟩ := List.mem_flatMap.1 hn
    exact ⟨hkey, fromFilters_chainOf (hall f hf) (List.mem_of_mem_filter hf) hn⟩
  exact FromFilters.gather (fun n hn => (hchains n (List.mem_cons_of_mem _ hn)).1)
    fun n hn => (hchains n hn).2

end Join

end RequestQuery
