import RequestQuery.Proofs.Join.Chains

/-!
# The joins of filters form a trie

The paths of relational filters share joins exactly as far as they share names.

* `TrieNode` — what the join at the end of a path of names holds.
* `IsTrie` — joins that form the trie of the paths of filters.
* `fold_conditions` — joins without conditions of their own do not count where conditions are combined.
* `ofFilters_isTrie` — the joins that filters ask for are the trie of their paths.
-/

namespace RequestQuery.Join

variable {ω : Type} [OperatorLike ω]

/-- The join at the end of a path of names, the last of which stands for the association `a`. -/
structure TrieNode (ops : OperatorSet ω) (filters : List Filter) (path : List String) (a : Association)
    (j : Join) : Prop where
  /-- It joins that association. -/
  key : j.key = a.key
  required : j.isRequired = true
  /-- It has conditions just if the path of some filter ends there. -/
  present : j.filter.isSome = true ↔ ∃ f ∈ filters, f.spec.path = path
  nonempty : ∀ t ∈ j.filter, t.isEmpty = false
  /-- A field occurs only with a comparison. -/
  fields : ∀ t ∈ j.filter, ∀ field, (t.get? field).isSome = true ↔
    ∃ c, (t.argument? field c).isSome = true
  /-- Of the filters whose path ends there, the first one that makes a comparison gives the arguments. -/
  arguments : ∀ t ∈ j.filter, ∀ field c,
    t.argument? field c = (asked ops filters path).findSome? (Predicate.argument? field c)
  /-- The groups of the filters whose path ends there, each once. -/
  groups : ∀ t ∈ j.filter, t.groups = ((asked ops filters path).flatMap Predicate.groups).eraseDups

/-- Joins from the model `root` that form the trie of the paths of filters. -/
structure IsTrie (source : RelationSource) (root : String) (ops : OperatorSet ω) (filters : List Filter)
    (joins : List Join) : Prop where
  /-- Different paths of names lead to different joins. -/
  distinct : ∀ p q as bs, source.walk root p = .ok as → source.walk root q = .ok bs →
    as.map Association.key = bs.map Association.key → p = q
  /-- One join stands at the end of each prefix of the path of a filter. -/
  node : ∀ f ∈ filters, ∀ p s, p ++ [s] <+: f.spec.path → ∃ as a j,
    source.walk root p = .ok as ∧ source (RelationSource.reached root as) s = some a ∧
      nodesAt joins (as.map Association.key) a.key = [j] ∧ TrieNode ops filters (p ++ [s]) a j
  /-- There are no other joins. -/
  only : ∀ ks k, nodesAt joins ks k ≠ [] → ∃ f ∈ filters, ∃ p s as a, p ++ [s] <+: f.spec.path ∧
    source.walk root p = .ok as ∧ source (RelationSource.reached root as) s = some a ∧
      ks = as.map Association.key ∧ k = a.key
  /-- Siblings stand in the order in which filters use their names first. -/
  order : ∀ p as, source.walk root p = .ok as →
    (siblingsAt joins (as.map Association.key)).map (fun j => some j.key)
      = ((filters.filterMap fun f => nextSegment? p f.spec.path).eraseDups).map fun s =>
          (source (RelationSource.reached root as) s).map Association.key

/-! ### Conditions that are absent -/

/-- Where empty conditions do not count, neither do joins whose conditions are absent. -/
theorem fold_conditions {β : Type} (combined : List FilterTree → β) (step : FilterTree → β → β)
    (hcons : ∀ t ts, combined (t :: ts) = step t (combined ts)) (hempty : ∀ b, step ∅ b = b)
    (nodes : List Join) : combined (nodes.map conditions) = combined (nodes.filterMap filter) := by
  induction nodes with
  | nil => rfl
  | cons n nodes ih =>
    rw [List.map_cons, List.filterMap_cons, hcons, ih, conditions]
    cases n.filter with
    | none => exact hempty _
    | some t => exact (hcons t _).symm

namespace Summary

variable {first j : Join} {later : List Join} {ts : List FilterTree}

theorem present_of_filters (h : Summary first later j) (hts : (first :: later).filterMap filter = ts) :
    j.filter = none ↔ ts = [] := by
  rw [h.absent, ← hts, List.filterMap_eq_nil_iff]

theorem fields_of_filters (h : Summary first later j) (hts : (first :: later).filterMap filter = ts)
    (field : String) : (j.conditions.get? field).isSome = ts.any fun t => (t.get? field).isSome := by
  rw [h.fields, ← hts, ← fold_conditions (fun ts => ts.any fun t => (t.get? field).isSome)
    (fun t b => (t.get? field).isSome || b) (fun _ _ => rfl) (fun _ => rfl), List.any_map]
  rfl

theorem arguments_of_filters (h : Summary first later j)
    (hts : (first :: later).filterMap filter = ts) (field : String) (c : Comparison) :
    j.conditions.argument? field c = ts.findSome? fun t => t.argument? field c := by
  rw [h.arguments, ← hts, ← fold_conditions (fun ts => ts.findSome? fun t => t.argument? field c)
    (fun t b => (t.argument? field c).or b) (fun t ts => ?_) (fun _ => rfl), List.findSome?_map]
  · rfl
  · rw [List.findSome?_cons]
    cases t.argument? field c <;> rfl

theorem groups_of_filters (h : Summary first later j)
    (hts : (first :: later).filterMap filter = ts) (hfirst : first.conditions.groups.length ≤ 1) :
    j.conditions.groups = (ts.flatMap FilterTree.groups).eraseDups := by
  obtain ⟨added, hgroups, hnew, hadded⟩ := h.repetitions
  have honce : j.conditions.groups.Pairwise fun g h => (h == g) = false := by
    rw [hgroups]
    refine List.pairwise_append.2 ⟨?_, hadded, fun g hg h hh => ?_⟩
    · cases hone : first.conditions.groups with
      | nil => exact .nil
      | cons g gs =>
        rw [hone, List.length_cons] at hfirst
        have hgs : gs = [] := List.eq_nil_of_length_eq_zero (by omega)
        rw [hgs]
        exact List.pairwise_singleton _ _
    · refine Bool.eq_false_iff.2 fun heq => ?_
      have hcontains := List.contains_iff_exists_mem_beq.2 ⟨g, hg, heq⟩
      rw [hnew h hh] at hcontains
      cases hcontains
  rw [← eraseDups_of_pairwise honce, h.groups, ← hts,
    ← fold_conditions (fun ts => ts.flatMap FilterTree.groups) (fun t b => t.groups ++ b)
      (fun _ _ => List.flatMap_cons) (fun _ => rfl), List.flatMap_map]

end Summary

/-! ### One join of the trie -/

/-- A tree that holds all that is asked for is not empty if anything is. -/
theorem isEmpty_of_asked {ps : List Predicate} {t : FilterTree} (hne : ps ≠ [])
    (hasks : ∀ p ∈ ps, p.Asks)
    (harguments : ∀ field c, t.argument? field c = ps.findSome? (Predicate.argument? field c))
    (hgroups : t.groups = (ps.flatMap Predicate.groups).eraseDups) : t.isEmpty = false := by
  refine Bool.eq_false_iff.2 fun hempty => ?_
  obtain ⟨hnofields, hnogroups⟩ := Bool.and_eq_true_iff.1 hempty
  obtain ⟨q, hq⟩ := List.exists_mem_of_ne_nil ps hne
  rcases Predicate.argument_or_group (hasks q hq) with ⟨field, c, hc⟩ | hgroup
  · have hnone : t.get? field = none := (SortedMap.isEmpty_iff_get? _).1 hnofields field
    have hsome := harguments field c
    rw [FilterTree.argument?, hnone, Option.bind_none] at hsome
    rw [List.findSome?_eq_none_iff.1 hsome.symm q hq] at hc
    cases hc
  · rw [List.isEmpty_iff.1 hnogroups] at hgroups
    exact hgroup (List.flatMap_eq_nil_iff.1 (eq_nil_of_eraseDups hgroups.symm) q hq)

section

variable {source : RelationSource} {root : String} {ops : OperatorSet ω} {filters : List Filter}
  {path : List String} (hall : ∀ f ∈ filters, f.Resolved source root ops)
include hall

omit hall in
/-- What the trees of all that is asked for say together about a comparison. -/
theorem findSome?_argument?_asked (field : String) (c : Comparison) :
    ((asked ops filters path).map FilterTree.ofPredicate).findSome? (fun t => t.argument? field c)
      = (asked ops filters path).findSome? (Predicate.argument? field c) := by
  rw [List.findSome?_map, ← List.head?_filterMap, ← List.head?_filterMap]
  refine congrArg List.head? (List.filterMap_congr fun q _ => ?_)
  exact FilterTree.argument?_ofPredicate q field c

omit hall in
theorem flatMap_groups_asked :
    ((asked ops filters path).map FilterTree.ofPredicate).flatMap FilterTree.groups
      = (asked ops filters path).flatMap Predicate.groups := by
  rw [List.flatMap_map]
  exact List.flatMap_congr fun q _ => FilterTree.groups_ofPredicate q

omit hall in
/-- A field that is asked for is asked for with a comparison. -/
theorem any_get?_asked (field : String) :
    ((asked ops filters path).map FilterTree.ofPredicate).any (fun t => (t.get? field).isSome) = true ↔
      ∃ c, ((asked ops filters path).findSome? (Predicate.argument? field c)).isSome = true := by
  simp only [List.any_map, List.any_eq_true, Function.comp_apply, List.findSome?_isSome_iff]
  constructor
  · rintro ⟨q, hq, hsome⟩
    obtain ⟨c, hc⟩ := (FilterTree.isSome_get?_ofPredicate q field).1 hsome
    exact ⟨c, q, hq, hc⟩
  · rintro ⟨c, q, hq, hc⟩
    exact ⟨q, hq, (FilterTree.isSome_get?_ofPredicate q field).2 ⟨c, hc⟩⟩

/-- **The summary of the joins at the end of a path is the join of the trie there.** -/
theorem trieNode_of_summary (hasks : ops.AlwaysAsks) {a : Association} {first j : Join}
    {later : List Join} (h : Summary first later j) (hkey : j.key = a.key) (hrequired : first.isRequired = true)
    (hfirst : first.conditions.groups.length ≤ 1)
    (hasked : (first :: later).filterMap (fun n => n.filter)
      = (asked ops filters path).map FilterTree.ofPredicate) :
    TrieNode ops filters path a j := by
  have hconditions : ∀ t ∈ j.filter, j.conditions = t := by
    intro t ht
    rw [conditions, Option.mem_def.1 ht]
    rfl
  have harguments : ∀ t ∈ j.filter, ∀ field c,
      t.argument? field c = (asked ops filters path).findSome? (Predicate.argument? field c) := by
    intro t ht field c
    rw [← hconditions t ht, h.arguments_of_filters hasked, findSome?_argument?_asked]
  have hgroups : ∀ t ∈ j.filter,
      t.groups = ((asked ops filters path).flatMap Predicate.groups).eraseDups := by
    intro t ht
    rw [← hconditions t ht, h.groups_of_filters hasked hfirst, flatMap_groups_asked]
  have hfields : ∀ t ∈ j.filter, ∀ field, (t.get? field).isSome = true ↔
      ∃ c, (t.argument? field c).isSome = true := by
    intro t ht field
    simp only [harguments t ht]
    rw [← hconditions t ht, h.fields_of_filters hasked, any_get?_asked]
  have hpresent : j.filter.isSome = true ↔ asked ops filters path ≠ [] := by
    rw [Option.isSome_iff_ne_none, Ne, h.present_of_filters hasked, List.map_eq_nil_iff]
  refine ⟨hkey, ?_, hpresent.trans (asked_ne_nil hall path), ?_, hfields, harguments, hgroups⟩
  · rw [h.required, List.any_cons, hrequired, Bool.true_or]
  · intro t ht
    have hne := hpresent.1 (Option.isSome_iff_exists.2 ⟨t, ht⟩)
    exact isEmpty_of_asked hne (fun _ => asks_of_mem_asked path hasks) (harguments t ht) (hgroups t ht)

end

/-! ### The whole trie -/

section

variable {source : RelationSource} {root : String} {ops : OperatorSet ω} {filters : List Filter}
  (hall : ∀ f ∈ filters, f.Resolved source root ops)
include hall

/-- All joins stand at the end of a prefix of the path of a filter. -/
theorem only_merge_chains {ks : List Key} {k : Key}
    (h : nodesAt (merge (filters.flatMap (chainOf source root ops))) ks k ≠ []) :
    ∃ f ∈ filters, ∃ p s as a, p ++ [s] <+: f.spec.path ∧ source.walk root p = .ok as ∧
      source (RelationSource.reached root as) s = some a ∧ ks = as.map Association.key ∧
        k = a.key := by
  have hne : nodesAt (filters.flatMap (chainOf source root ops)) ks k ≠ [] := by
    intro hnil
    rw [nodesAt_merge_eq, hnil] at h
    exact h rfl
  rw [nodesAt_flatMap] at hne
  obtain ⟨n, hn⟩ := List.exists_mem_of_ne_nil _ hne
  obtain ⟨f, hf, hn⟩ := List.mem_flatMap.1 hn
  obtain ⟨hbelow, hkey⟩ := mem_withKey.1 hn
  obtain ⟨p, s, rest, as, a, cs, hpath, hp, ha, -, hks, rfl⟩ :=
    mem_siblingsAt_chainOf (hall f hf) hbelow
  rw [key_chain] at hkey
  exact ⟨f, hf, p, s, as, a, ⟨rest, by rw [hpath, List.append_assoc, List.singleton_append]⟩, hp, ha,
    hks, hkey.symm⟩

/-- A name with which the path of a filter goes on is the name of an association. -/
theorem find_nextSegment? {p : List String} {as : List Association}
    (hp : source.walk root p = .ok as) {s : String}
    (hs : s ∈ filters.filterMap fun f => nextSegment? p f.spec.path) :
    ∃ a, source (RelationSource.reached root as) s = some a := by
  obtain ⟨f, hf, hnext⟩ := List.mem_filterMap.1 hs
  obtain ⟨rest, hpath⟩ := prefix_of_nextSegment? hnext
  rw [List.append_assoc] at hpath
  obtain ⟨cs, hcs, -⟩ := siblingsAt_chainOf (hall f hf) hp hpath.symm
  obtain ⟨a, -, ha, -, -⟩ := RelationSource.walk_cons_ok.1 hcs
  exact ⟨a, ha⟩

variable (hsep : source.Separates)
include hsep

/-- One join stands at the end of each prefix of the path of a filter. -/
theorem node_merge_chains (hasks : ops.AlwaysAsks) {f : Filter} (hf : f ∈ filters) {p : List String} {s : String}
    (hbegins : p ++ [s] <+: f.spec.path) : ∃ as a j,
      source.walk root p = .ok as ∧ source (RelationSource.reached root as) s = some a ∧
        nodesAt (merge (filters.flatMap (chainOf source root ops))) (as.map Association.key) a.key
          = [j] ∧ TrieNode ops filters (p ++ [s]) a j := by
  obtain ⟨rest, hpath⟩ := hbegins
  have hwalk := (hall f hf).walk
  rw [← hpath, List.append_assoc] at hwalk
  -- the walk of the filter leads past the end of `p ++ [s]`
  obtain ⟨as, cs, hp, hcs, -⟩ := RelationSource.walk_append_ok.1 hwalk
  obtain ⟨a, -, ha, -, -⟩ := RelationSource.walk_cons_ok.1 hcs
  have hne := nodesAt_chains_ne_nil hsep hall hp ha hf ⟨rest, hpath⟩
  have hfrom := fun n => mem_nodesAt_chains hsep hall hp ha (n := n)
  have hasked := filterMap_filter_nodesAt_chains hsep hall hp ha
  cases hnodes : nodesAt (filters.flatMap (chainOf source root ops)) (as.map Association.key) a.key with
  | nil => exact absurd hnodes hne
  | cons first later =>
    rw [hnodes] at hfrom hasked
    obtain ⟨g, hg, bs, hfirst⟩ := hfrom first List.mem_cons_self
    refine ⟨as, a, (gather first later).settle, hp, ha, ?_, ?_⟩
    · rw [nodesAt_merge_eq, hnodes]
      rfl
    · refine trieNode_of_summary hall hasks (summary_settle_gather first later) ?_ ?_ ?_ hasked
      · rw [key_settle, key_gather, hfirst, key_chain]
      · rw [hfirst, isRequired_chain]
      · rw [hfirst, conditions, filter_chain]
        split
        · exact (hall g hg).length_groups_leafTree
        · exact Nat.zero_le 1

/-- Siblings stand in the order in which filters use their names first. -/
theorem order_merge_chains {p : List String} {as : List Association}
    (hp : source.walk root p = .ok as) :
    (siblingsAt (merge (filters.flatMap (chainOf source root ops))) (as.map Association.key)).map
        (fun j => some j.key)
      = ((filters.filterMap fun f => nextSegment? p f.spec.path).eraseDups).map fun s =>
          (source (RelationSource.reached root as) s).map Association.key := by
  generalize hg : (fun s => (source (RelationSource.reached root as) s).map Association.key) = g
  have hchains : (siblingsAt (filters.flatMap (chainOf source root ops))
      (as.map Association.key)).map (fun j => some j.key)
        = (filters.filterMap fun f => nextSegment? p f.spec.path).map g := by
    rw [siblingsAt_flatMap, List.map_flatMap, List.filterMap_eq_flatMap_toList, List.map_flatMap, ← hg]
    exact List.flatMap_congr fun f hf => map_key_siblingsAt_chainOf hsep (hall f hf) hp
  -- different names stand for different joins here, so repetitions of either may be removed
  have hinj : ∀ s ∈ filters.filterMap fun f => nextSegment? p f.spec.path,
      ∀ t ∈ filters.filterMap fun f => nextSegment? p f.spec.path, g s = g t → s = t := by
    intro s hs t ht hst
    obtain ⟨a, ha⟩ := find_nextSegment? hall hp hs
    obtain ⟨b, hb⟩ := find_nextSegment? hall hp ht
    rw [← hg] at hst
    simp only [ha, hb, Option.map_some, Option.some.injEq] at hst
    exact hsep ha hb hst
  have hsome : ∀ joins : List Join,
      joins.map (fun j => some j.key) = (joins.map key).map some := by
    intro joins
    rw [List.map_map]
    rfl
  rw [hsome, map_key_siblingsAt_merge,
    ← eraseDups_map_of_injOn some (fun _ _ _ _ h => Option.some.inj h), ← hsome, hchains,
    eraseDups_map_of_injOn g hinj]

/-- **The merged chains of filters are the trie of their paths**, for operators that always ask for
something. -/
theorem isTrie_merge_chains (hasks : ops.AlwaysAsks) :
    IsTrie source root ops filters (merge (filters.flatMap (chainOf source root ops))) where
  distinct _ _ _ _ hp hq h := RelationSource.walk_injective hsep hp hq h
  node _ hf _ _ hbegins := node_merge_chains hall hsep hasks hf hbegins
  only _ _ h := only_merge_chains hall h
  order _ _ hp := order_merge_chains hall hsep hp

end

/-- **The joins that filters ask for are the trie of their paths**: one join for each prefix of a path,
as the catalog has it, with the conditions of the filters whose path ends there. -/
theorem ofFilters_isTrie (catalog : Catalog) (root : String) (ops : OperatorSet)
    (filters : List Filter) (joins : List Join)
    (h : ofFilters catalog.association? root ops filters = .ok joins) :
    IsTrie catalog.association? root ops (filters.filter fun f => f.spec.isRelational) joins := by
  obtain ⟨hall, rfl⟩ := ofFilters_ok h
  exact isTrie_merge_chains hall catalog.separates ops.alwaysAsks

/-- Posts with a writer, who works for a firm. -/
def blog : Catalog :=
  (Catalog.empty.declare "post" "author" "user" (some "writer")).declare "user" "company" "firm" none

/-- Filters of posts: two by the name of the writer, one by the firm, and a search. -/
def blogFilters : List Filter :=
  [ ⟨⟨"writer", "author.name"⟩, .text "Ann"⟩, ⟨⟨"title", "title"⟩, .text "Hello"⟩,
    ⟨⟨"firm", "author.company.name"⟩, .text "Acme"⟩, ⟨⟨"author", "author.name"⟩, .text "Bob"⟩,
    ⟨⟨"q", "author.name"⟩, .text "x"⟩ ]

theorem ofFilters_isTrie_blog :
    ∃ joins, ofFilters blog.association? "post" (.searchable [] ["name", "mail"] "q") blogFilters
        = .ok joins ∧
      IsTrie blog.association? "post" (.searchable [] ["name", "mail"] "q")
        (blogFilters.filter fun f => f.spec.isRelational) joins :=
  ⟨_, rfl, ofFilters_isTrie blog "post" _ blogFilters _ rfl⟩

end RequestQuery.Join
