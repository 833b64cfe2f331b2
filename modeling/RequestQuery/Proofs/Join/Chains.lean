import RequestQuery.Proofs.Except
import RequestQuery.Proofs.Join.Walk
import RequestQuery.Proofs.Predicate

/-!
# The chains of filters

* `Filter.route`, `Filter.leafTree` — the associations along the path of a filter, and what the filter
  asks of the field at its end.
* `nextSegment?` — the name that follows a prefix of a path.
* `asked` — what the filters ask of the model at the end of a path, in their order.
* `Join.ofFilters_ok` — the joins that filters ask for are their chains, merged.
* `Join.nodesAt_chainOf`, `Join.map_key_siblingsAt_chainOf` — what a chain holds at the end of a path of
  names, and below it.
* `Join.filterMap_filter_nodesAt_chains` — the conditions that all chains have at the end of a path.
-/

namespace RequestQuery

variable {ω : Type} [OperatorLike ω]

/-! ### What a filter asks for -/

/-- The associations along the path of a filter; none if one of them is unknown. -/
def Filter.route (source : RelationSource) (root : String) (f : Filter) : List Association :=
  (source.walk root f.spec.path).toOption.getD []

/-- What a relational filter asks of the field at the end of its path. -/
def Filter.leafPredicate? (ops : OperatorSet ω) (f : Filter) : Option Predicate :=
  (ops.predicate f.value f.spec.leaf f.spec.name).toOption

/-- What a relational filter asks of the field at the end of its path, as conditions. -/
def Filter.leafTree (ops : OperatorSet ω) (f : Filter) : FilterTree :=
  ((f.leafPredicate? ops).map FilterTree.ofPredicate).getD ∅

theorem Filter.leafPredicate?_eq_some {ops : OperatorSet ω} {f : Filter} {p : Predicate} :
    f.leafPredicate? ops = some p ↔ ops.predicate f.value f.spec.leaf f.spec.name = .ok p := by
  rw [leafPredicate?]
  cases ops.predicate f.value f.spec.leaf f.spec.name with
  | error e => simp [Except.toOption]
  | ok q => simp [Except.toOption]

/-- A filter whose path leads somewhere and whose value some operator accepts. -/
structure Filter.Resolved (source : RelationSource) (root : String) (ops : OperatorSet ω)
    (f : Filter) : Prop where
  walk : source.walk root f.spec.path = .ok (f.route source root)
  asks : ∃ p, f.leafPredicate? ops = some p

/-- What the filters whose path ends there ask of the model at the end of a path, in their order. -/
def asked (ops : OperatorSet ω) (filters : List Filter) (path : List String) : List Predicate :=
  (filters.filter fun f => f.spec.path = path).filterMap (Filter.leafPredicate? ops)

/-- The name that follows a prefix of a path. -/
def nextSegment? : List String → List String → Option String
  | [], path => path.head?
  | _ :: _, [] => none
  | n :: p, m :: path => if n = m then nextSegment? p path else none

theorem nextSegment?_append (p rest : List String) : nextSegment? p (p ++ rest) = rest.head? := by
  induction p with
  | nil => rfl
  | cons n p ih => rw [List.cons_append, nextSegment?, if_pos rfl, ih]

theorem prefix_of_nextSegment? {p path : List String} {s : String}
    (h : nextSegment? p path = some s) : p ++ [s] <+: path := by
  induction p generalizing path with
  | nil =>
    cases path with
    | nil => cases h
    | cons m path =>
      cases h
      exact ⟨path, rfl⟩
  | cons n p ih =>
    cases path with
    | nil => cases h
    | cons m path =>
      rw [nextSegment?] at h
      split at h
      · rename_i hnm
        subst hnm
        exact (List.prefix_cons_inj n).2 (ih h)
      · cases h

section

variable {source : RelationSource} {root : String} {ops : OperatorSet ω} {filters : List Filter}
  (hall : ∀ f ∈ filters, f.Resolved source root ops) (path : List String)
include hall

/-- What filters ask for at the end of a path, as conditions. -/
theorem map_ofPredicate_asked : (asked ops filters path).map FilterTree.ofPredicate
    = filters.flatMap fun f => if f.spec.path = path then [f.leafTree ops] else [] := by
  induction filters with
  | nil => rfl
  | cons f filters ih =>
    obtain ⟨hf, hrest⟩ := List.forall_mem_cons.1 hall
    obtain ⟨q, hq⟩ := hf.asks
    rw [List.flatMap_cons, ← ih hrest, asked, asked]
    by_cases hpath : f.spec.path = path
    · rw [if_pos hpath, List.filter_cons_of_pos (by simpa using hpath), List.filterMap_cons_some hq,
        List.map_cons, Filter.leafTree, hq]
      rfl
    · rw [if_neg hpath, List.filter_cons_of_neg (by simpa using hpath), List.nil_append]

omit hall in
/-- Operators that always ask for something do so at the end of a path. -/
theorem asks_of_mem_asked (hasks : ops.AlwaysAsks) {q : Predicate} (h : q ∈ asked ops filters path) :
    q.Asks := by
  obtain ⟨f, -, hq⟩ := List.mem_filterMap.1 h
  exact OperatorSet.predicate_asks hasks (Filter.leafPredicate?_eq_some.1 hq)

/-- Something is asked for at the end of a path just if the path of some filter ends there. -/
theorem asked_ne_nil : asked ops filters path ≠ [] ↔ ∃ f ∈ filters, f.spec.path = path := by
  constructor
  · intro h
    obtain ⟨q, hq⟩ := List.exists_mem_of_ne_nil _ h
    obtain ⟨f, hf, -⟩ := List.mem_filterMap.1 hq
    obtain ⟨hmem, hpath⟩ := List.mem_filter.1 hf
    exact ⟨f, hmem, of_decide_eq_true hpath⟩
  · rintro ⟨f, hf, hpath⟩
    obtain ⟨q, hq⟩ := (hall f hf).asks
    exact List.ne_nil_of_mem
      (List.mem_filterMap.2 ⟨f, List.mem_filter.2 ⟨hf, decide_eq_true hpath⟩, hq⟩)

end

/-- A filter gives at most one group of alternatives. -/
theorem Filter.Resolved.length_groups_leafTree {source : RelationSource} {root : String}
    {ops : OperatorSet ω} {f : Filter} (h : f.Resolved source root ops) :
    (f.leafTree ops).groups.length ≤ 1 := by
  obtain ⟨q, hq⟩ := h.asks
  have hgroups : (f.leafTree ops).groups = q.groups := by
    rw [leafTree, hq]
    exact FilterTree.groups_ofPredicate q
  rw [hgroups]
  exact q.length_groups_le

namespace Join

/-! ### The joins before merging -/

/-- The chain of joins along the path of a filter, as a list. -/
def chainOf (source : RelationSource) (root : String) (ops : OperatorSet ω) (f : Filter) : List Join :=
  chains (f.leafTree ops) (f.route source root)

variable {source : RelationSource} {root : String} {ops : OperatorSet ω}

theorem ofFilter_ok {f : Filter} {j : Join} (h : ofFilter source root ops f = .ok j) :
    f.Resolved source root ops ∧ [j] = chainOf source root ops f := by
  rw [ofFilter] at h
  split at h
  · cases h
  rename_i name names hpath
  split at h
  · cases h
  obtain ⟨first, hfirst, h⟩ := bind_ok.1 h
  obtain ⟨rest, hrest, h⟩ := bind_ok.1 h
  obtain ⟨p, hp, h⟩ := bind_ok.1 h
  cases h
  have hwalk : source.walk root f.spec.path = .ok (first :: rest) := by
    rw [hpath]
    exact RelationSource.walk_cons_ok.2 ⟨first, rest, RelationSource.find_ok.1 hfirst, hrest, rfl⟩
  have hroute : f.route source root = first :: rest := by
    rw [Filter.route, hwalk]
    rfl
  have hleaf : f.leafPredicate? ops = some p := Filter.leafPredicate?_eq_some.2 hp
  refine ⟨⟨by rw [hroute, hwalk], p, hleaf⟩, ?_⟩
  rw [chainOf, hroute, Filter.leafTree, hleaf]
  rfl

theorem mapM_ofFilter_ok {filters : List Filter} {joins : List Join}
    (h : filters.mapM (ofFilter source root ops) = .ok joins) :
    (∀ f ∈ filters, f.Resolved source root ops) ∧
      joins = filters.flatMap (chainOf source root ops) := by
  replace h := mapM_ok.1 h
  induction h with
  | nil => exact ⟨List.forall_mem_nil _, rfl⟩
  | @cons f j filters joins hf _ ih =>
    obtain ⟨hresolved, hchain⟩ := ofFilter_ok hf
    obtain ⟨hall, hjoins⟩ := ih
    refine ⟨List.forall_mem_cons.2 ⟨hresolved, hall⟩, ?_⟩
    rw [List.flatMap_cons, ← hchain, ← hjoins, List.singleton_append]

/-- **The joins that filters ask for are their chains, merged.** -/
theorem ofFilters_ok {filters : List Filter} {joins : List Join}
    (h : ofFilters source root ops filters = .ok joins) :
    (∀ f ∈ filters.filter fun f => f.spec.isRelational, f.Resolved source root ops) ∧
      joins = merge ((filters.filter fun f => f.spec.isRelational).flatMap
        (chainOf source root ops)) := by
  obtain ⟨js, hjs, h⟩ := bind_ok.1 h
  cases h
  obtain ⟨hresolved, hchains⟩ := mapM_ofFilter_ok hjs
  exact ⟨hresolved, by rw [hchains]⟩

/-! ### A chain along a path of names -/

variable {f : Filter} {p : List String} {s : String} {as : List Association} {a : Association}

/-- Along a prefix of its path, a chain leaves the rest of it. -/
theorem siblingsAt_chainOf (hf : f.Resolved source root ops) (hp : source.walk root p = .ok as)
    {rest : List String} (hpath : f.spec.path = p ++ rest) :
    ∃ cs, source.walk (RelationSource.reached root as) rest = .ok cs ∧
      siblingsAt (chainOf source root ops f) (as.map Association.key)
        = chains (f.leafTree ops) cs := by
  have hwalk := hf.walk
  rw [hpath] at hwalk
  obtain ⟨bs, cs, hbs, hcs, hroute⟩ := RelationSource.walk_append_ok.1 hwalk
  rw [hp] at hbs
  cases hbs
  exact ⟨cs, hcs, by rw [chainOf, hroute, siblingsAt_chains]⟩

/-- A path of names that a chain can be followed along is a prefix of its path. -/
theorem prefix_of_siblingsAt_chainOf (hsep : source.Separates) (hf : f.Resolved source root ops)
    (hp : source.walk root p = .ok as)
    (h : siblingsAt (chainOf source root ops f) (as.map Association.key) ≠ []) :
    ∃ rest, f.spec.path = p ++ rest := by
  obtain ⟨bs, cs, hroute, hkeys⟩ := prefix_of_siblingsAt_chains h
  have hwalk := hf.walk
  rw [hroute] at hwalk
  obtain ⟨q, rest, hpath, hq, -⟩ := RelationSource.walk_split hwalk
  rw [RelationSource.walk_injective hsep hp hq hkeys]
  exact ⟨rest, hpath⟩

/-- What stands in the chain of a filter is the chain from one of the names of its path on. -/
theorem mem_siblingsAt_chainOf (hf : f.Resolved source root ops) {ks : List Key} {n : Join}
    (h : n ∈ siblingsAt (chainOf source root ops f) ks) :
    ∃ p s rest as a cs, f.spec.path = p ++ s :: rest ∧ source.walk root p = .ok as ∧
      source (RelationSource.reached root as) s = some a ∧ source.walk a.target rest = .ok cs ∧
        ks = as.map Association.key ∧ n = chain (f.leafTree ops) a cs := by
  obtain ⟨as, a, cs, hroute, hkeys, hchain⟩ := mem_siblingsAt_chains h
  have hwalk := hf.walk
  rw [hroute] at hwalk
  obtain ⟨p, rest, hpath, hp, hrest⟩ := RelationSource.walk_split hwalk
  cases rest with
  | nil => cases hrest
  | cons s rest =>
    obtain ⟨b, bs, hb, hbs, heq⟩ := RelationSource.walk_cons_ok.1 hrest
    cases heq
    exact ⟨p, s, rest, as, a, cs, hpath, hp, hb, hbs, hkeys, hchain⟩

/-- **What a chain holds at the end of a path of names**: nothing, unless the path of its filter begins
with it. -/
theorem nodesAt_chainOf (hsep : source.Separates) (hf : f.Resolved source root ops)
    (hp : source.walk root p = .ok as)
    (ha : source (RelationSource.reached root as) s = some a) :
    (¬ p ++ [s] <+: f.spec.path ∧
      nodesAt (chainOf source root ops f) (as.map Association.key) a.key = []) ∨
    ∃ rest cs, f.spec.path = p ++ s :: rest ∧ source.walk a.target rest = .ok cs ∧
      nodesAt (chainOf source root ops f) (as.map Association.key) a.key
        = [chain (f.leafTree ops) a cs] := by
  by_cases hbegins : p ++ [s] <+: f.spec.path
  · obtain ⟨rest, hpath⟩ := hbegins
    rw [List.append_assoc, List.singleton_append] at hpath
    obtain ⟨cs, hcs, hbelow⟩ := siblingsAt_chainOf hf hp hpath.symm
    obtain ⟨b, cs, hb, hrest, rfl⟩ := RelationSource.walk_cons_ok.1 hcs
    rw [ha] at hb
    cases hb
    refine .inr ⟨rest, cs, hpath.symm, hrest, ?_⟩
    rw [nodesAt, hbelow, chains, withKey_cons, key_chain, if_pos rfl, withKey_nil]
  · refine .inl ⟨hbegins, ?_⟩
    by_cases hbelow : siblingsAt (chainOf source root ops f) (as.map Association.key) = []
    · rw [nodesAt, hbelow, withKey_nil]
    · -- the path of the filter goes on after `p`, but not with `s`
      obtain ⟨rest, hpath⟩ := prefix_of_siblingsAt_chainOf hsep hf hp hbelow
      obtain ⟨cs, hcs, hbelow⟩ := siblingsAt_chainOf hf hp hpath
      cases rest with
      | nil =>
        cases hcs
        rw [nodesAt, hbelow, chains, withKey_nil]
      | cons s' rest =>
        obtain ⟨b, cs, hb, -, rfl⟩ := RelationSource.walk_cons_ok.1 hcs
        have hkey : b.key ≠ a.key := by
          intro hkey
          have hname : s' = s := hsep hb ha hkey
          subst hname
          exact hbegins ⟨rest, by rw [hpath, List.append_assoc, List.singleton_append]⟩
        rw [nodesAt, hbelow, chains, withKey_cons, key_chain, if_neg hkey, withKey_nil]

/-- **What a chain holds below a path of names**: the join of the name that follows there. -/
theorem map_key_siblingsAt_chainOf (hsep : source.Separates) (hf : f.Resolved source root ops)
    (hp : source.walk root p = .ok as) :
    (siblingsAt (chainOf source root ops f) (as.map Association.key)).map (fun j => some j.key)
      = (nextSegment? p f.spec.path).toList.map fun s =>
          (source (RelationSource.reached root as) s).map Association.key := by
  by_cases hbegins : ∃ rest, f.spec.path = p ++ rest
  · obtain ⟨rest, hpath⟩ := hbegins
    obtain ⟨cs, hcs, hbelow⟩ := siblingsAt_chainOf hf hp hpath
    rw [hbelow, hpath, nextSegment?_append]
    cases rest with
    | nil =>
      cases hcs
      rfl
    | cons s rest =>
      obtain ⟨b, cs, hb, -, rfl⟩ := RelationSource.walk_cons_ok.1 hcs
      rw [List.head?_cons, Option.toList_some, List.map_singleton, hb, chains, List.map_singleton,
        key_chain]
      rfl
  · have hbelow : siblingsAt (chainOf source root ops f) (as.map Association.key) = [] :=
      Classical.byContradiction fun h => hbegins (prefix_of_siblingsAt_chainOf hsep hf hp h)
    have hnext : nextSegment? p f.spec.path = none := by
      cases hs : nextSegment? p f.spec.path with
      | none => rfl
      | some s =>
        obtain ⟨rest, hpath⟩ := prefix_of_nextSegment? hs
        exact absurd ⟨[s] ++ rest, by rw [← List.append_assoc, hpath]⟩ hbegins
    rw [hbelow, hnext]
    rfl

/-! ### The chains of all filters along a path of names -/

section

variable {filters : List Filter} (hsep : source.Separates)
  (hall : ∀ f ∈ filters, f.Resolved source root ops) (hp : source.walk root p = .ok as)
  (ha : source (RelationSource.reached root as) s = some a)
include hsep hall hp ha

/-- The joins at the end of a path of names are from filters whose path begins with it. -/
theorem mem_nodesAt_chains {n : Join}
    (hn : n ∈ nodesAt (filters.flatMap (chainOf source root ops)) (as.map Association.key) a.key) :
    ∃ f ∈ filters, ∃ cs, n = chain (f.leafTree ops) a cs := by
  rw [nodesAt_flatMap] at hn
  obtain ⟨f, hf, hn⟩ := List.mem_flatMap.1 hn
  rcases nodesAt_chainOf hsep (hall f hf) hp ha with ⟨-, hnil⟩ | ⟨rest, cs, -, -, hone⟩
  · rw [hnil] at hn
    cases hn
  · rw [hone] at hn
    exact ⟨f, hf, cs, List.mem_singleton.1 hn⟩

theorem nodesAt_chains_ne_nil {f : Filter} (hf : f ∈ filters) (hbegins : p ++ [s] <+: f.spec.path) :
    nodesAt (filters.flatMap (chainOf source root ops)) (as.map Association.key) a.key ≠ [] := by
  rw [nodesAt_flatMap]
  intro hnil
  have hnone := List.flatMap_eq_nil_iff.1 hnil f hf
  rcases nodesAt_chainOf hsep (hall f hf) hp ha with ⟨hnot, -⟩ | ⟨rest, cs, -, -, hone⟩
  · exact hnot hbegins
  · rw [hone] at hnone
    cases hnone

/-- Their conditions are those of the filters whose path ends there. -/
theorem filterMap_filter_nodesAt_chains :
    (nodesAt (filters.flatMap (chainOf source root ops)) (as.map Association.key) a.key).filterMap
        (fun n => n.filter)
      = (asked ops filters (p ++ [s])).map FilterTree.ofPredicate := by
  rw [map_ofPredicate_asked hall, nodesAt_flatMap, List.filterMap_flatMap]
  refine List.flatMap_congr fun f hf => ?_
  rcases nodesAt_chainOf hsep (hall f hf) hp ha with ⟨hnot, hnil⟩ | ⟨rest, cs, hpath, hcs, hone⟩
  · have hother : f.spec.path ≠ p ++ [s] := fun heq => hnot (heq ▸ List.prefix_refl _)
    rw [hnil, if_neg hother, List.filterMap_nil]
  · rw [hone, hpath]
    cases rest with
    | nil =>
      cases hcs
      rw [if_pos rfl]
      rfl
    | cons s' rest =>
      obtain ⟨b, cs, -, -, rfl⟩ := RelationSource.walk_cons_ok.1 hcs
      have hlonger : p ++ s :: s' :: rest ≠ p ++ [s] := by
        intro heq
        cases List.append_cancel_left heq
      rw [if_neg hlonger]
      rfl

end

end Join

end RequestQuery
