import RequestQuery.Proofs.Join.Chains
import RequestQuery.Proofs.Join.Faults

/-!
# The join of one filter

A relational filter leads along a path of associations to a field. Its join is that walk and nothing else.

* `FieldSpec.Spells` — a field as the names of a path and a last one.
* `RelationSource.Finds`, `RelationSource.finds_iff_walk` — the associations of a path, each looked up on the
  model that the names before it lead to.
* `Join.Unfolds`, `Join.WalksAlong`, `Join.IsWalk` — a chain of joins along associations, with conditions at
  its end only.
* `Join.walkFaults` — what can be wrong with the filter, in the order in which it is looked for.
* `Join.DecidedByWalk`, `Join.ofFilter_decided` — the filter has a join just if its walk succeeds and its
  value is understood; the join is the walk, and the error is the first fault.
-/

namespace RequestQuery

/-! ### Fields -/

namespace FieldSpec

variable {spec : FieldSpec} {path : List String} {leaf : String}

/-- Whether a field consists of the names of a path and a last one, with points between them. -/
def Spells (spec : FieldSpec) (path : List String) (leaf : String) : Prop :=
  spec.field = ".".intercalate (path ++ [leaf]) ∧
    ∀ name ∈ path ++ [leaf], pathSeparator ∉ name.toList

theorem Spells.segments (h : spec.Spells path leaf) : spec.segments = path ++ [leaf] := by
  obtain ⟨hfield, hnames⟩ := h
  have htext : spec.field.toList = [pathSeparator].intercalate ((path ++ [leaf]).map String.toList) := by
    rw [hfield, String.toList_intercalate]
    rfl
  have hpieces : ∀ piece ∈ (path ++ [leaf]).map String.toList, pathSeparator ∉ piece := by
    simp only [List.mem_map, forall_exists_index, and_imp, forall_apply_eq_imp_iff₂]
    exact hnames
  rw [FieldSpec.segments, htext, Text.splitOn_intercalate (by simp) hpieces]
  simp [Function.comp_def]

theorem Spells.path_eq (h : spec.Spells path leaf) : spec.path = path := by
  rw [FieldSpec.path, h.segments, List.dropLast_concat]

theorem Spells.leaf_eq (h : spec.Spells path leaf) : spec.leaf = leaf := by
  rw [FieldSpec.leaf, h.segments, List.getLast?_concat]
  rfl

/-- A field with a name in front of the last one is relational. -/
theorem Spells.isRelational (h : spec.Spells path leaf) (hpath : path ≠ []) :
    spec.isRelational = true := by
  obtain ⟨name, names, rfl⟩ := List.exists_cons_of_ne_nil hpath
  have hne : names ++ [leaf] ≠ [] := by simp
  have htext : spec.field = name ++ "." ++ ".".intercalate (names ++ [leaf]) := by
    rw [h.1, List.cons_append, String.intercalate_cons_of_ne_nil hne]
  simp [FieldSpec.isRelational, htext, pathSeparator]

end FieldSpec

/-! ### Walks -/

namespace RelationSource

variable {source : RelationSource} {root : String} {path : List String} {as : List Association}

/-- Whether associations are those of a path: each name is looked up on the model that the names before it
lead to. -/
def Finds (source : RelationSource) (root : String) (path : List String) (as : List Association) : Prop :=
  as.length = path.length ∧
    ∀ i (hi : i < path.length), ∃ model, source.Reaches root (path.take i) model ∧
      source model path[i] = as[i]?

theorem reaches_nil {model : String} : source.Reaches root [] model ↔ model = root := by
  constructor
  · intro h
    cases h
    rfl
  · rintro rfl
    exact .stop model

theorem reaches_cons {name model : String} {names : List String} :
    source.Reaches root (name :: names) model ↔
      ∃ a, source root name = some a ∧ source.Reaches a.target names model := by
  constructor
  · intro h
    cases h with
    | step a ha hrest => exact ⟨a, ha, hrest⟩
  · intro h
    obtain ⟨a, ha, hrest⟩ := h
    exact .step a ha hrest

/-- The first name is looked up on the model that the path starts at, the others from its target on. -/
theorem finds_cons {name : String} {names : List String} :
    source.Finds root (name :: names) as ↔
      ∃ a rest, source root name = some a ∧ source.Finds a.target names rest ∧ as = a :: rest := by
  constructor
  · intro h
    obtain ⟨hlength, hfound⟩ := h
    cases as with
    | nil => cases hlength
    | cons a rest =>
      obtain ⟨model, hmodel, ha⟩ := hfound 0 (by simp)
      rw [List.take_zero, reaches_nil] at hmodel
      subst hmodel
      have hfirst : source model name = some a := ha
      refine ⟨a, rest, hfirst, ⟨by simpa using hlength, ?_⟩, rfl⟩
      intro i hi
      obtain ⟨reached, hreached, hnext⟩ := hfound (i + 1) (by simpa using hi)
      rw [List.take_succ_cons, reaches_cons] at hreached
      obtain ⟨b, hb, hreached⟩ := hreached
      rw [hfirst] at hb
      cases hb
      exact ⟨reached, hreached, hnext⟩
  · intro h
    obtain ⟨a, rest, hfirst, ⟨hlength, hfound⟩, rfl⟩ := h
    refine ⟨by simp [hlength], ?_⟩
    intro i hi
    cases i with
    | zero => exact ⟨root, .stop root, hfirst⟩
    | succ i =>
      obtain ⟨reached, hreached, hnext⟩ := hfound i (by simpa using hi)
      exact ⟨reached, .step a hfirst hreached, hnext⟩

/-- A walk along a path goes through the associations that are found there. -/
theorem finds_iff_walk : source.Finds root path as ↔ source.walk root path = .ok as := by
  induction path generalizing root as with
  | nil =>
    constructor
    · intro h
      rw [List.length_eq_zero_iff.1 h.1]
      rfl
    · intro h
      cases h
      exact ⟨rfl, fun i hi => absurd hi (Nat.not_lt_zero i)⟩
  | cons name names ih => simp only [finds_cons, walk_cons_ok, ih]

end RelationSource

/-! ### Chains -/

/-- A tree that holds what a predicate asks for, and nothing else. -/
structure FilterTree.HoldsJust (t : FilterTree) (p : Predicate) : Prop where
  arguments : ∀ field c, t.argument? field c = p.argument? field c
  fields : ∀ field, (t.get? field).isSome = true → ∃ c, (p.argument? field c).isSome = true
  groups : t.groups = p.groups

theorem FilterTree.holdsJust_ofPredicate (p : Predicate) : (FilterTree.ofPredicate p).HoldsJust p where
  arguments := argument?_ofPredicate p
  fields := fun field => (isSome_get?_ofPredicate p field).1
  groups := groups_ofPredicate p

namespace Join

/-- The joins of a chain from the outermost inwards: each holds just the next one, and the last holds
none. -/
inductive Unfolds : Join → List Join → Prop
  | last {j : Join} (h : j.joins = []) : Unfolds j [j]
  | next {j k : Join} {ks : List Join} (h : j.joins = [k]) (hrest : Unfolds k ks) : Unfolds j (j :: ks)

/-- Joins along associations, the last one with conditions. -/
structure WalksAlong (nodes : List Join) (as : List Association) (p : Predicate) : Prop where
  associations : List.Forall₂ (fun n a => n.association = a.handle ∧ n.model = a.target ∧
    n.joinName = a.joinName ∧ n.isRequired = true) nodes as
  before : ∀ n ∈ nodes.dropLast, n.filter = none
  last : ∀ n ∈ nodes.getLast?, ∃ t, n.filter = some t ∧ t.HoldsJust p

/-- A join that is a chain along associations. -/
def IsWalk (j : Join) (as : List Association) (p : Predicate) : Prop :=
  ∃ nodes, j.Unfolds nodes ∧ WalksAlong nodes as p

theorem Unfolds.ne_nil {j : Join} {nodes : List Join} (h : j.Unfolds nodes) : nodes ≠ [] := by
  cases h <;> exact List.cons_ne_nil _ _

/-- A chain is a walk along its associations. -/
theorem isWalk_chain {t : FilterTree} {p : Predicate} (ht : t.HoldsJust p) (a : Association)
    (as : List Association) : (chain t a as).IsWalk (a :: as) p := by
  induction as generalizing a with
  | nil =>
    refine ⟨[chain t a []], .last rfl, .cons ⟨rfl, rfl, rfl, rfl⟩ .nil, ?_, ?_⟩
    · exact fun n hn => absurd hn List.not_mem_nil
    · intro n hn
      cases hn
      exact ⟨t, rfl, ht⟩
  | cons b as ih =>
    obtain ⟨nodes, hunfolds, halong⟩ := ih b
    have hne := hunfolds.ne_nil
    refine ⟨chain t a (b :: as) :: nodes, .next rfl hunfolds,
      .cons ⟨rfl, rfl, rfl, rfl⟩ halong.associations, ?_, ?_⟩
    · rw [List.dropLast_cons_of_ne_nil hne]
      exact List.forall_mem_cons.2 ⟨rfl, halong.before⟩
    · rw [List.getLast?_cons_of_ne_nil hne]
      exact halong.last

/-! ### The join of a filter -/

open OperatorLike

variable {ω : Type} [OperatorLike ω] {source : RelationSource} {root : String} {ops : OperatorSet ω}
  {f : Filter} {path : List String} {leaf : String}

/-- What can be wrong with a filter, in the order in which it is looked for: there is no field, a model that
is reached does not know the next name, or no operator understands the value. -/
def walkFaults (source : RelationSource) (root : String) (ops : OperatorSet ω) (f : Filter)
    (path : List String) (leaf : String) : List (QueryError → Prop) :=
  [ fun e => leaf = "" ∧ e = .noLeaf f.spec.name f.spec.field,
    fun e => ∃ before name after model, path = before ++ name :: after ∧
      source.Reaches root before model ∧ source model name = none ∧ e = .unknownAssociation model name,
    fun e => ops.Rejects f.value leaf f.spec.name ∧ e = .noOperator f.spec.name leaf ]

/-- The join of a filter is decided by the walk along its path. -/
structure DecidedByWalk (source : RelationSource) (root : String) (ops : OperatorSet ω) (f : Filter)
    (path : List String) (leaf : String) : Prop where
  succeeds : (∃ j, ofFilter source root ops f = .ok j) ↔
    leaf ≠ "" ∧ (∃ as, source.Finds root path as) ∧
      ∃ op ∈ ops, (functions op).applies f.value leaf f.spec.name = true
  /-- The join is the walk, and it asks what the value asks of the field at the end. -/
  walk : ∀ j, ofFilter source root ops f = .ok j →
    ∃ as op, source.Finds root path as ∧ ops.Dispatches f.value leaf f.spec.name op ∧
      j.IsWalk as ((functions op).predicate f.value leaf f.spec.name)
  error : ∀ e, ofFilter source root ops f = .error e ↔
    FirstFault id (walkFaults source root ops f path leaf) e

/-- A join comes from a field, a walk and an operator that understands the value, and is their chain. -/
theorem parts_of_ofFilter {j : Join} (h : ofFilter source root ops f = .ok j) :
    f.spec.leaf ≠ "" ∧ ∃ as op, source.walk root f.spec.path = .ok as ∧
      ops.Dispatches f.value f.spec.leaf f.spec.name op ∧
        [j] = chains (.ofPredicate ((functions op).predicate f.value f.spec.leaf f.spec.name)) as := by
  constructor
  · intro hleaf
    rw [(ofFilter_error_of_noLeaf hleaf).2 rfl] at h
    cases h
  · obtain ⟨⟨hwalk, p, hp⟩, hchain⟩ := ofFilter_ok h
    obtain ⟨op, hop, rfl⟩ := OperatorSet.predicate_ok.1 (Filter.leafPredicate?_eq_some.1 hp)
    refine ⟨_, op, hwalk, hop, ?_⟩
    rw [hchain, chainOf, Filter.leafTree, hp]
    rfl

/-- Where there are a field, a walk and an operator that understands the value, there is a join. -/
theorem exists_ofFilter {op : ω} (hrelational : f.spec.isRelational = true)
    (hleaf : f.spec.leaf ≠ "") {as : List Association} (hwalk : source.walk root f.spec.path = .ok as)
    (hop : ops.Dispatches f.value f.spec.leaf f.spec.name op) : ∃ j, ofFilter source root ops f = .ok j := by
  cases hjoin : ofFilter source root ops f with
  | ok j => exact ⟨j, rfl⟩
  | error e =>
    exfalso
    rcases (ofFilter_error_of_leaf hrelational hleaf).1 hjoin with herror | ⟨-, herror⟩
    · rw [hwalk] at herror
      cases herror
    · rw [OperatorSet.predicate_ok.2 ⟨op, hop, rfl⟩] at herror
      cases herror

/-- The error of a filter is its first fault. -/
theorem ofFilter_firstFault (hspells : f.spec.Spells path leaf) (hpath : path ≠ []) (e : QueryError) :
    ofFilter source root ops f = .error e ↔
      FirstFault id (walkFaults source root ops f path leaf) e := by
  have hrelational := hspells.isRelational hpath
  obtain rfl := hspells.path_eq
  obtain rfl := hspells.leaf_eq
  simp only [walkFaults, firstFault_cons, firstFault_nil, and_false, or_false, id_eq]
  by_cases hleaf : f.spec.leaf = ""
  · rw [ofFilter_error_of_noLeaf hleaf]
    simp [hleaf]
  · rw [ofFilter_error_of_leaf hrelational hleaf, OperatorSet.predicate_error]
    -- a walk that has no fault succeeds
    have hwalk : (∃ as, source.walk root f.spec.path = .ok as) ↔
        ∀ e', ¬ source.walk root f.spec.path = .error e' := by
      cases source.walk root f.spec.path <;> simp
    simp only [hwalk, RelationSource.walk_error, hleaf, false_and, not_false_eq_true, implies_true,
      true_and, false_or]

/-- **The join of a relational filter is its walk**, and there is one unless the filter has no field, a name
of its path is unknown or its value is not understood; the first of these is the error. -/
theorem ofFilter_decided (hspells : f.spec.Spells path leaf) (hpath : path ≠ []) :
    DecidedByWalk source root ops f path leaf := by
  have hrelational := hspells.isRelational hpath
  have herror : ∀ e, ofFilter source root ops f = .error e ↔
      FirstFault id (walkFaults source root ops f path leaf) e := ofFilter_firstFault hspells hpath
  obtain rfl := hspells.path_eq
  obtain rfl := hspells.leaf_eq
  constructor
  case succeeds =>
    constructor
    · intro ⟨j, hj⟩
      obtain ⟨hleaf, as, op, has, hop, -⟩ := parts_of_ofFilter hj
      exact ⟨hleaf, ⟨as, RelationSource.finds_iff_walk.2 has⟩, op, hop.mem, hop.1⟩
    · intro ⟨hleaf, ⟨as, has⟩, op, hmem, happlies⟩
      obtain ⟨op', hop'⟩ := OperatorSet.exists_dispatches hmem happlies
      exact exists_ofFilter hrelational hleaf (RelationSource.finds_iff_walk.1 has) hop'
  case walk =>
    intro j hj
    obtain ⟨-, as, op, has, hop, hchain⟩ := parts_of_ofFilter hj
    obtain ⟨a, rest, rfl⟩ : ∃ a rest, as = a :: rest :=
      List.exists_cons_of_ne_nil fun hnil => hpath (RelationSource.walk_eq_nil (hnil ▸ has))
    refine ⟨_, op, RelationSource.finds_iff_walk.2 has, hop, ?_⟩
    rw [(List.cons.inj hchain).1]
    exact isWalk_chain (FilterTree.holdsJust_ofPredicate _) a rest
  case error => exact herror

/-- Nodes that know their parent, which is a node again. -/
def ancestry : RelationSource := fun model name =>
  if name = "parent" then some ⟨model ++ ".parent", model, "up"⟩ else none

/-- The parent of the parent has a name other than x. -/
def grandparent : Filter :=
  ⟨⟨"top", "parent.parent.name"⟩, .text "!x"⟩

/-- One name of the path is empty, which is a name like any other, but no association has it. -/
def nameless : Filter :=
  ⟨⟨"top", "parent..name"⟩, .text "!x"⟩

/-- The same association may be walked twice, and an empty name may stand in a path. -/
theorem ofFilter_decided_ancestry :
    grandparent.spec.Spells ["parent", "parent"] "name" ∧ nameless.spec.Spells ["parent", ""] "name" ∧
    (∃ (j : Join) (as : List Association) (op : Operator),
      ofFilter ancestry "node" .standard grandparent = .ok j ∧
        ancestry.Finds "node" ["parent", "parent"] as ∧ j.IsWalk as (op.predicate (.text "!x") "name")) ∧
    ofFilter ancestry "node" .standard nameless = .error (.unknownAssociation "node" "") := by
  have hspells : grandparent.spec.Spells ["parent", "parent"] "name" := ⟨by decide, by decide⟩
  have hspells' : nameless.spec.Spells ["parent", ""] "name" := ⟨by decide, by decide⟩
  have hdecided : DecidedByWalk ancestry "node" .standard grandparent ["parent", "parent"] "name" :=
    ofFilter_decided hspells (by decide)
  have hdecided' : DecidedByWalk ancestry "node" .standard nameless ["parent", ""] "name" :=
    ofFilter_decided hspells' (by decide)
  have hwalk : ancestry.walk "node" ["parent", "parent"] =
      .ok [⟨"node.parent", "node", "up"⟩, ⟨"node.parent", "node", "up"⟩] := by decide
  refine ⟨hspells, hspells', ?_, ?_⟩
  · obtain ⟨j, hj⟩ := hdecided.succeeds.2
      ⟨by decide, ⟨_, RelationSource.finds_iff_walk.2 hwalk⟩, .identity, by decide, rfl⟩
    obtain ⟨as, op, has, -, hj'⟩ := hdecided.walk j hj
    exact ⟨j, as, op, hj, has, hj'⟩
  · refine (hdecided'.error _).2 ⟨[_], _, [_], rfl, ?_, ?_⟩
    · exact ⟨["parent"], "", [], "node", rfl, .step _ rfl (.stop "node"), rfl, rfl⟩
    · simp

end Join

end RequestQuery
