import RequestQuery.Join
import RequestQuery.Proofs.Join.Paths

/-!
# Walks and chains

* `RelationSource.walk_cons_ok`, `RelationSource.walk_append_ok` — a walk along a path succeeds just if
  it does step by step.
* `RelationSource.reached` — the model at the end of a walk.
* `Separates` — different names of one model lead through different joins; then a walk is determined by
  its joins (`RelationSource.walk_injective`). Catalogs do this (`Catalog.separates`).
* `Join.siblingsAt_chains` — following the first joins of a chain leaves the rest of it, and following
  any other keys leaves nothing.
-/

namespace RequestQuery

/-- What tells the join of an association apart. -/
def Association.key (a : Association) : Join.Key :=
  ⟨a.handle, a.target, a.joinName⟩

namespace RelationSource

/-! ### Walks -/

theorem find_ok {source : RelationSource} {model name : String} {a : Association} :
    source.find model name = .ok a ↔ source model name = some a := by
  rw [find]
  cases source model name <;> simp

/-- A walk takes its first step and goes on from there. -/
theorem walk_cons_ok {source : RelationSource} {model name : String} {names : List String}
    {as : List Association} :
    source.walk model (name :: names) = .ok as ↔
      ∃ a rest, source model name = some a ∧ source.walk a.target names = .ok rest ∧
        as = a :: rest := by
  rw [walk]
  cases hfind : source.find model name with
  | error e =>
    have hnone : ∀ a, source model name ≠ some a := by
      intro a ha
      rw [find_ok.2 ha] at hfind
      cases hfind
    simp [bind, Except.bind, hnone]
  | ok a =>
    have ha := find_ok.1 hfind
    cases hrest : source.walk a.target names with
    | error e => simp [bind, Except.bind, ha, hrest]
    | ok rest => simp [bind, Except.bind, ha, hrest, eq_comm]

/-- The model at the end of a walk. -/
def reached (root : String) : List Association → String
  | [] => root
  | a :: as => reached a.target as

/-- A walk along two paths is a walk along the first, and from the model reached one along the second. -/
theorem walk_append_ok {source : RelationSource} {root : String} {p q : List String}
    {bs : List Association} :
    source.walk root (p ++ q) = .ok bs ↔
      ∃ as cs, source.walk root p = .ok as ∧ source.walk (reached root as) q = .ok cs ∧
        bs = as ++ cs := by
  induction p generalizing root bs with
  | nil =>
    rw [List.nil_append]
    constructor
    · intro h
      exact ⟨[], bs, rfl, h, rfl⟩
    · rintro ⟨as, cs, has, hcs, rfl⟩
      cases has
      exact hcs
  | cons name p ih =>
    rw [List.cons_append, walk_cons_ok]
    constructor
    · rintro ⟨a, rest, ha, hrest, rfl⟩
      obtain ⟨as, cs, has, hcs, rfl⟩ := ih.1 hrest
      exact ⟨a :: as, cs, walk_cons_ok.2 ⟨a, as, ha, has, rfl⟩, hcs, rfl⟩
    · rintro ⟨as, cs, has, hcs, rfl⟩
      obtain ⟨a, rest, ha, hrest, rfl⟩ := walk_cons_ok.1 has
      exact ⟨a, rest ++ cs, ha, ih.2 ⟨rest, cs, hrest, hcs, rfl⟩, rfl⟩

/-- A walk of no steps has an empty path. -/
theorem walk_eq_nil {source : RelationSource} {root : String} {p : List String}
    (h : source.walk root p = .ok []) : p = [] := by
  cases p with
  | nil => rfl
  | cons name p =>
    obtain ⟨a, rest, -, -, heq⟩ := walk_cons_ok.1 h
    cases heq

/-- A walk may be followed by one more step. -/
theorem walk_concat {source : RelationSource} {root : String} {p : List String} {s : String}
    {as : List Association} {a : Association} (hp : source.walk root p = .ok as)
    (ha : source (reached root as) s = some a) : source.walk root (p ++ [s]) = .ok (as ++ [a]) :=
  walk_append_ok.2 ⟨as, [a], hp, walk_cons_ok.2 ⟨a, [], ha, rfl, rfl⟩, rfl⟩

/-- Where the associations of a walk are cut in two, its path can be cut in two. -/
theorem walk_split {source : RelationSource} {root : String} {q : List String}
    {as cs : List Association} (h : source.walk root q = .ok (as ++ cs)) :
    ∃ p rest, q = p ++ rest ∧ source.walk root p = .ok as ∧
      source.walk (reached root as) rest = .ok cs := by
  induction as generalizing root q with
  | nil => exact ⟨[], q, rfl, rfl, h⟩
  | cons a as ih =>
    cases q with
    | nil => cases h
    | cons name names =>
      obtain ⟨b, bs, hb, hbs, heq⟩ := walk_cons_ok.1 h
      obtain ⟨rfl, rfl⟩ := List.cons.inj heq
      obtain ⟨p, rest, rfl, hp, hrest⟩ := ih hbs
      exact ⟨name :: p, rest, rfl, walk_cons_ok.2 ⟨a, as, hb, hp, rfl⟩, hrest⟩

/-! ### Telling names apart by their joins -/

/-- Different names of one model lead through different joins. -/
def Separates (source : RelationSource) : Prop :=
  ∀ ⦃model name name' : String⦄ ⦃a b : Association⦄, source model name = some a →
    source model name' = some b → a.key = b.key → name = name'

/-- A walk is determined by its joins. -/
theorem walk_injective {source : RelationSource} (hsep : source.Separates) {root : String}
    {p q : List String} {as bs : List Association} (hp : source.walk root p = .ok as)
    (hq : source.walk root q = .ok bs) (h : as.map Association.key = bs.map Association.key) :
    p = q := by
  induction p generalizing root q as bs with
  | nil =>
    cases hp
    cases q with
    | nil => rfl
    | cons name q =>
      obtain ⟨b, rest, -, -, rfl⟩ := walk_cons_ok.1 hq
      cases h
  | cons name p ih =>
    obtain ⟨a, as', ha, has, rfl⟩ := walk_cons_ok.1 hp
    cases q with
    | nil =>
      cases hq
      cases h
    | cons name' q =>
      obtain ⟨b, bs', hb, hbs, rfl⟩ := walk_cons_ok.1 hq
      obtain ⟨hkey, hrest⟩ := List.cons.inj h
      have hname : name = name' := hsep ha hb hkey
      subst hname
      rw [ha] at hb
      cases hb
      rw [ih has hbs hrest]

end RelationSource

/-- The handle of an association names its model and itself. -/
theorem Catalog.handle_of_association? {catalog : Catalog} {model name : String} {a : Association}
    (h : catalog.association? model name = some a) : a.handle = model ++ "." ++ name := by
  obtain ⟨definition, -, h⟩ := Option.bind_eq_some_iff.1 h
  obtain ⟨association, -, h⟩ := Option.bind_eq_some_iff.1 h
  cases h
  rfl

theorem Catalog.separates (catalog : Catalog) : catalog.association?.Separates := by
  intro model name name' a b ha hb hkey
  have hhandle : a.handle = b.handle := congrArg Join.Key.association hkey
  rw [handle_of_association? ha, handle_of_association? hb] at hhandle
  exact (String.append_right_inj _).1 hhandle

namespace Join

/-! ### Chains -/

/-- The chain of joins along a walk, as a list; none along a walk of no steps. -/
def chains (t : FilterTree) : List Association → List Join
  | [] => []
  | a :: as => [chain t a as]

@[simp] theorem key_chain (t : FilterTree) (a : Association) (as : List Association) :
    (chain t a as).key = a.key := by
  cases as <;> rfl

theorem isRequired_chain (t : FilterTree) (a : Association) (as : List Association) :
    (chain t a as).isRequired = true := by
  cases as <;> rfl

theorem filter_chain (t : FilterTree) (a : Association) (as : List Association) :
    (chain t a as).filter = if as = [] then some t else none := by
  cases as <;> rfl

@[simp] theorem joins_chain (t : FilterTree) (a : Association) (as : List Association) :
    (chain t a as).joins = chains t as := by
  cases as <;> rfl

/-- Following the first joins of a chain leaves the rest of it. -/
theorem siblingsAt_chains (t : FilterTree) (as bs : List Association) :
    siblingsAt (chains t (as ++ bs)) (as.map Association.key) = chains t bs := by
  induction as with
  | nil => rfl
  | cons a as ih =>
    rw [List.cons_append, chains, List.map_cons, siblingsAt_cons, withKey_cons, key_chain, if_pos rfl,
      withKey_nil, List.flatMap_singleton, joins_chain, ih]

/-- Only its own joins can be followed along a chain. -/
theorem prefix_of_siblingsAt_chains {t : FilterTree} {bs : List Association} {ks : List Key}
    (h : siblingsAt (chains t bs) ks ≠ []) : ∃ as cs, bs = as ++ cs ∧ ks = as.map Association.key := by
  induction ks generalizing bs with
  | nil => exact ⟨[], bs, rfl, rfl⟩
  | cons k ks ih =>
    cases bs with
    | nil => exact absurd (siblingsAt_nil (k :: ks)) h
    | cons b bs =>
      rw [chains, siblingsAt_cons, withKey_cons, key_chain] at h
      by_cases hb : b.key = k
      · rw [if_pos hb, withKey_nil, List.flatMap_singleton, joins_chain] at h
        obtain ⟨as, cs, rfl, rfl⟩ := ih h
        exact ⟨b :: as, cs, rfl, by rw [List.map_cons, hb]⟩
      · rw [if_neg hb, withKey_nil, List.flatMap_nil] at h
        exact absurd (siblingsAt_nil ks) h

/-- What stands in a chain is the chain from one of its associations on. -/
theorem mem_siblingsAt_chains {t : FilterTree} {bs : List Association} {ks : List Key} {n : Join}
    (h : n ∈ siblingsAt (chains t bs) ks) :
    ∃ as a cs, bs = as ++ a :: cs ∧ ks = as.map Association.key ∧ n = chain t a cs := by
  obtain ⟨as, cs, rfl, rfl⟩ := prefix_of_siblingsAt_chains (List.ne_nil_of_mem h)
  rw [siblingsAt_chains] at h
  cases cs with
  | nil => cases h
  | cons a cs => exact ⟨as, a, cs, rfl, rfl, List.mem_singleton.1 h⟩

end Join

end RequestQuery
