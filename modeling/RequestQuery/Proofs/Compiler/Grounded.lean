import RequestQuery.Proofs.Compiler.Dependence
import RequestQuery.Proofs.Join.Origin
import RequestQuery.Proofs.Join.Trie

/-!
# Queries are made of the words of the compiler

A request chooses among fields, comparisons and joins that the options, the operators and the relation
metadata spell out; the texts of a request stand in a query as values only.

* `Compiler.NamesField`, `Compiler.PassesThrough`, `Compiler.NamesLeaf` — what the whitelist stands for:
  fields of the root model, joins, and fields at the end of joins.
* `Compiler.exists_of_mem_filters` — filters have the names of the whitelist.
* `Compiler.Compiled.fromFilters` — joins come from filters.
* `Compiler.Grounds`, `Compiler.compile_grounds` — every query is made of these.
-/

namespace RequestQuery.Compiler

/-- What the name of a filter stands for. -/
def spec {ω : Type} (c : Compiler ω) (name : String) : FieldSpec :=
  .ofName c.options.aliases name

/-- The fields of the root model that the whitelist stands for. -/
def NamesField (c : Compiler) (field : String) : Prop :=
  ∃ name ∈ c.whitelist, (c.spec name).isRelational = false ∧ (c.spec name).field = field

/-- The joins along the paths that the whitelist stands for. -/
def PassesThrough (c : Compiler) (keys : List Join.Key) : Prop :=
  ∃ r, c.relations = some r ∧
    ∃ name ∈ c.whitelist, ∃ p, p <+: (c.spec name).path ∧ r.source.Leads r.root p keys

/-- The fields at the end of joins that the whitelist stands for. -/
def NamesLeaf (c : Compiler) (keys : List Join.Key) (field : String) : Prop :=
  ∃ r, c.relations = some r ∧
    ∃ name ∈ c.whitelist, (c.spec name).leaf = field ∧ r.source.Leads r.root (c.spec name).path keys

/-- A query that is made of what the compiler spells out. -/
structure Grounds (c : Compiler) (d : Descriptor) : Prop where
  filter : d.filter.Within (c.operators.vocabulary c.NamesField)
  /-- Every join, at any level, is on a path that the whitelist stands for. -/
  joins : ∀ path j, Join.StandsBelow d.joins path j → c.PassesThrough (path ++ [j.key])
  /-- Its conditions are about the fields at the end of such paths, or about fields that are searched. -/
  joinFilters : ∀ path j, Join.StandsBelow d.joins path j →
    ∀ t ∈ j.filter, t.Within (c.operators.vocabulary (c.NamesLeaf (path ++ [j.key])))
  order : ∀ terms ∈ d.order, ∀ term ∈ terms, term.field ∈ c.options.allowedOrder

variable {c : Compiler} {params : Params}

/-- Filters have the names of the whitelist and stand for what these stand for. -/
theorem exists_of_mem_filters {f : Filter} (hf : f ∈ c.filters params) :
    ∃ name ∈ c.whitelist, f.spec = c.spec name := by
  obtain ⟨name, hname, -, hspec⟩ := mem_filters.1 hf
  exact ⟨name, hname, hspec⟩

theorem namesField_of_mem_filters {f : Filter} (hf : f ∈ c.filters params)
    (hsimple : f.spec.isRelational = false) : c.NamesField f.spec.field := by
  obtain ⟨name, hname, hspec⟩ := exists_of_mem_filters hf
  rw [hspec] at hsimple ⊢
  exact ⟨name, hname, hsimple, rfl⟩

/-- Sorting is by allowed fields. -/
theorem field_mem_of_order {ω : Type} {c : Compiler ω} {terms : List SortTerm} (h : c.order params = some terms)
    {term : SortTerm} (hterm : term ∈ terms) : term.field ∈ c.options.allowedOrder := by
  obtain ⟨value, -, h⟩ := Option.bind_eq_some_iff.1 h
  obtain ⟨text, -, h⟩ := Option.bind_eq_some_iff.1 h
  simp only at h
  split at h
  · cases h
  · cases h
    have hallowed := (List.mem_filter.1 hterm).2
    simpa using hallowed

/-- Joins take relation metadata. -/
theorem joins_ok {filters : List Filter} {joins : List Join} (h : c.joins filters = .ok joins) :
    joins = [] ∨ ∃ r, c.relations = some r ∧
      Join.ofFilters r.source r.root c.operators filters = .ok joins := by
  rw [Compiler.joins] at h
  split at h
  · cases h
    exact .inl rfl
  · rename_i r _ hr
    exact .inr ⟨r, hr, h⟩
  · cases h

/-- Every join of a query comes from the filters of the request. -/
theorem Compiled.fromFilters {d : Descriptor} (h : c.Compiled params d) {path : List Join.Key} {j : Join}
    (hj : Join.StandsBelow d.joins path j) : ∃ r, c.relations = some r ∧
      Join.FromFilters r.source r.root c.operators (c.filters params) path j := by
  rcases joins_ok h.joins with hnil | ⟨r, hr, hok⟩
  · rw [hnil] at hj
    exact absurd hj Join.not_standsBelow_nil
  · exact ⟨r, hr, Join.ofFilters_fromFilters hok hj⟩

theorem passesThrough_of_fromFilters {r : Relations} (hr : c.relations = some r)
    {path : List Join.Key} {j : Join}
    (h : Join.FromFilters r.source r.root c.operators (c.filters params) path j) :
    c.PassesThrough (path ++ [j.key]) := by
  obtain ⟨f, hf, p, hp, hleads⟩ := h.node
  obtain ⟨name, hname, hspec⟩ := exists_of_mem_filters hf
  rw [hspec] at hp
  exact ⟨r, hr, name, hname, p, hp, hleads⟩

theorem namesLeaf_of_named {r : Relations} (hr : c.relations = some r) {keys : List Join.Key}
    {field : String} (h : Join.Named r.source r.root (c.filters params) keys field) :
    c.NamesLeaf keys field := by
  obtain ⟨f, hf, hleaf, hleads⟩ := h
  obtain ⟨name, hname, hspec⟩ := exists_of_mem_filters hf
  rw [hspec] at hleaf hleads
  exact ⟨r, hr, name, hname, hleaf, hleads⟩

/-- **No text of a request becomes structure**: every query is made of what the compiler spells out. -/
theorem compile_grounds (c : Compiler) (params : Params) (d : Descriptor)
    (h : c.compile params = .ok d) : c.Grounds d := by
  have h := compile_ok.1 h
  constructor
  · exact simpleTree_within h.filter fun f hf hsimple => namesField_of_mem_filters hf hsimple
  · intro path j hj
    obtain ⟨r, hr, hfrom⟩ := h.fromFilters hj
    exact passesThrough_of_fromFilters hr hfrom
  · intro path j hj t ht
    obtain ⟨r, hr, hfrom⟩ := h.fromFilters hj
    exact (hfrom.conditions t ht).mono fun field hnamed => namesLeaf_of_named hr hnamed
  · intro terms hterms term hterm
    rw [h.order] at hterms
    exact field_mem_of_order hterms hterm

/-- Posts by status, by the name of the writer or of the firm, with a search for writers. -/
def blogPosts : Compiler :=
  let options : CompilerOptions :=
    { CompilerOptions.default with
      allowedFilters := ["status", "writer", "firm"]
      allowedOrder := ["title"]
      aliases := .ofList
        [("writer", "author.name"), ("firm", "author.company.name"), ("search", "author.any")] }
  ((ofOptions options).withSearchable ["title"] ["name", "mail"]).withModel Join.blog.association? "post"

/-- A request whose names and texts look like fields, comparisons and paths. -/
def lookalike : Params :=
  .ofList
    [ ("status", .string "or"), ("title", .string "author.name"), ("writer", .string ">5"),
      ("firm", .string "<>author|company"), ("search", .string "like"), ("or", .string "1"),
      ("author.password", .string "!x"), ("sort", .string "-title,secret,author.name") ]

theorem compile_grounds_lookalike : ∃ d, blogPosts.compile lookalike = .ok d ∧
    d.order = some [⟨"title", .descending⟩] ∧ d.joins.map Join.key = [⟨"post.author", "user", "writer"⟩] ∧
      blogPosts.Grounds d := by
  have hparts : (blogPosts.compile lookalike).toOption.map (fun d => (d.order, d.joins.map Join.key))
      = some (some [⟨"title", .descending⟩], [⟨"post.author", "user", "writer"⟩]) := by
    decide +kernel
  cases h : blogPosts.compile lookalike with
  | error e =>
    rw [h] at hparts
    cases hparts
  | ok d =>
    rw [h] at hparts
    obtain ⟨horder, hjoins⟩ := Prod.mk.inj (Option.some.inj hparts)
    exact ⟨d, rfl, horder, hjoins, compile_grounds blogPosts lookalike d h⟩

end RequestQuery.Compiler
