import RequestQuery.Proofs.Compiler.Grounded
import RequestQuery.Proofs.Text.Split
import RequestQuery.Proofs.Text.Trim

/-!
# Reading an order undoes writing it

* `SortTerm.parse_append` — a text and another one behind a comma ask for the terms of both.
* `SortTerm.word`, `SortTerm.Writes` — terms written as words, with blanks around them and empty tokens
  among them.
* `SortTerm.Writable` — what a field must be for its word to be told from its surroundings.
* `SortTerm.parse_of_writes` — the terms are read back, if their fields are allowed.
* `Compiler.ReadsOrder`, `Compiler.readsOrder` — the same for the sort parameter of a request.
-/

namespace RequestQuery

namespace SortTerm

open Text

/-! ### Texts one after the other -/

theorem tokens_append (a b : List Char) : tokens (a ++ separator :: b) = tokens a ++ tokens b := by
  simp only [tokens, splitOn_append_cons, List.map_append, List.filter_append]

/-- A comma between two texts ends the terms of the first. -/
theorem parse_append (allowed : List String) (a b : String) :
    parse allowed (a ++ "," ++ b) = parse allowed a ++ parse allowed b := by
  have htext : (a ++ "," ++ b).toList = a.toList ++ separator :: b.toList := by simp [separator]
  simp only [parse, htext, tokens_append, List.map_append, List.filter_append]

/-! ### Writing -/

/-- The word for a term: its field, with a minus sign in front in descending order. -/
def word (term : SortTerm) : List Char :=
  match term.direction with
  | .ascending => term.field.toList
  | .descending => descendingMark :: term.field.toList

/-- A term whose word can be told from what stands around it, and its field from its direction. -/
structure Writable (term : SortTerm) : Prop where
  field_ne : term.field ≠ ""
  separator : SortTerm.separator ∉ term.field.toList
  trimmed : IsTrimmed term.field.toList
  mark : term.field.toList.head? ≠ some descendingMark

/-- Whether tokens are the words of terms in their order, with blanks around them and tokens of nothing but
blanks among them. -/
inductive WritesTokens : List SortTerm → List (List Char) → Prop
  | nil : WritesTokens [] []
  | padded {term : SortTerm} {terms : List SortTerm} {tokens : List (List Char)} (before after : List Char)
      (hbefore : ∀ c ∈ before, isBlank c = true) (hafter : ∀ c ∈ after, isBlank c = true)
      (h : WritesTokens terms tokens) :
      WritesTokens (term :: terms) ((before ++ term.word ++ after) :: tokens)
  | blank {terms : List SortTerm} {token : List Char} {tokens : List (List Char)}
      (htoken : ∀ c ∈ token, isBlank c = true) (h : WritesTokens terms tokens) :
      WritesTokens terms (token :: tokens)

/-- Whether a text is written from terms: their words in order, with commas between the tokens. -/
def Writes (terms : List SortTerm) (text : String) : Prop :=
  ∃ tokens, WritesTokens terms tokens ∧ text = String.ofList ([separator].intercalate tokens)

/-! ### Words -/

theorem word_ne_nil {term : SortTerm} (h : term.Writable) : term.word ≠ [] := by
  have hfield : term.field.toList ≠ [] := by simpa using h.field_ne
  unfold word
  cases term.direction with
  | ascending => exact hfield
  | descending => exact List.cons_ne_nil _ _

theorem separator_not_mem_word {term : SortTerm} (h : term.Writable) :
    SortTerm.separator ∉ term.word := by
  have hmark : SortTerm.separator ≠ descendingMark := by decide
  unfold word
  cases term.direction with
  | ascending => exact h.separator
  | descending => simp [hmark, h.separator]

theorem isTrimmed_word {term : SortTerm} (h : term.Writable) : IsTrimmed term.word := by
  have hmark : isBlank descendingMark = false := by decide
  have hfield : term.field.toList ≠ [] := by simpa using h.field_ne
  unfold word
  cases term.direction with
  | ascending => exact h.trimmed
  | descending =>
    constructor
    · intro c hc
      cases hc
      exact hmark
    · intro c hc
      -- the last character is that of the field
      rw [List.getLast?_cons_of_ne_nil hfield] at hc
      exact h.trimmed.2 c hc

/-- A word says its term. -/
theorem ofToken_word {term : SortTerm} (h : term.Writable) : ofToken term.word = term := by
  obtain ⟨field, direction⟩ := term
  cases direction with
  | descending =>
    have hstrip : stripStart? [descendingMark] (descendingMark :: field.toList) = some field.toList :=
      stripStart?_eq_some.2 rfl
    simp only [word, ofToken, hstrip, String.ofList_toList]
  | ascending =>
    have hstrip : stripStart? [descendingMark] field.toList = none := by
      cases hrest : stripStart? [descendingMark] field.toList with
      | none => rfl
      | some rest =>
        have hfield : field.toList = descendingMark :: rest := stripStart?_eq_some.1 hrest
        have hmark := h.mark
        rw [hfield] at hmark
        exact absurd rfl hmark
    simp only [word, ofToken, hstrip, String.ofList_toList]

/-! ### Tokens -/

section

variable {terms : List SortTerm} {pieces : List (List Char)}

theorem separator_not_mem_of_isBlank {token : List Char} (h : ∀ c ∈ token, isBlank c = true) :
    separator ∉ token := by
  intro hmem
  have hseparator := h separator hmem
  revert hseparator
  decide

/-- Commas stand between tokens only. -/
theorem WritesTokens.separator_not_mem (h : WritesTokens terms pieces)
    (hterms : ∀ term ∈ terms, term.Writable) : ∀ piece ∈ pieces, separator ∉ piece := by
  induction h with
  | nil => exact fun piece hpiece => absurd hpiece List.not_mem_nil
  | padded before after hbefore hafter _ ih =>
    obtain ⟨hterm, hrest⟩ := List.forall_mem_cons.1 hterms
    have hword := separator_not_mem_word hterm
    have hbefore' := separator_not_mem_of_isBlank hbefore
    have hafter' := separator_not_mem_of_isBlank hafter
    refine List.forall_mem_cons.2 ⟨?_, ih hrest⟩
    simp [hword, hbefore', hafter']
  | blank htoken _ ih =>
    exact List.forall_mem_cons.2 ⟨separator_not_mem_of_isBlank htoken, ih hterms⟩

/-- Without blanks and empty tokens, the words are left. -/
theorem WritesTokens.filter_trim (h : WritesTokens terms pieces)
    (hterms : ∀ term ∈ terms, term.Writable) :
    ((pieces.map trim).filter fun token => !token.isEmpty) = terms.map word := by
  induction h with
  | nil => rfl
  | padded before after hbefore hafter _ ih =>
    obtain ⟨hterm, hrest⟩ := List.forall_mem_cons.1 hterms
    have hne := word_ne_nil hterm
    rw [List.map_cons, trim_padded (isTrimmed_word hterm) hne hbefore hafter,
      List.filter_cons_of_pos (by simpa using hne), ih hrest, List.map_cons]
  | @blank terms token pieces htoken _ ih =>
    have hempty : trim token = [] := by
      by_contra hcontent
      obtain ⟨c, hc, hblank⟩ := trim_ne_nil.1 hcontent
      rw [htoken c hc] at hblank
      cases hblank
    rw [List.map_cons, hempty, List.filter_cons_of_neg (by simp), ih hterms]

/-- The words of a written text are those of its terms. -/
theorem tokens_of_writesTokens (h : WritesTokens terms pieces)
    (hterms : ∀ term ∈ terms, term.Writable) :
    tokens ([separator].intercalate pieces) = terms.map word := by
  rw [← h.filter_trim hterms]
  by_cases hne : pieces = []
  · subst hne
    decide
  · rw [tokens, splitOn_intercalate hne (h.separator_not_mem hterms)]

end

/-- **The terms of a written text are read back**, if their fields are allowed. -/
theorem parse_of_writes {allowed : List String} {terms : List SortTerm} {text : String}
    (hterms : ∀ term ∈ terms, term.Writable ∧ term.field ∈ allowed) (h : Writes terms text) :
    parse allowed text = terms := by
  obtain ⟨pieces, hpieces, rfl⟩ := h
  have hwritable : ∀ term ∈ terms, term.Writable := fun term hterm => (hterms term hterm).1
  have hread : (terms.map word).map ofToken = terms := by
    rw [List.map_map]
    calc
      terms.map (ofToken ∘ word) = terms.map id :=
        List.map_congr_left fun term hterm => ofToken_word (hwritable term hterm)
      _ = terms := List.map_id terms
  rw [parse, String.toList_ofList, tokens_of_writesTokens hpieces hwritable, hread]
  refine List.filter_eq_self.2 fun term hterm => ?_
  simpa using (hterms term hterm).2

end SortTerm

namespace Compiler

/-- The terms that a request wants to sort by if its sort parameter is a text. -/
def termsOf {ω : Type} (c : Compiler ω) (params : Params) (text : String) : List SortTerm :=
  (c.order (params.insert c.options.orderParam (.string text))).getD []

/-- A compiler that reads the sort parameter of a request, whatever else the request gives, as it is
written. -/
structure ReadsOrder {ω : Type} (c : Compiler ω) : Prop where
  /-- To sort by nothing is not to sort. -/
  ne_nil : ∀ params : Params, c.order params ≠ some []
  /-- The terms of two texts with a comma between them are those of one and then of the other, also where
  they repeat each other. -/
  append : ∀ (params : Params) (a b : String),
    c.termsOf params (a ++ "," ++ b) = c.termsOf params a ++ c.termsOf params b
  allowed : ∀ (params : Params) (text : String), ∀ term ∈ c.termsOf params text,
    term.field ∈ c.options.allowedOrder
  /-- A written order is read back. -/
  written : ∀ (params : Params) (terms : List SortTerm) (text : String), terms ≠ [] →
    (∀ term ∈ terms, term.Writable ∧ term.field ∈ c.options.allowedOrder) →
    SortTerm.Writes terms text →
    c.order (params.insert c.options.orderParam (.string text)) = some terms

variable {ω : Type} {c : Compiler ω} {params : Params}

theorem order_insert (text : String) :
    c.order (params.insert c.options.orderParam (.string text))
      = if (SortTerm.parse c.options.allowedOrder text).isEmpty then none
        else some (SortTerm.parse c.options.allowedOrder text) := by
  have hscalar : (params.insert c.options.orderParam (.string text)).scalar? c.options.orderParam
      = some (.text text) := by
    rw [Params.scalar?_insert, if_pos rfl]
    rfl
  rw [order, hscalar]
  rfl

theorem termsOf_eq (text : String) :
    c.termsOf params text = SortTerm.parse c.options.allowedOrder text := by
  rw [termsOf, order_insert]
  cases SortTerm.parse c.options.allowedOrder text with
  | nil => rfl
  | cons term terms => rfl

/-- **Reading an order undoes writing it**, and takes commas between texts for commas between their
terms. -/
theorem readsOrder (c : Compiler ω) : c.ReadsOrder where
  ne_nil := by
    intro params h
    obtain ⟨value, -, h⟩ := Option.bind_eq_some_iff.1 h
    obtain ⟨text, -, h⟩ := Option.bind_eq_some_iff.1 h
    dsimp only at h
    split at h
    · cases h
    · rename_i hne
      rw [Option.some.inj h] at hne
      exact hne rfl
  append := by
    intro params a b
    rw [termsOf_eq, termsOf_eq, termsOf_eq, SortTerm.parse_append]
  allowed := by
    intro params text term hterm
    rw [termsOf_eq] at hterm
    simpa using (List.mem_filter.1 hterm).2
  written := by
    intro params terms text hne hterms hwrites
    rw [order_insert, SortTerm.parse_of_writes hterms hwrites, if_neg (by simpa using hne)]

/-- Rows sorted by number and name. -/
def numbered : Compiler :=
  .ofOptions { CompilerOptions.default with allowedOrder := ["id", "name"] }

/-- Three terms, one of them with blanks around it, and an empty token among them. -/
theorem readsOrder_numbered :
    SortTerm.Writes [⟨"id", .descending⟩, ⟨"name", .ascending⟩, ⟨"id", .ascending⟩] " -id\t,,name,id" ∧
    numbered.order (Params.empty.insert "sort" (.string " -id\t,,name,id"))
      = some [⟨"id", .descending⟩, ⟨"name", .ascending⟩, ⟨"id", .ascending⟩] := by
  have hwrites : SortTerm.Writes [⟨"id", .descending⟩, ⟨"name", .ascending⟩, ⟨"id", .ascending⟩]
      " -id\t,,name,id" := by
    refine ⟨[" -id\t".toList, [], "name".toList, "id".toList], ?_, by rfl⟩
    have hid : SortTerm.WritesTokens [⟨"id", .ascending⟩] ["id".toList] :=
      .padded [] [] nofun nofun .nil
    have hname : SortTerm.WritesTokens [⟨"name", .ascending⟩, ⟨"id", .ascending⟩]
        ["name".toList, "id".toList] := .padded [] [] nofun nofun hid
    exact .padded [' '] ['\t'] (List.forall_mem_singleton.2 rfl) (List.forall_mem_singleton.2 rfl)
      (.blank nofun hname)
  refine ⟨hwrites, numbered.readsOrder.written .empty _ _ (by decide) ?_ hwrites⟩
  intro term hterm
  simp only [List.mem_cons, List.not_mem_nil, or_false] at hterm
  rcases hterm with rfl | rfl | rfl
  · exact ⟨⟨by decide, by decide, by decide, by decide⟩, by decide⟩
  · exact ⟨⟨by decide, by decide, by decide, by decide⟩, by decide⟩
  · exact ⟨⟨by decide, by decide, by decide, by decide⟩, by decide⟩

end Compiler

end RequestQuery
