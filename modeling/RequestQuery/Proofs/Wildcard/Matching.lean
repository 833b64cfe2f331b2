import Mathlib.Data.List.Forall2
import Mathlib.Data.List.Infix
import RequestQuery.Proofs.Wildcard.Reading

/-!
# What patterns with wildcards match

An unescaped percent sign of a pattern stands for any text, an unescaped underscore for any one character,
and any other character for itself.

* `LikeToken.matchesAll`, `isLike` — whether a text matches a pattern.
* `LikeToken.matchesAll_wildcard`, `LikeToken.matchesAll_cons`, `LikeToken.matchesAll_append` — the rule for
  each kind of character, and for several of them.
* `isLike_likePattern` — a text between wildcards is found where it occurs, up to what its underscores
  stand for.
* `OccursLoosely.forall_iff_isInfix` — underscores, and nothing else, make the difference.
* `Operator.isLike_percentSafe` — what the operators that escape their values find.
-/

namespace RequestQuery

namespace LikeToken

/-- Whether one character matches a token that is no wildcard for texts. -/
def covers : LikeToken → Char → Bool
  | .plain c, d => c == '_' || c == d
  | .escaped c, d => c == d

/-- Whether a whole text matches the tokens of a pattern. -/
def matchesAll : List LikeToken → List Char → Bool
  | [], cs => cs.isEmpty
  | .plain '%' :: ts, cs => cs.tails.any fun rest => matchesAll ts rest
  | _ :: _, [] => false
  | t :: ts, c :: cs => t.covers c && matchesAll ts cs

variable {t : LikeToken} {ts us : List LikeToken} {cs : List Char}

theorem matchesAll_nil : matchesAll [] cs = true ↔ cs = [] := by
  rw [matchesAll, List.isEmpty_iff]

/-- A wildcard for texts takes any part of the text. -/
theorem matchesAll_wildcard :
    matchesAll (.plain '%' :: ts) cs = true ↔
      ∃ before rest, cs = before ++ rest ∧ matchesAll ts rest = true := by
  rw [matchesAll, List.any_eq_true]
  constructor
  · intro ⟨rest, hrest, h⟩
    obtain ⟨before, rfl⟩ := (List.mem_tails rest cs).1 hrest
    exact ⟨before, rest, rfl, h⟩
  · intro ⟨before, rest, hcs, h⟩
    exact ⟨rest, (List.mem_tails rest cs).2 ⟨before, hcs.symm⟩, h⟩

/-- Any other token takes one character. -/
theorem matchesAll_cons (ht : t ≠ .plain '%') :
    matchesAll (t :: ts) cs = true ↔
      ∃ c rest, cs = c :: rest ∧ t.covers c = true ∧ matchesAll ts rest = true := by
  cases cs with
  | nil => simp [matchesAll]
  | cons c cs => simp [matchesAll]

/-- Tokens that each take one character take a part of the same length. -/
theorem matchesAll_append (hus : ∀ t ∈ us, t ≠ .plain '%') :
    matchesAll (us ++ ts) cs = true ↔ ∃ part rest, cs = part ++ rest ∧
      List.Forall₂ (fun t c => t.covers c = true) us part ∧ matchesAll ts rest = true := by
  induction us generalizing cs with
  | nil => simp
  | cons u us ih =>
    have hu : u ≠ .plain '%' := hus u List.mem_cons_self
    have hus' : ∀ t ∈ us, t ≠ .plain '%' := fun t ht => hus t (List.mem_cons_of_mem u ht)
    rw [List.cons_append, matchesAll_cons hu]
    constructor
    · intro ⟨c, cs', hcs, hc, h⟩
      obtain ⟨part, rest, rfl, hpart, hrest⟩ := (ih hus').1 h
      exact ⟨c :: part, rest, hcs, .cons hc hpart, hrest⟩
    · intro ⟨part, rest, hcs, hpart, hrest⟩
      cases hpart with
      | cons hc hpart => exact ⟨_, _, hcs, hc, (ih hus').2 ⟨_, rest, rfl, hpart, hrest⟩⟩

/-- Between two wildcards for texts the tokens may take any part. -/
theorem matchesAll_within (hus : ∀ t ∈ us, t ≠ .plain '%') :
    matchesAll (.plain '%' :: us ++ [.plain '%']) cs = true ↔
      ∃ part, part <:+: cs ∧ List.Forall₂ (fun t c => t.covers c = true) us part := by
  rw [List.cons_append, matchesAll_wildcard]
  simp only [matchesAll_append hus, matchesAll_wildcard, matchesAll_nil]
  constructor
  · intro ⟨before, rest, hcs, part, rest', hrest, hpart, after, _, hafter, hnil⟩
    subst hnil hafter hrest hcs
    exact ⟨part, ⟨before, after, by simp⟩, hpart⟩
  · intro ⟨part, ⟨before, after, hcs⟩, hpart⟩
    exact ⟨before, part ++ after, by simp [← hcs], part, after, rfl, hpart, after, [], by simp, rfl⟩

/-! ### Escaped characters -/

theorem ofChar_ne_wildcard (c : Char) : ofChar c ≠ .plain '%' := by
  intro h
  have hliteral := isLiteral_ofChar c
  rw [h] at hliteral
  exact hliteral.1 rfl

theorem covers_ofChar {c d : Char} : (ofChar c).covers d = true ↔ c = '_' ∨ c = d := by
  rw [ofChar]
  split
  · rename_i hc
    have hne : c ≠ '_' := by
      rintro rfl
      exact absurd hc (by decide)
    simp [covers, hne]
  · simp [covers]

end LikeToken

/-- Whether a text matches a pattern with wildcards; nothing matches a pattern that ends in an escape. -/
def isLike (text pattern : String) : Bool :=
  (LikeToken.read? pattern.toList).any fun ts => LikeToken.matchesAll ts text.toList

/-- Whether a text occurs as it is written, but for underscores, which stand for any one character. -/
def OccursLoosely (cs text : List Char) : Prop :=
  ∃ part, part <:+: text ∧ List.Forall₂ (fun c d => c = '_' ∨ c = d) cs part

theorem isLike_likePattern {s text : String} :
    isLike text (likePattern s true) = true ↔ OccursLoosely s.toList text.toList := by
  have hne : ∀ t ∈ s.toList.map LikeToken.ofChar, t ≠ .plain '%' := by
    intro t ht
    obtain ⟨c, -, rfl⟩ := List.mem_map.1 ht
    exact LikeToken.ofChar_ne_wildcard c
  rw [isLike, LikeToken.read?_likePattern, Option.any_some, LikeToken.matchesAll_within hne]
  simp only [List.forall₂_map_left_iff, LikeToken.covers_ofChar]
  rfl

example : isLike "at 50% off" (likePattern "50%" true) = true ∧
    isLike "at 50 off" (likePattern "50%" true) = false := by
  decide

/-! ### Underscores -/

namespace OccursLoosely

variable {cs text : List Char}

/-- Without underscores nothing is loose. -/
theorem iff_isInfix (h : '_' ∉ cs) : OccursLoosely cs text ↔ cs <:+: text := by
  constructor
  · intro ⟨part, hpart, hcovers⟩
    have hplain : ∀ c ∈ cs, c ≠ '_' := fun c hc hunderscore => h (hunderscore ▸ hc)
    have hequal : List.Forall₂ (· = ·) cs part :=
      ((List.forall₂_and_left cs part).2 ⟨hplain, hcovers⟩).imp fun c d hc => hc.2.resolve_left hc.1
    rw [List.forall₂_eq_eq_eq] at hequal
    exact hequal ▸ hpart
  · intro hinfix
    exact ⟨cs, hinfix, List.forall₂_same.2 fun c _ => .inr rfl⟩

/-- A text with another character in place of each underscore. -/
def withoutUnderscores (cs : List Char) : List Char :=
  cs.map fun c => if c = '_' then 'x' else c

theorem withoutUnderscores_self (cs : List Char) : OccursLoosely cs (withoutUnderscores cs) := by
  refine ⟨_, List.infix_rfl, ?_⟩
  rw [withoutUnderscores, List.forall₂_map_right_iff, List.forall₂_same]
  intro c _
  by_cases hc : c = '_'
  · exact .inl hc
  · exact .inr (if_neg hc).symm

theorem not_isInfix_withoutUnderscores (h : '_' ∈ cs) : ¬ cs <:+: withoutUnderscores cs := by
  intro hinfix
  have heq := hinfix.eq_of_length (List.length_map _).symm
  rw [heq, withoutUnderscores, List.mem_map] at h
  obtain ⟨c, -, hc⟩ := h
  by_cases hunderscore : c = '_'
  · rw [if_pos hunderscore] at hc
    exact absurd hc (by decide)
  · rw [if_neg hunderscore] at hc
    exact hunderscore hc

/-- A text occurs in just the texts that contain it if it has no underscore, and only then. -/
theorem forall_iff_isInfix :
    (∀ text : String, OccursLoosely cs text.toList ↔ cs <:+: text.toList) ↔ '_' ∉ cs := by
  constructor
  · intro h hmem
    have hplain := (h (String.ofList (withoutUnderscores cs))).1
    rw [String.toList_ofList] at hplain
    exact not_isInfix_withoutUnderscores hmem (hplain (withoutUnderscores_self cs))
  · intro h text
    exact iff_isInfix h

end OccursLoosely

/-! ### Operators -/

/-- Whether a predicate asks nothing else than that fields are like a pattern. -/
def Predicate.AsksLike (pattern : String) : Predicate → Prop
  | .field c => c.comparison = .like ∧ c.arguments = .text pattern
  | .anyOf conditions => ∀ c ∈ conditions, c.comparison = .like ∧ c.arguments = .text pattern

namespace Operator

/-- Whether an operator escapes the values that it looks for. -/
def IsPercentSafe : Operator → Prop
  | .contains _ percentSafe => percentSafe = true
  | .search _ _ percentSafe => percentSafe = true
  | _ => False

variable {op : Operator}

theorem arguments_of_isPercentSafe (hop : op.IsPercentSafe) (value : Scalar) :
    op.arguments value = .text (likePattern value.display true) := by
  cases op with
  | contains params percentSafe =>
    cases hop
    rfl
  | search param fields percentSafe =>
    cases hop
    rfl
  | _ => exact hop.elim

theorem asksLike_of_isPercentSafe (hop : op.IsPercentSafe) (value : Scalar) (field : String) :
    (op.predicate value field).AsksLike (likePattern value.display true) := by
  have harguments := arguments_of_isPercentSafe hop value
  cases op with
  | contains params percentSafe => exact ⟨rfl, harguments⟩
  | search param fields percentSafe =>
    intro condition hcondition
    obtain ⟨f, -, rfl⟩ := List.mem_map.1 hcondition
    exact ⟨rfl, harguments⟩
  | _ => exact hop.elim

/-- **Escaped values match literally but for underscores**: the pattern that a percent-safe operator makes of
a value matches just the texts in which the value occurs, where an underscore of the value stands for any
one character.  So it matches just the texts that contain the value if the value has no underscore, and
only then. -/
theorem isLike_percentSafe (hop : op.IsPercentSafe) (value : Scalar) :
    ∃ pattern, op.arguments value = .text pattern ∧
      (∀ field, (op.predicate value field).AsksLike pattern) ∧
      (∀ text, isLike text pattern = true ↔ OccursLoosely value.display.toList text.toList) ∧
      ((∀ text, isLike text pattern = true ↔ value.display.toList <:+: text.toList) ↔
        '_' ∉ value.display.toList) := by
  refine ⟨likePattern value.display true, arguments_of_isPercentSafe hop value,
    asksLike_of_isPercentSafe hop value, fun text => isLike_likePattern, ?_⟩
  simp only [isLike_likePattern]
  exact OccursLoosely.forall_iff_isInfix

theorem isLike_percentSafe_discount :
    (Operator.search "q" ["title", "body"] true).IsPercentSafe ∧
    ∃ pattern, (Operator.search "q" ["title", "body"] true).arguments (.text "50%\\") = .text pattern ∧
      ∀ text, isLike text pattern = true ↔ "50%\\".toList <:+: text.toList := by
  have hsafe : (Operator.search "q" ["title", "body"] true).IsPercentSafe := rfl
  obtain ⟨pattern, hpattern, -, -, hliteral⟩ := isLike_percentSafe hsafe (.text "50%\\")
  exact ⟨hsafe, pattern, hpattern, hliteral.2 (by decide)⟩

/-- An underscore is no literal character of a pattern. -/
theorem isLike_underscore :
    (Operator.contains ["name"] true).applies (.text "a_b") "name" = true ∧
    ∃ pattern, (Operator.contains ["name"] true).arguments (.text "a_b") = .text pattern ∧
      isLike "axb" pattern = true ∧ ¬ "a_b".toList <:+: "axb".toList :=
  ⟨by decide, _, rfl, by decide, by decide⟩

end Operator

end RequestQuery
