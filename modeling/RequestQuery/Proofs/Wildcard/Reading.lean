import Mathlib.Data.List.Basic
import RequestQuery.Operator.Basic

/-!
# Reading patterns with wildcards

A pattern with wildcards is read from left to right; a backslash makes the character behind it literal.

* `LikeToken`, `LikeToken.read?` — the characters of a pattern, each plain or escaped.
* `LikeToken.read?_escapeLike` — an escaped text is read as its own characters, of which the backslashes and
  the percent signs are escaped.
* `escapeLike_eq_replaceAll` — a text is escaped by two replacements, the one of backslashes first.
* `likePattern_reads` — a text between wildcards is read as just that.
-/

namespace RequestQuery

/-- A character of a pattern with wildcards. -/
inductive LikeToken where
  | plain (c : Char)
  /-- The character stands behind a backslash. -/
  | escaped (c : Char)
deriving DecidableEq

namespace LikeToken

/-- The character, escaped or not. -/
def char : LikeToken → Char
  | .plain c => c
  | .escaped c => c

/-- Whether a character is neither an unescaped percent sign nor an unescaped backslash. -/
def IsLiteral : LikeToken → Prop
  | .plain c => c ≠ '%' ∧ c ≠ '\\'
  | .escaped _ => True

/-- Read a pattern; nothing is read if a backslash dangles at its end. -/
def read? : List Char → Option (List LikeToken)
  | [] => some []
  | ['\\'] => none
  | '\\' :: c :: cs => (read? cs).map (.escaped c :: ·)
  | c :: cs => (read? cs).map (.plain c :: ·)

theorem read?_plain {c : Char} (hc : c ≠ '\\') (cs : List Char) :
    read? (c :: cs) = (read? cs).map (.plain c :: ·) := by
  rw [read?]
  · intro h
    exact absurd h hc
  · intro d ds h
    exact absurd h hc

/-- The character of a text as it is read after it was escaped. -/
def ofChar (c : Char) : LikeToken :=
  if c = '\\' ∨ c = '%' then .escaped c else .plain c

theorem char_ofChar (c : Char) : (ofChar c).char = c := by
  rw [ofChar]
  split <;> rfl

theorem map_char_map_ofChar (cs : List Char) : (cs.map ofChar).map char = cs := by
  rw [List.map_map]
  exact (List.map_congr_left fun c _ => char_ofChar c).trans (List.map_id cs)

theorem isLiteral_ofChar (c : Char) : (ofChar c).IsLiteral := by
  rw [ofChar]
  split
  · trivial
  · rename_i hc
    rw [not_or] at hc
    exact ⟨hc.2, hc.1⟩

/-! ### Escaped texts -/

theorem read?_escapeLikeChar (c : Char) (rest : List Char) :
    read? (escapeLikeChar c ++ rest) = (read? rest).map (ofChar c :: ·) := by
  rw [escapeLikeChar, ofChar]
  by_cases hbackslash : c = '\\'
  · subst hbackslash
    rfl
  · by_cases hpercent : c = '%'
    · subst hpercent
      rfl
    · rw [if_neg hbackslash, if_neg hpercent, if_neg (by simp [hbackslash, hpercent])]
      exact read?_plain hbackslash rest

theorem read?_escapeLike (cs rest : List Char) :
    read? (escapeLike cs ++ rest) = (read? rest).map (cs.map ofChar ++ ·) := by
  induction cs with
  | nil => simp [escapeLike]
  | cons c cs ih =>
    have hcons : escapeLike (c :: cs) = escapeLikeChar c ++ escapeLike cs := List.flatMap_cons
    rw [hcons, List.append_assoc, read?_escapeLikeChar, ih, Option.map_map]
    rfl

/-- A text between wildcards is read as a wildcard, its characters, and a wildcard. -/
theorem read?_likePattern (text : String) :
    read? (likePattern text true).toList = some (.plain '%' :: text.toList.map ofChar ++ [.plain '%']) := by
  have hchars : (likePattern text true).toList = '%' :: (escapeLike text.toList ++ ['%']) := by
    simp [likePattern]
  rw [hchars, read?_plain (by decide), read?_escapeLike]
  rfl

example : read? (likePattern "\\%" true).toList =
    some [.plain '%', .escaped '\\', .escaped '%', .plain '%'] := by
  decide

end LikeToken

/-! ### Two replacements -/

/-- A text with every occurrence of a character replaced. -/
def Text.replaceAll (c : Char) (replacement cs : List Char) : List Char :=
  cs.flatMap fun d => if d = c then replacement else [d]

/-- The backslashes are doubled first, so that those in front of percent signs stay single. -/
theorem escapeLike_eq_replaceAll (cs : List Char) :
    escapeLike cs = Text.replaceAll '%' ['\\', '%'] (Text.replaceAll '\\' ['\\', '\\'] cs) := by
  rw [escapeLike, Text.replaceAll, Text.replaceAll, List.flatMap_assoc]
  congr 1
  funext c
  rw [escapeLikeChar]
  by_cases hc : c = '\\'
  · subst hc
    rfl
  · rw [if_neg hc, if_neg hc, List.flatMap_singleton]

theorem toList_likePattern (text : String) :
    (likePattern text true).toList = '%' ::
      Text.replaceAll '%' ['\\', '%'] (Text.replaceAll '\\' ['\\', '\\'] text.toList) ++ ['%'] := by
  rw [← escapeLike_eq_replaceAll]
  simp [likePattern]

theorem likePattern_injective {text other : String} (h : likePattern other true = likePattern text true) :
    other = text := by
  have hread := LikeToken.read?_likePattern other
  rw [h, LikeToken.read?_likePattern text, Option.some.injEq] at hread
  have hchars := List.append_cancel_right (List.cons.inj hread).2
  have hlist := congrArg (List.map LikeToken.char) hchars
  rw [LikeToken.map_char_map_ofChar, LikeToken.map_char_map_ofChar] at hlist
  exact (String.toList_inj.1 hlist).symm

/-- **A text between wildcards can be read back**: its pattern, in which backslashes are doubled and then
percent signs get a backslash, is a wildcard, the literal characters of the text and a wildcard.  No
backslash dangles, and other texts have other patterns. -/
theorem likePattern_reads (text : String) :
    (likePattern text true).toList = '%' ::
      Text.replaceAll '%' ['\\', '%'] (Text.replaceAll '\\' ['\\', '\\'] text.toList) ++ ['%'] ∧
    (∃ body, LikeToken.read? (likePattern text true).toList = some (.plain '%' :: body ++ [.plain '%']) ∧
      body.map LikeToken.char = text.toList ∧ ∀ t ∈ body, t.IsLiteral) ∧
    ∀ other, likePattern other true = likePattern text true → other = text := by
  have hbody : ∀ t ∈ text.toList.map LikeToken.ofChar, t.IsLiteral := by
    intro t ht
    obtain ⟨c, -, rfl⟩ := List.mem_map.1 ht
    exact LikeToken.isLiteral_ofChar c
  refine ⟨toList_likePattern text, ⟨_, LikeToken.read?_likePattern text, ?_, hbody⟩, ?_⟩
  · exact LikeToken.map_char_map_ofChar text.toList
  · intro other h
    exact likePattern_injective h

end RequestQuery
