import Mathlib.Data.List.Basic
import RequestQuery.Text.Basic

/-!
# Splitting and joining texts

* `splitOn_eq` — the pieces between separators, as lists in general are split.
* `splitOn_append_cons`, `splitOn_intercalate` — the pieces of texts with a separator between them.
* `not_mem_of_mem_splitOn`, `exists_piece_iff` — no piece has a separator in it, and not all are empty if
  there is something else.
* `cut?_eq_some`, `stripStart?_eq_some` — a text that can be cut, or begins in a certain way, in parts.
-/

namespace RequestQuery.Text

theorem splitOn_eq (separator : Char) (cs : List Char) : splitOn separator cs = cs.splitOn separator := by
  induction cs with
  | nil => rfl
  | cons c cs ih =>
    rw [splitOn, List.splitOn_cons_eq_if_modifyHead, ih]
    by_cases hc : c = separator
    · simp [hc]
    · have hne := List.splitOn_ne_nil separator cs
      cases hpieces : cs.splitOn separator with
      | nil => exact absurd hpieces hne
      | cons piece pieces => simp [hc]

theorem splitOn_ne_nil (separator : Char) (cs : List Char) : splitOn separator cs ≠ [] := by
  rw [splitOn_eq]
  exact List.splitOn_ne_nil separator cs

/-- The pieces of a text and of another one behind a separator are those of both. -/
theorem splitOn_append_cons (separator : Char) (a b : List Char) :
    splitOn separator (a ++ separator :: b) = splitOn separator a ++ splitOn separator b := by
  simp only [splitOn_eq, List.splitOn_append_cons_self]

/-- Joined pieces are found again. -/
theorem splitOn_intercalate {separator : Char} {pieces : List (List Char)} (hne : pieces ≠ [])
    (h : ∀ piece ∈ pieces, separator ∉ piece) :
    splitOn separator ([separator].intercalate pieces) = pieces := by
  rw [splitOn_eq, List.splitOn_intercalate separator h hne]

theorem not_mem_of_mem_splitOn {separator : Char} {piece cs : List Char}
    (h : piece ∈ splitOn separator cs) : separator ∉ piece := by
  induction cs generalizing piece with
  | nil =>
    rw [List.mem_singleton.1 h]
    exact List.not_mem_nil
  | cons c cs ih =>
    rw [splitOn] at h
    split at h
    · rcases List.mem_cons.1 h with rfl | h
      · exact List.not_mem_nil
      · exact ih h
    · rename_i hc
      cases hpieces : splitOn separator cs with
      | nil => exact absurd hpieces (splitOn_ne_nil separator cs)
      | cons first pieces =>
        rw [hpieces] at h ih
        rcases List.mem_cons.1 h with rfl | h
        · have hfirst := ih List.mem_cons_self
          simp [hfirst, Ne.symm hc]
        · exact ih (List.mem_cons_of_mem _ h)

/-- Some piece is not empty just if something else than separators is there. -/
theorem exists_piece_iff {separator : Char} {cs : List Char} :
    (∃ piece ∈ splitOn separator cs, piece ≠ []) ↔ ∃ c ∈ cs, c ≠ separator := by
  induction cs with
  | nil => simp [splitOn]
  | cons c cs ih =>
    rw [splitOn]
    by_cases hc : c = separator
    · simp [hc, ih]
    · rw [if_neg hc]
      cases hpieces : splitOn separator cs with
      | nil => exact absurd hpieces (splitOn_ne_nil separator cs)
      | cons piece pieces => simp [hc]

theorem two_le_length_splitOn {separator : Char} {cs : List Char} (h : separator ∈ cs) :
    2 ≤ (splitOn separator cs).length := by
  obtain ⟨before, after, rfl⟩ := List.append_of_mem h
  -- one piece or no piece would join to a text without the separator
  have hjoin : [separator].intercalate ((before ++ separator :: after).splitOn separator) =
      before ++ separator :: after := List.intercalate_splitOn separator
  rw [← splitOn_eq] at hjoin
  rcases hpieces : splitOn separator (before ++ separator :: after) with _ | ⟨piece, _ | ⟨second, pieces⟩⟩
  · exact absurd hpieces (splitOn_ne_nil _ _)
  · rw [hpieces] at hjoin
    have hpiece : piece = before ++ separator :: after := by simpa using hjoin
    have hnot : separator ∉ piece := not_mem_of_mem_splitOn (hpieces ▸ List.mem_singleton_self piece)
    exact absurd (by simp [hpiece]) hnot
  · simp

theorem mem_intercalate {separator c : Char} {pieces : List (List Char)}
    (h : c ∈ [separator].intercalate pieces) : c = separator ∨ ∃ piece ∈ pieces, c ∈ piece := by
  induction pieces with
  | nil => exact absurd h List.not_mem_nil
  | cons piece pieces ih =>
    cases pieces with
    | nil =>
      rw [List.intercalate_singleton] at h
      exact .inr ⟨piece, List.mem_cons_self, h⟩
    | cons second pieces =>
      rw [List.intercalate_cons_cons] at h
      simp only [List.mem_append, List.mem_singleton] at h
      rcases h with (h | h) | h
      · exact .inr ⟨piece, List.mem_cons_self, h⟩
      · exact .inl h
      · rcases ih h with h | ⟨piece', hpiece', hc⟩
        · exact .inl h
        · exact .inr ⟨piece', List.mem_cons_of_mem _ hpiece', hc⟩

theorem cut?_eq_some {separator : Char} {cs before after : List Char} :
    cut? separator cs = some (before, after) ↔ cs = before ++ separator :: after ∧ separator ∉ before := by
  induction cs generalizing before with
  | nil => simp [cut?]
  | cons c cs ih =>
    rw [cut?]
    by_cases hc : c = separator
    · subst hc
      rw [if_pos rfl]
      cases before with
      | nil => simp
      | cons b before =>
        refine iff_of_false nofun fun h => ?_
        -- the separator stands in front already
        obtain ⟨heq, hnot⟩ := h
        cases heq
        exact hnot List.mem_cons_self
    · rw [if_neg hc, Option.map_eq_some_iff]
      constructor
      · rintro ⟨⟨before', after'⟩, hcut, heq⟩
        cases heq
        obtain ⟨rfl, hnot⟩ := ih.1 hcut
        exact ⟨rfl, by simp [hnot, Ne.symm hc]⟩
      · rintro ⟨heq, hnot⟩
        cases before with
        | nil =>
          cases heq
          exact absurd rfl hc
        | cons b before =>
          cases heq
          have hrest : separator ∉ before := fun hmem => hnot (List.mem_cons_of_mem _ hmem)
          exact ⟨(before, after), ih.2 ⟨rfl, hrest⟩, rfl⟩

theorem stripStart?_eq_some {start cs rest : List Char} :
    stripStart? start cs = some rest ↔ cs = start ++ rest := by
  induction start generalizing cs with
  | nil => simp [stripStart?]
  | cons s start ih =>
    cases cs with
    | nil => simp [stripStart?]
    | cons c cs =>
      rw [stripStart?]
      by_cases hs : s = c
      · simp [hs, ih]
      · simp [hs, Ne.symm hs]

end RequestQuery.Text
