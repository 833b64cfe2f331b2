import RequestQuery.Proofs.Operator.Grammar

/-!
# What accepted values leave to compare with

An operator decides on a whole text, and trims and splits it afterwards.  What it takes away then may be all
there is.

* `Arguments.IsFilled` — arguments that are not empty, and have no empty part.
* `Comparison.LeavesContent` — what must stand behind the marker of a comparison so that its arguments are
  filled.
* `ValueEncoding.isFilled_range`, `ValueEncoding.isFilled_one`, `ValueEncoding.isFilled_number`,
  `InList.isFilled_items` — where the arguments of each kind of operator are filled.
* `OperatorSet.isFilled_iff` — the standard operators but equality extract filled arguments from the texts
  they understand just where content is left.
* `OperatorSet.not_isFilled_of_blanks` — they also understand texts that leave nothing.
-/

namespace RequestQuery

/-- Whether arguments are not empty and have no empty part. -/
def Arguments.IsFilled : Arguments → Prop
  | .value _ => True
  | .text s => s ≠ ""
  | .range lower upper => lower ≠ "" ∧ upper ≠ ""
  | .list items => items ≠ []

instance : DecidablePred Arguments.IsFilled
  | .value _ => inferInstanceAs (Decidable True)
  | .text s => inferInstanceAs (Decidable (s ≠ ""))
  | .range lower upper => inferInstanceAs (Decidable (lower ≠ "" ∧ upper ≠ ""))
  | .list items => inferInstanceAs (Decidable (items ≠ []))

/-- Whether the text behind the marker of a comparison leaves something to compare with: both ends of a
range, an excluded value, or an item of a list.  A number always does. -/
def Comparison.LeavesContent (rest : List Char) : Comparison → Prop
  | .between | .notBetween =>
    ∃ lower upper, rest = lower ++ '|' :: upper ∧ '|' ∉ lower ∧ Text.HasContent lower ∧ Text.HasContent upper
  | .notEqual => Text.HasContent rest
  | .oneOf => ∃ c ∈ rest, c ≠ ','
  | _ => True

/-! ### Value-encoded operators -/

namespace ValueEncoding

variable {e : ValueEncoding} {s : String} {rest : List Char}

theorem isFilled_range (he : e.arity = .two) (hs : s.toList = e.marker.toList ++ rest) (h : IsRange rest) :
    (e.arguments s).IsFilled ↔ Comparison.LeavesContent rest .between := by
  obtain ⟨a, b, ⟨-, ha⟩, -, rfl⟩ := h
  obtain ⟨htrim, hstart⟩ := trim_range ha b
  have hlower : String.ofList (Text.trimStart a) ≠ "" ↔ Text.HasContent a :=
    String.ofList_eq_empty_iff.not.trans Text.trimStart_ne_nil
  have hupper : String.ofList (Text.trimEnd b) ≠ "" ↔ Text.HasContent b :=
    String.ofList_eq_empty_iff.not.trans Text.trimEnd_ne_nil
  rw [arguments_range e he hs htrim hstart]
  show String.ofList (Text.trimStart a) ≠ "" ∧ String.ofList (Text.trimEnd b) ≠ "" ↔ _
  rw [hlower, hupper]
  constructor
  · intro ⟨hlower, hupper⟩
    exact ⟨a, b, rfl, ha, hlower, hupper⟩
  · intro ⟨lower, upper, hcut, hnot, hlower, hupper⟩
    -- a text has one first separator
    have hsame := (Text.cut?_eq_some.2 ⟨rfl, ha⟩).symm.trans (Text.cut?_eq_some.2 ⟨hcut, hnot⟩)
    cases hsame
    exact ⟨hlower, hupper⟩

theorem isFilled_one (he : e.arity = .one) (hs : s.toList = e.marker.toList ++ rest) :
    (e.arguments s).IsFilled ↔ Text.HasContent rest := by
  rw [arguments_one e he hs]
  exact String.ofList_eq_empty_iff.not.trans Text.trim_ne_nil

/-- A point and a digit are no blanks. -/
theorem isFilled_number (he : e.arity = .one) (hs : s.toList = e.marker.toList ++ rest) (h : IsNumber rest) :
    (e.arguments s).IsFilled := by
  obtain ⟨c, digits, hc, -, rfl⟩ := h
  refine (isFilled_one he hs).2 ⟨c, List.mem_cons_self, ?_⟩
  rcases hc with rfl | hc
  · decide
  · exact Text.isBlank_of_isDecimalDigit hc

end ValueEncoding

/-! ### Lists of values -/

theorem InList.isFilled_items {s : String} {rest : List Char} (hs : s.toList = InList.marker.toList ++ rest)
    (h : IsItems rest) : (Arguments.list (InList.items s)).IsFilled ↔ ∃ c ∈ rest, c ≠ ',' := by
  rw [InList.items_of_isItems hs h, ← Text.splitOn_eq, ← Text.exists_piece_iff]
  show (_ : List String) ≠ [] ↔ _
  rw [Ne, List.map_eq_nil_iff, List.filter_eq_nil_iff]
  simp

/-! ### The standard operators -/

namespace OperatorSet

/-- **Arguments are filled just where content is left**: of a text that a standard operator but equality
understands, the part behind its marker decides whether something is left to compare with. -/
theorem isFilled_iff {op : Operator} {s param : String} (hop : op ∈ standard) (hne : op ≠ .identity)
    (h : op.applies (.text s) param = true) :
    ∃ rest, s.toList = op.name.toList ++ rest ∧
      ((op.arguments (.text s)).IsFilled ↔ op.comparison.LeavesContent rest) := by
  rcases mem_standard.1 hop with ⟨m, hm, rfl⟩ | ⟨m, hm, rfl⟩ | rfl | rfl | rfl
  · obtain ⟨rest, hs, hrest⟩ := ValueEncoding.accepts_range.1 h
    have hfilled := ValueEncoding.isFilled_range (e := ⟨m.1, m.2, rangePattern m.1, .two⟩) rfl hs hrest
    simp only [rangeMarkers, List.mem_cons, List.not_mem_nil, or_false] at hm
    refine ⟨rest, hs, ?_⟩
    rcases hm with rfl | rfl
    · exact hfilled
    · exact hfilled
  · obtain ⟨rest, hs, hrest⟩ := ValueEncoding.accepts_number.1 h
    have hfilled := ValueEncoding.isFilled_number (e := ⟨m.1, m.2, numberPattern m.1, .one⟩) rfl hs hrest
    simp only [numberMarkers, List.mem_cons, List.not_mem_nil, or_false] at hm
    refine ⟨rest, hs, iff_of_true hfilled ?_⟩
    rcases hm with rfl | rfl | rfl | rfl <;> trivial
  · obtain ⟨rest, hs, -⟩ := ValueEncoding.accepts_any.1 h
    have hfilled := ValueEncoding.isFilled_one (e := ⟨"!", .notEqual, anyPattern "!", .one⟩) rfl hs
    exact ⟨rest, hs, hfilled⟩
  · obtain ⟨rest, hs, hrest⟩ := InList.accepts_iff.1 h
    exact ⟨rest, hs, InList.isFilled_items hs hrest⟩
  · exact absurd rfl hne

theorem isFilled_iff_prices :
    notBetweenOperator.applies (.text "!<> 1| 9 ") "price" = true ∧
      (notBetweenOperator.arguments (.text "!<> 1| 9 ")).IsFilled := by
  have happlies : notBetweenOperator.applies (.text "!<> 1| 9 ") "price" = true := by
    decide +kernel
  obtain ⟨rest, hrest, hfilled⟩ := isFilled_iff notBetween_mem_standard nofun happlies
  have hsplit : "!<>".toList ++ [' ', '1', '|', ' ', '9', ' '] = "!<>".toList ++ rest := hrest
  obtain rfl := List.append_cancel_left hsplit
  have hcontent : Comparison.LeavesContent [' ', '1', '|', ' ', '9', ' '] .notBetween :=
    ⟨[' ', '1'], [' ', '9', ' '], rfl, by decide, ⟨'1', by decide⟩, ⟨'9', by decide⟩⟩
  exact ⟨happlies, hfilled.2 hcontent⟩

/-- A range, an excluded value and a list without any content are understood. -/
theorem not_isFilled_of_blanks :
    (notEqualOperator.applies (.text "! ") "status" = true ∧
      ¬ (notEqualOperator.arguments (.text "! ")).IsFilled) ∧
    ((rangeOperator "<>" .between).applies (.text "<> |9") "price" = true ∧
      ¬ ((rangeOperator "<>" .between).arguments (.text "<> |9")).IsFilled) ∧
    (Operator.inList.applies (.text "<<>>,") "code" = true ∧
      ¬ (Operator.inList.arguments (.text "<<>>,")).IsFilled) := by
  decide +kernel

end OperatorSet

end RequestQuery
