import RequestQuery.Proofs.Operator.Grammar

/-!
# The order of the standard operators

A value asks for what the first operator makes of it that understands it, so the order of operators matters
wherever two of them understand the same value.

* `OperatorSet.Dispatches.idxOf_le` — a value is dispatched to the foremost operator that understands it.
* `OperatorSet.arranged_of_perm` — an order with equality last, and with excluded ranges tried before
  excluded values, arranges the standard operators.
* `OperatorSet.dispatches_of_agrees` — an order that asks for the same as the standard one dispatches some
  text to each operator.
* `OperatorSet.perm_standard_agrees_iff` — the standard operators may be tried in just these orders.
-/

namespace RequestQuery

namespace OperatorSet

variable {ops : OperatorSet}

/-- A value is dispatched to the foremost operator that understands it. -/
theorem Dispatches.idxOf_le {value : Scalar} {field param : String} {op op' : Operator}
    (h : ops.Dispatches value field param op) (h' : op'.applies value param = true) :
    ops.idxOf op ≤ ops.idxOf op' := by
  obtain ⟨-, before, after, rfl, hbefore⟩ := h
  have hnot : op' ∉ before := by
    intro hmem
    rw [← op'.applies_functions value field, hbefore op' hmem] at h'
    cases h'
  have hle : (before ++ op :: after).idxOf op ≤ before.length := by
    rw [List.idxOf_append]
    split
    · rename_i hop
      exact (List.idxOf_lt_length_iff.2 hop).le
    · simp
  rw [List.idxOf_append_of_notMem hnot]
  omega

/-- Nothing stands behind the last operator. -/
theorem idxOf_le_of_getLast? (hnodup : ops.Nodup) {op op' : Operator} (h : ops.getLast? = some op)
    (hop' : op' ∈ ops) : ops.idxOf op' ≤ ops.idxOf op := by
  obtain ⟨before, rfl⟩ := List.getLast?_eq_some_iff.1 h
  have hnot : op ∉ before := by
    intro hmem
    exact (List.nodup_append.1 hnodup).2.2 op hmem op (List.mem_singleton_self op) rfl
  have hlt := List.idxOf_lt_length_of_mem hop'
  rw [List.length_append, List.length_singleton] at hlt
  rw [List.idxOf_append_of_notMem hnot, List.idxOf_cons_self]
  omega

/-! ### Orders that arrange the operators -/

/-- Equality last and excluded ranges before excluded values: no other two operators are compared. -/
theorem arranged_of_perm (h : ops.Perm standard) (hlast : ops.getLast? = some .identity)
    (hrange : ops.idxOf notBetweenOperator < ops.idxOf notEqualOperator) : Arranged ops where
  mem _ := h.mem_iff
  order := by
    have hnodup : ops.Nodup := h.nodup_iff.2 nodup_standard
    rw [List.pairwise_iff_getElem]
    intro i j hi hj hij
    have hmem (k : Nat) (hk : k < ops.length) : ops[k] ∈ standard := h.mem_iff.1 (List.getElem_mem hk)
    constructor
    · intro hidentity
      have hle := idxOf_le_of_getLast? hnodup hlast (List.getElem_mem hj)
      rw [← hidentity, hnodup.idxOf_getElem, hnodup.idxOf_getElem] at hle
      omega
    · intro ⟨hvalue, hexcluded⟩
      have hi' : ops[i] = notEqualOperator := eq_of_comparison_eq (hmem i hi) notEqual_mem_standard hvalue
      have hj' : ops[j] = notBetweenOperator :=
        eq_of_comparison_eq (hmem j hj) notBetween_mem_standard hexcluded
      rw [← hi', ← hj', hnodup.idxOf_getElem, hnodup.idxOf_getElem] at hrange
      omega

/-- Sets of standard operators that are arranged ask the same of every value. -/
theorem Arranged.agrees (h : Arranged ops) (value : Scalar) (field param : String) :
    ops.predicate value field param = standard.predicate value field param := by
  obtain ⟨c, a, hreads⟩ := value.exists_reads
  rw [h.predicate_of_reads hreads, arranged_standard.predicate_of_reads hreads]

/-! ### Orders that ask for the same -/

/-- What may stand behind the name of an operator in a text that it understands. -/
def sampleRests : List String :=
  ["0|1", "0"]

/-- Each standard operator is the first to understand a text that its name begins. -/
theorem find?_standard : ∀ op ∈ standard, ∃ rest ∈ sampleRests,
    (standard.find? fun other => (OperatorLike.functions other).applies (.text (op.name ++ rest)) "" "")
      = some op := by
  decide +kernel

/-- The sample of the excluded range is also an excluded value. -/
theorem notEqual_applies : ∀ rest ∈ sampleRests,
    notEqualOperator.applies (.text (notBetweenOperator.name ++ rest)) "" = true := by
  decide +kernel

section

variable (h : ops.Perm standard)
  (hagree : ∀ value field param, ops.predicate value field param = standard.predicate value field param)

include h hagree

/-- Operators that ask for the same as the standard set are each dispatched their own sample. -/
theorem dispatches_of_agrees {op : Operator} (hop : op ∈ standard) :
    ∃ rest ∈ sampleRests, ops.Dispatches (.text (op.name ++ rest)) "" "" op := by
  obtain ⟨rest, hrest, hfind⟩ := find?_standard op hop
  refine ⟨rest, hrest, ?_⟩
  have hstandard : standard.predicate (.text (op.name ++ rest)) "" "" =
      .ok (op.predicate (.text (op.name ++ rest)) "") := by
    unfold predicate resolve
    rw [hfind]
    rfl
  obtain ⟨op', hdispatches, hpredicate⟩ := predicate_ok.1 ((hagree _ _ _).trans hstandard)
  have hop' : op' ∈ standard := h.mem_iff.1 hdispatches.mem
  rw [Operator.predicate_functions, predicate_eq hop', predicate_eq hop, Predicate.field.injEq,
    Condition.mk.injEq] at hpredicate
  obtain rfl := eq_of_comparison_eq hop' hop hpredicate.2.1
  exact hdispatches

/-- Equality understands also the sample of the last operator, so it is the last one itself. -/
theorem getLast?_of_agrees : ops.getLast? = some .identity := by
  have hidentity : Operator.identity ∈ ops := h.mem_iff.2 identity_mem_standard
  obtain ⟨op, hlast⟩ := Option.isSome_iff_exists.1 (List.getLast?_isSome.2 (List.ne_nil_of_mem hidentity))
  have hop : op ∈ ops := List.mem_of_getLast? hlast
  obtain ⟨rest, -, hdispatches⟩ := dispatches_of_agrees h hagree (h.mem_iff.1 hop)
  have happlies : Operator.identity.applies (.text (op.name ++ rest)) "" = true := rfl
  have hle := hdispatches.idxOf_le happlies
  have hge := idxOf_le_of_getLast? (h.nodup_iff.2 nodup_standard) hlast hidentity
  rw [hlast, (List.idxOf_inj hop).1 (Nat.le_antisymm hle hge)]

theorem idxOf_lt_of_agrees : ops.idxOf notBetweenOperator < ops.idxOf notEqualOperator := by
  obtain ⟨rest, hrest, hdispatches⟩ := dispatches_of_agrees h hagree notBetween_mem_standard
  have hle := hdispatches.idxOf_le (notEqual_applies rest hrest)
  have hne : ops.idxOf notBetweenOperator ≠ ops.idxOf notEqualOperator := by
    intro heq
    have hsame := (List.idxOf_inj (h.mem_iff.2 notBetween_mem_standard)).1 heq
    exact absurd hsame (by decide)
  omega

end

/-- **The order of the standard operators matters only in two places**: an order of them asks for the same
as the standard one just if equality is last and excluded ranges are tried before excluded values.  For no
two others does it matter, because no text is understood by both. -/
theorem perm_standard_agrees_iff (h : ops.Perm standard) :
    ((ops.getLast? = some .identity ∧ ops.idxOf notBetweenOperator < ops.idxOf notEqualOperator) ↔
      ∀ value field param, ops.predicate value field param = standard.predicate value field param) ∧
    ∀ s param, ∀ op ∈ standard, ∀ op' ∈ standard, op ≠ .identity → op' ≠ .identity →
      op.applies (.text s) param = true → op'.applies (.text s) param = true →
      op = op' ∨ (op = notBetweenOperator ∧ op' = notEqualOperator) ∨
        (op = notEqualOperator ∧ op' = notBetweenOperator) := by
  refine ⟨⟨?_, ?_⟩, ?_⟩
  · intro ⟨hlast, hrange⟩
    exact (arranged_of_perm h hlast hrange).agrees
  · intro hagree
    exact ⟨getLast?_of_agrees h hagree, idxOf_lt_of_agrees h hagree⟩
  · intro s param op hop op' hop' hne hne' happlies happlies'
    exact applies_together hop hop' hne hne' happlies happlies'

/-- The standard operators with lists and excluded values in front. -/
def exclusionsFirst : OperatorSet :=
  [.inList, notBetweenOperator, notEqualOperator, numberOperator ":<" .lessOrEqual,
    numberOperator "<" .less, numberOperator ":>" .greaterOrEqual, numberOperator ">" .greater,
    rangeOperator "<>" .between, .identity]

theorem perm_standard_agrees_iff_exclusionsFirst :
    exclusionsFirst.Perm standard ∧
      (exclusionsFirst.getLast? = some .identity ∧
        exclusionsFirst.idxOf notBetweenOperator < exclusionsFirst.idxOf notEqualOperator) ∧
      ∀ value field param,
        exclusionsFirst.predicate value field param = standard.predicate value field param := by
  have hperm : exclusionsFirst.Perm standard := by decide
  have hordered : exclusionsFirst.getLast? = some .identity ∧
      exclusionsFirst.idxOf notBetweenOperator < exclusionsFirst.idxOf notEqualOperator := by decide
  exact ⟨hperm, hordered, (perm_standard_agrees_iff hperm).1.1 hordered⟩

end OperatorSet

end RequestQuery
