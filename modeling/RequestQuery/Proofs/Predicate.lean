import RequestQuery.Operator.Set
import RequestQuery.Proofs.FilterTree
import RequestQuery.Proofs.LastWord

/-!
# What predicates ask for

* `Predicate.argument?`, `Predicate.groups` — the comparison of a field that a predicate makes, and the
  group of alternatives that it gives.
* `FilterTree.argument?_push`, `FilterTree.groups_push` — one more predicate takes precedence over the
  comparisons of a tree, and its group stands behind the others.
* `FilterTree.argument?_ofPredicate`, `FilterTree.groups_ofPredicate` — the tree of one predicate holds
  just that.
* `FilterTree.argument?_ofPredicates`, `FilterTree.groups_ofPredicates` — of several predicates, the last
  one decides on the arguments of a comparison, and each gives its group.
* `OperatorSet.Dispatches`, `OperatorSet.predicate_ok`, `OperatorSet.exists_dispatches` — a value asks for
  what the first operator that understands it makes of it.
* `OperatorSet.Rejects`, `OperatorSet.predicate_error` — a value asks for nothing just if no operator
  understands it.
* `OperatorSet.AlwaysAsks`, `OperatorSet.alwaysAsks`, `OperatorSet.predicate_asks` — operators that settings can
  declare never ask for one of no alternatives.
* `OperatorSet.predicate_map_functions` — operators of any type ask for the same as what they do on their own.
-/

namespace RequestQuery

/-- What a predicate compares a field with, for one comparison. -/
def Predicate.argument? (field : String) (c : Comparison) : Predicate → Option Arguments
  | .field condition =>
    if condition.field = field ∧ condition.comparison = c then some condition.arguments else none
  | .anyOf _ => none

/-- The group of alternatives of a predicate, as a list; without alternatives there is none. -/
def Predicate.groups : Predicate → List ConditionMap
  | .field _ => []
  | .anyOf [] => []
  | .anyOf (c :: cs) => [FilterTree.groupOf (c :: cs)]

/-- Whether a predicate asks for anything: some alternative, if it gives alternatives. -/
def Predicate.Asks : Predicate → Prop
  | .field _ => True
  | .anyOf conditions => conditions ≠ []

/-- The group of some alternatives. -/
theorem Predicate.groups_anyOf {conditions : List Condition} (h : conditions ≠ []) :
    (Predicate.anyOf conditions).groups = [FilterTree.groupOf conditions] := by
  obtain ⟨c, cs, rfl⟩ := List.exists_cons_of_ne_nil h
  rfl

/-- A predicate that asks for something makes a comparison or gives a group. -/
theorem Predicate.argument_or_group {p : Predicate} (h : p.Asks) :
    (∃ field c, (p.argument? field c).isSome = true) ∨ p.groups ≠ [] := by
  cases p with
  | field condition =>
    refine .inl ⟨condition.field, condition.comparison, ?_⟩
    rw [argument?, if_pos ⟨rfl, rfl⟩]
    rfl
  | anyOf conditions =>
    rw [groups_anyOf h]
    exact .inr (List.cons_ne_nil _ _)

theorem Predicate.length_groups_le (p : Predicate) : p.groups.length ≤ 1 := by
  cases p with
  | field condition => exact Nat.zero_le 1
  | anyOf conditions => cases conditions <;> simp [groups]

namespace FilterTree

/-! ### One condition -/

theorem get?_push (fields : ConditionMap) (c : Condition) (field : String) :
    (fields.push c).get? field
      = if field = c.field then
          some (((fields.get? c.field).getD ∅).insert c.comparison c.arguments)
        else fields.get? field :=
  SortedMap.get?_upsert fields c.field field _

theorem groupOf_concat (conditions : List Condition) (c : Condition) :
    groupOf (conditions ++ [c]) = (groupOf conditions).push c :=
  List.foldl_append

/-- A group of some conditions is not empty. -/
theorem isEmpty_groupOf {conditions : List Condition} (h : conditions ≠ []) :
    (groupOf conditions).isEmpty = false := by
  induction conditions using List.reverseRecOn with
  | nil => exact absurd rfl h
  | append_singleton conditions c _ =>
    rw [groupOf_concat]
    exact SortedMap.isEmpty_upsert _ _ _

/-! ### One more predicate -/

theorem fields_push_anyOf (t : FilterTree) (conditions : List Condition) :
    (t.push (.anyOf conditions)).fields = t.fields := by
  rw [push]
  split <;> rfl

theorem get?_push_field (t : FilterTree) (c : Condition) (field : String) :
    (t.push (.field c)).get? field
      = if field = c.field then some (((t.get? c.field).getD ∅).insert c.comparison c.arguments)
        else t.get? field :=
  get?_push t.fields c field

/-- A new predicate takes precedence over what a tree compares a field with. -/
theorem argument?_push (t : FilterTree) (p : Predicate) (field : String) (c : Comparison) :
    (t.push p).argument? field c = (p.argument? field c).or (t.argument? field c) := by
  cases p with
  | anyOf conditions =>
    rw [argument?, FilterTree.get?, fields_push_anyOf]
    rfl
  | field condition =>
    rw [argument?, get?_push_field, Predicate.argument?]
    by_cases hfield : field = condition.field
    · subst hfield
      rw [if_pos rfl, Option.bind_some, SortedMap.get?_insert]
      by_cases hc : c = condition.comparison
      · simp [hc]
      · have hc' : condition.comparison ≠ c := fun heq => hc heq.symm
        simp only [hc, hc', and_false, if_false, Option.none_or, argument?]
        cases t.get? condition.field <;> rfl
    · have hfield' : condition.field ≠ field := fun heq => hfield heq.symm
      simp only [hfield, hfield', false_and, if_false, Option.none_or, argument?]

theorem isSome_get?_push (t : FilterTree) (p : Predicate) (field : String) :
    ((t.push p).get? field).isSome = true ↔
      (∃ c, (p.argument? field c).isSome = true) ∨ (t.get? field).isSome = true := by
  cases p with
  | anyOf conditions =>
    rw [FilterTree.get?, fields_push_anyOf]
    simp [Predicate.argument?, FilterTree.get?]
  | field condition =>
    rw [get?_push_field]
    by_cases hfield : field = condition.field
    · simp [Predicate.argument?, hfield]
    · have hfield' : condition.field ≠ field := fun heq => hfield heq.symm
      simp [Predicate.argument?, hfield, hfield']

/-- A group of a tree with one more predicate is an old one, or the group of the predicate, which is not
empty then. -/
theorem mem_groups_push {t : FilterTree} {p : Predicate} {g : ConditionMap} (h : g ∈ (t.push p).groups) :
    g ∈ t.groups ∨ ∃ conditions, p = .anyOf conditions ∧ g = groupOf conditions ∧ g.isEmpty = false := by
  cases p with
  | field c => exact .inl h
  | anyOf conditions =>
    rw [push] at h
    split at h
    · exact .inl h
    · rename_i hgroup
      refine (List.mem_append.1 h).imp_right fun hg => ?_
      obtain rfl := List.mem_singleton.1 hg
      exact ⟨conditions, rfl, rfl, Bool.eq_false_iff.2 hgroup⟩

theorem groups_push (t : FilterTree) (p : Predicate) : (t.push p).groups = t.groups ++ p.groups := by
  cases p with
  | field condition => exact (List.append_nil _).symm
  | anyOf conditions =>
    cases conditions with
    | nil => exact (List.append_nil _).symm
    | cons c cs =>
      have hsome := isEmpty_groupOf (List.cons_ne_nil c cs)
      simp [push, hsome, Predicate.groups]

/-! ### The tree of one predicate -/

theorem argument?_ofPredicate (p : Predicate) (field : String) (c : Comparison) :
    (ofPredicate p).argument? field c = p.argument? field c :=
  (argument?_push ∅ p field c).trans Option.or_none

/-- The tree of one predicate has a field just if the predicate compares it. -/
theorem isSome_get?_ofPredicate (p : Predicate) (field : String) :
    ((ofPredicate p).get? field).isSome = true ↔ ∃ c, (p.argument? field c).isSome = true :=
  (isSome_get?_push ∅ p field).trans (or_iff_left nofun)

theorem groups_ofPredicate (p : Predicate) : (ofPredicate p).groups = p.groups :=
  groups_push ∅ p

/-! ### The tree of several predicates -/

theorem ofPredicates_concat (ps : List Predicate) (p : Predicate) :
    ofPredicates (ps ++ [p]) = (ofPredicates ps).push p :=
  List.foldl_append

/-- The last predicate that makes a comparison gives the arguments. -/
theorem argument?_ofPredicates {ps : List Predicate} {field : String} {c : Comparison}
    {arguments : Arguments} :
    (ofPredicates ps).argument? field c = some arguments ↔
      LastWord (fun p arguments => p.argument? field c = some arguments) ps arguments := by
  induction ps using List.reverseRecOn with
  | nil => exact iff_of_false nofun lastWord_nil
  | append_singleton ps p ih =>
    rw [ofPredicates_concat, argument?_push, lastWord_concat, ← ih]
    cases p.argument? field c <;> simp

/-- A field occurs only with a comparison. -/
theorem isSome_get?_ofPredicates {ps : List Predicate} {field : String} :
    ((ofPredicates ps).get? field).isSome = true ↔
      ∃ c, ((ofPredicates ps).argument? field c).isSome = true := by
  induction ps using List.reverseRecOn with
  | nil => exact iff_of_false nofun nofun
  | append_singleton ps p ih =>
    simp only [ofPredicates_concat, isSome_get?_push, argument?_push, Option.isSome_or, Bool.or_eq_true,
      exists_or, ih]

theorem groups_ofPredicates (ps : List Predicate) :
    (ofPredicates ps).groups = ps.flatMap Predicate.groups := by
  induction ps using List.reverseRecOn with
  | nil => rfl
  | append_singleton ps p ih =>
    rw [ofPredicates_concat, groups_push, ih, List.flatMap_append, List.flatMap_singleton]

end FilterTree

/-! ### Operators -/

/-- An operator that understands a value asks for something. -/
theorem Operator.predicate_asks {op : Operator} {value : Scalar} {param : String}
    (h : op.applies value param = true) (field : String) : (op.predicate value field).Asks := by
  cases op with
  | search searchParam fields percentSafe =>
    have hfields : fields.isEmpty = false := by
      rw [applies, Bool.and_eq_true, Bool.not_eq_true'] at h
      exact h.2
    show fields.map _ ≠ []
    rw [Ne, List.map_eq_nil_iff]
    rintro rfl
    cases hfields
  | _ => trivial

namespace OperatorSet

open OperatorLike

variable {ω : Type} [OperatorLike ω] {ops : OperatorSet ω} {value : Scalar} {field param : String}

/-- The first operator that understands the value that a parameter gives for a field. -/
def Dispatches (ops : OperatorSet ω) (value : Scalar) (field param : String) (op : ω) : Prop :=
  (functions op).applies value field param = true ∧
    ∃ before after, ops = before ++ op :: after ∧
      ∀ other ∈ before, (functions other).applies value field param = false

theorem Dispatches.mem {op : ω} (h : ops.Dispatches value field param op) : op ∈ ops := by
  obtain ⟨-, before, after, rfl, -⟩ := h
  simp

/-- What a value asks for is what the operator makes of it that it is dispatched to. -/
theorem predicate_ok {p : Predicate} :
    ops.predicate value field param = .ok p ↔
      ∃ op, ops.Dispatches value field param op ∧ (functions op).predicate value field param = p := by
  have hfind : ∀ op, (ops.find? fun op => (functions op).applies value field param) = some op ↔
      ops.Dispatches value field param op := by
    intro op
    rw [List.find?_eq_some_iff_append, Dispatches]
    simp only [Bool.not_eq_true']
  simp only [← hfind]
  unfold predicate resolve
  cases ops.find? fun op => (functions op).applies value field param with
  | none => exact iff_of_false nofun (by simp)
  | some op => simp [Except.map]

/-- Whether no operator understands the value that a parameter gives for a field. -/
def Rejects (ops : OperatorSet ω) (value : Scalar) (field param : String) : Prop :=
  ∀ op ∈ ops, (functions op).applies value field param = false

theorem predicate_error {e : QueryError} :
    ops.predicate value field param = .error e ↔
      ops.Rejects value field param ∧ e = .noOperator param field := by
  unfold predicate resolve Rejects
  cases hop : ops.find? fun op => (functions op).applies value field param with
  | none =>
    have hnone : ∀ op ∈ ops, (functions op).applies value field param = false := by
      simpa using List.find?_eq_none.1 hop
    constructor
    · intro h
      cases h
      exact ⟨hnone, rfl⟩
    · intro h
      rw [h.2]
      rfl
  | some op =>
    have happlies := List.find?_some hop
    constructor
    · nofun
    · intro h
      have hnot := h.1 op (List.mem_of_find?_eq_some hop)
      exact absurd happlies (by simp [hnot])

/-- A value that some operator understands is not rejected. -/
theorem not_rejects_of_applies {op : ω} (hop : op ∈ ops)
    (h : (functions op).applies value field param = true) : ¬ ops.Rejects value field param := by
  intro hrejects
  rw [hrejects op hop] at h
  cases h

/-- A value that some operator understands is dispatched. -/
theorem exists_dispatches {op : ω} (hop : op ∈ ops)
    (h : (functions op).applies value field param = true) :
    ∃ op', ops.Dispatches value field param op' := by
  cases hp : ops.predicate value field param with
  | ok p =>
    obtain ⟨op', hop', -⟩ := predicate_ok.1 hp
    exact ⟨op', hop'⟩
  | error e => exact absurd (predicate_error.1 hp).1 (not_rejects_of_applies hop h)

/-! ### Operators that ask for something -/

/-- Whether operators ask for something whenever they understand a value. -/
def AlwaysAsks (ops : OperatorSet ω) : Prop :=
  ∀ op ∈ ops, ∀ value field param, (functions op).applies value field param = true →
    ((functions op).predicate value field param).Asks

/-- What the value of a parameter asks for is not empty. -/
theorem predicate_asks (hasks : ops.AlwaysAsks) {p : Predicate}
    (h : ops.predicate value field param = .ok p) : p.Asks := by
  obtain ⟨op, hop, rfl⟩ := predicate_ok.1 h
  exact hasks op hop.mem value field param hop.1

/-- Operators that settings can declare always ask for something. -/
theorem alwaysAsks (ops : OperatorSet) : ops.AlwaysAsks :=
  fun _ _ _ field _ h => Operator.predicate_asks h field

/-! ### Operators and what they do -/

/-- **Operators are no more than what they do**: the records of their functions ask for the same. -/
theorem predicate_map_functions (ops : OperatorSet ω) (value : Scalar) (field param : String) :
    OperatorSet.predicate (ops.map functions) value field param = ops.predicate value field param := by
  have hfind : (ops.map functions).find? (fun op => (functions op).applies value field param)
      = (ops.find? fun op => (functions op).applies value field param).map functions := by
    rw [List.find?_map]
    rfl
  unfold predicate resolve
  rw [hfind]
  cases ops.find? fun op => (functions op).applies value field param <;> rfl

theorem extraFields_map_functions (ops : OperatorSet ω) (allowed : List String) :
    OperatorSet.extraFields (ops.map functions) allowed = ops.extraFields allowed :=
  List.flatMap_map ..

end OperatorSet

end RequestQuery
