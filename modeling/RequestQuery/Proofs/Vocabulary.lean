import RequestQuery.Filter
import RequestQuery.Proofs.Except
import RequestQuery.Proofs.FilterTree
import RequestQuery.Proofs.Predicate

/-!
# Conditions within a vocabulary

A vocabulary says which fields conditions may name outside and inside groups of alternatives, and which
comparisons they may make.

* `Vocabulary`, `Predicate.Within`, `FilterTree.Within` — conditions that keep to a vocabulary.
* `FilterTree.Within.push`, `FilterTree.Within.mergeMissing` — pushing and merging add no word.
* `OperatorSet.vocabulary`, `OperatorSet.predicate_within` — what a value asks for names the field it is
  given for or fields that an operator searches, whatever the value is.
* `simpleTree_within` — the conditions on the root model name the fields of filters.
-/

namespace RequestQuery

/-- The words that conditions may be made of. -/
structure Vocabulary where
  /-- The fields outside groups of alternatives. -/
  named : String → Prop
  /-- The fields inside groups of alternatives. -/
  searched : String → Prop
  compared : Comparison → Prop

/-- Whether all fields and comparisons are words. -/
def ConditionMap.Within (isField : String → Prop) (isComparison : Comparison → Prop)
    (fields : ConditionMap) : Prop :=
  ∀ field conditions, fields.get? field = some conditions →
    isField field ∧ ∀ c, (conditions.get? c).isSome = true → isComparison c

/-- Whether a predicate keeps to a vocabulary. -/
def Predicate.Within (v : Vocabulary) : Predicate → Prop
  | .field c => v.named c.field ∧ v.compared c.comparison
  | .anyOf conditions => ∀ c ∈ conditions, v.searched c.field ∧ v.compared c.comparison

/-- A tree that keeps to a vocabulary. -/
structure FilterTree.Within (v : Vocabulary) (t : FilterTree) : Prop where
  fields : t.fields.Within v.named v.compared
  groups : ∀ g ∈ t.groups, ConditionMap.Within v.searched v.compared g

namespace ConditionMap.Within

variable {isField : String → Prop} {isComparison : Comparison → Prop} {fields : ConditionMap}

theorem empty : ConditionMap.Within isField isComparison ∅ := by
  intro field conditions h
  cases h

theorem mono {isField' : String → Prop} (h : fields.Within isField isComparison)
    (hsub : ∀ field, isField field → isField' field) : fields.Within isField' isComparison := by
  intro field conditions hget
  obtain ⟨hfield, hcomparisons⟩ := h field conditions hget
  exact ⟨hsub field hfield, hcomparisons⟩

/-- The comparisons of a field are words, also where the field is absent. -/
theorem isComparison_of_getD (h : fields.Within isField isComparison) {field : String} {c : Comparison}
    (hc : (SortedMap.get? ((fields.get? field).getD ∅) c).isSome = true) : isComparison c := by
  cases hold : fields.get? field with
  | none =>
    rw [hold] at hc
    cases hc
  | some old =>
    rw [hold] at hc
    exact (h field old hold).2 c hc

/-- A field that is written anew may hold what it held before and comparisons that are words. -/
theorem upsert {field : String} {f : Option FieldConditions → FieldConditions}
    (h : fields.Within isField isComparison) (hfield : isField field)
    (hf : ∀ old, (∀ c, (SortedMap.get? (old.getD ∅) c).isSome = true → isComparison c) →
      ∀ c, ((f old).get? c).isSome = true → isComparison c) :
    ConditionMap.Within isField isComparison (SortedMap.upsert fields field f) := by
  intro other conditions hget
  rw [SortedMap.get?_upsert] at hget
  split at hget
  · rename_i hother
    subst hother
    cases hget
    exact ⟨hfield, hf _ fun c hc => h.isComparison_of_getD hc⟩
  · exact h other conditions hget

theorem push {c : Condition} (h : fields.Within isField isComparison) (hfield : isField c.field)
    (hcomparison : isComparison c.comparison) :
    (fields.push c).Within isField isComparison := by
  refine h.upsert hfield fun old hold other hother => ?_
  rw [SortedMap.get?_insert] at hother
  split at hother
  · rename_i heq
    rw [heq]
    exact hcomparison
  · exact hold other hother

end ConditionMap.Within

namespace FilterTree

variable {v : Vocabulary}

theorem groupOf_within {conditions : List Condition}
    (h : ∀ c ∈ conditions, v.searched c.field ∧ v.compared c.comparison) :
    (groupOf conditions).Within v.searched v.compared := by
  induction conditions using List.reverseRecOn with
  | nil => exact ConditionMap.Within.empty
  | append_singleton conditions c ih =>
    obtain ⟨hfield, hcomparison⟩ := h c (by simp)
    rw [groupOf_concat]
    exact (ih fun d hd => h d (by simp [hd])).push hfield hcomparison

namespace Within

theorem empty : (∅ : FilterTree).Within v where
  fields := ConditionMap.Within.empty
  groups := by simp [EmptyCollection.emptyCollection, FilterTree.empty]

theorem push {t : FilterTree} {p : Predicate} (h : t.Within v) (hp : p.Within v) :
    (t.push p).Within v where
  fields := by
    cases p with
    | field c => exact h.fields.push hp.1 hp.2
    | anyOf conditions =>
      rw [fields_push_anyOf]
      exact h.fields
  groups g hg := by
    rcases mem_groups_push hg with hold | ⟨conditions, rfl, rfl, -⟩
    · exact h.groups g hold
    · exact groupOf_within hp

theorem ofPredicate {p : Predicate} (hp : p.Within v) : (FilterTree.ofPredicate p).Within v :=
  empty.push hp

/-- **Merging adds no word**: every field and comparison of a merged tree is from one of the two. -/
theorem mergeMissing {t other : FilterTree} (ht : t.Within v) (hother : other.Within v) :
    (t.mergeMissing other).Within v where
  fields := by
    intro field conditions hget
    rcases get?_mergeMissing_eq_some hget with hold | ⟨added, hnew, rfl⟩
    · exact ht.fields field conditions hold
    · obtain ⟨hfield, hadded⟩ := hother.fields field added hnew
      refine ⟨hfield, fun c hc => ?_⟩
      rw [SortedMap.get?_union, Option.isSome_or, Bool.or_eq_true] at hc
      rcases hc with hc | hc
      · exact ht.fields.isComparison_of_getD hc
      · exact hadded c hc
  groups g hg := (mem_groups_mergeMissing hg).elim (ht.groups g) (hother.groups g)

end Within

/-- Conditions that may be absent keep to a vocabulary together if each does. -/
theorem within_combine {own other : Option FilterTree}
    (hown : ∀ t ∈ own, t.Within v) (hother : ∀ t ∈ other, t.Within v) :
    ∀ t ∈ combine own other, t.Within v := by
  intro t ht
  cases other with
  | none => exact hown t ht
  | some added =>
    cases ht
    have hadded : added.Within v := hother added rfl
    cases own with
    | none => exact Within.empty.mergeMissing hadded
    | some s => exact (hown s rfl).mergeMissing hadded

end FilterTree

/-! ### What operators ask for -/

/-- The fields that operators search. -/
def OperatorSet.Searches (ops : OperatorSet) (field : String) : Prop :=
  ∃ param fields percentSafe, Operator.search param fields percentSafe ∈ ops ∧ field ∈ fields

/-- The comparisons that operators make. -/
def OperatorSet.Makes (ops : OperatorSet) (c : Comparison) : Prop :=
  ∃ op ∈ ops, op.comparison = c

/-- The words of operators, applied to some fields. -/
def OperatorSet.vocabulary (ops : OperatorSet) (named : String → Prop) : Vocabulary where
  named := named
  searched := ops.Searches
  compared := ops.Makes

variable {ops : OperatorSet} {named : String → Prop}

theorem FilterTree.Within.mono {named' : String → Prop} {t : FilterTree}
    (h : t.Within (ops.vocabulary named)) (hsub : ∀ field, named field → named' field) :
    t.Within (ops.vocabulary named') :=
  ⟨h.fields.mono hsub, h.groups⟩

theorem Operator.predicate_within {op : Operator} (h : op ∈ ops) (value : Scalar) {field : String}
    (hfield : named field) : (op.predicate value field).Within (ops.vocabulary named) := by
  have hmakes : ops.Makes op.comparison := ⟨op, h, rfl⟩
  cases op with
  | search param fields percentSafe =>
    intro c hc
    obtain ⟨f, hf, rfl⟩ := List.mem_map.1 hc
    exact ⟨⟨param, fields, percentSafe, h, hf⟩, hmakes⟩
  | _ => exact ⟨hfield, hmakes⟩

/-- **Whatever a value is**, what it asks for keeps to the words of the operators. -/
theorem OperatorSet.predicate_within {value : Scalar} {field param : String} {p : Predicate}
    (h : ops.predicate value field param = .ok p) (hfield : named field) :
    p.Within (ops.vocabulary named) := by
  obtain ⟨op, hop, rfl⟩ := predicate_ok.1 h
  exact op.predicate_within hop.mem value hfield

/-- The conditions on the root model name the fields of the filters that are not relational. -/
theorem simpleTree_within {filters : List Filter} {t : FilterTree}
    (h : simpleTree ops filters = .ok t)
    (hnamed : ∀ f ∈ filters, f.spec.isRelational = false → named f.spec.field) :
    t.Within (ops.vocabulary named) := by
  refine foldlM_preserves (fun f hf s s' hs hstep => ?_) FilterTree.Within.empty h
  obtain ⟨hmem, hsimple⟩ := List.mem_filter.1 hf
  have hfield : named f.spec.field := hnamed f hmem (by simpa using hsimple)
  cases hp : f.predicate ops with
  | error e =>
    rw [hp] at hstep
    cases hstep
  | ok p =>
    rw [hp] at hstep
    cases hstep
    exact hs.push (OperatorSet.predicate_within hp hfield)

end RequestQuery
