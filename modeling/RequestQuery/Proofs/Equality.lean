import RequestQuery.FilterTree

/-!
# Equality of values and conditions

Values are compared as numbers and texts: a NaN equals nothing, and both zeros are equal. So equality
is not identity; it is symmetric and transitive, and reflexive on what holds no NaN.

* `PartialEquivBEq` instances for `Binary64`, `Scalar`, `Arguments` and `SortedMap`, hence for the
  comparisons of a field and for groups of alternatives.
* `Scalar.hasNaN`, `Arguments.hasNaN`, `ConditionMap.hasNaN`, `FilterTree.hasNaN` — whether a NaN occurs.
* `FilterTree.beq_self` — conditions without NaN equal themselves.
-/

namespace RequestQuery

/-! ### Symmetry and transitivity -/

namespace Binary64

theorem beq_iff (x y : Binary64) :
    (x == y) = true ↔
      x.isNaN = false ∧ y.isNaN = false ∧ (x.bits = y.bits ∨ x.isZero = true ∧ y.isZero = true) := by
  show (!x.isNaN && !y.isNaN && (x.bits == y.bits || (x.isZero && y.isZero))) = true ↔ _
  simp only [Bool.and_eq_true, Bool.or_eq_true, Bool.not_eq_true', beq_iff_eq, and_assoc]

theorem isZero_congr {x y : Binary64} (h : x.bits = y.bits) : x.isZero = y.isZero := by
  rw [isZero, isZero, h]

instance : PartialEquivBEq Binary64 where
  symm {x y} h := by
    obtain ⟨hx, hy, h⟩ := (beq_iff x y).1 h
    exact (beq_iff y x).2 ⟨hy, hx, h.imp Eq.symm And.symm⟩
  trans {x y z} hxy hyz := by
    obtain ⟨hx, -, hxy⟩ := (beq_iff x y).1 hxy
    obtain ⟨-, hz, hyz⟩ := (beq_iff y z).1 hyz
    refine (beq_iff x z).2 ⟨hx, hz, ?_⟩
    rcases hxy with hxy | ⟨hx₀, hy₀⟩
    · rcases hyz with hyz | ⟨hy₀, hz₀⟩
      · exact .inl (hxy.trans hyz)
      · exact .inr ⟨(isZero_congr hxy).trans hy₀, hz₀⟩
    · rcases hyz with hyz | ⟨-, hz₀⟩
      · exact .inr ⟨hx₀, (isZero_congr hyz).symm.trans hy₀⟩
      · exact .inr ⟨hx₀, hz₀⟩

theorem beq_self {x : Binary64} (h : x.isNaN = false) : (x == x) = true :=
  (beq_iff x x).2 ⟨h, h, .inl rfl⟩

end Binary64

namespace Scalar

instance : PartialEquivBEq Scalar where
  symm {s t} h := by
    -- scalars of different kinds differ
    cases s <;> cases t <;> try cases h
    case boolean.boolean b c => exact BEq.symm (α := Bool) h
    case integer.integer i j => exact BEq.symm (α := Int64) h
    case float.float x y => exact BEq.symm (α := Binary64) h
    case text.text v w => exact BEq.symm (α := String) h
  trans {s t u} h h' := by
    cases s <;> cases t <;> try cases h
    all_goals cases u <;> try cases h'
    case boolean.boolean.boolean b c d => exact BEq.trans (α := Bool) h h'
    case integer.integer.integer i j k => exact BEq.trans (α := Int64) h h'
    case float.float.float x y z => exact BEq.trans (α := Binary64) h h'
    case text.text.text v w x => exact BEq.trans (α := String) h h'

/-- Whether a scalar is a NaN. -/
def hasNaN : Scalar → Bool
  | .float x => x.isNaN
  | _ => false

theorem beq_self {s : Scalar} (h : s.hasNaN = false) : (s == s) = true := by
  cases s with
  | boolean b => exact beq_self_eq_true b
  | integer i => exact beq_self_eq_true i
  | float x => exact Binary64.beq_self h
  | text t => exact beq_self_eq_true t

end Scalar

namespace Arguments

theorem beq_range_iff {v w v' w' : String} :
    (range v w == range v' w') = true ↔ v = v' ∧ w = w' := by
  show (v == v' && w == w') = true ↔ _
  simp only [Bool.and_eq_true, beq_iff_eq]

instance : PartialEquivBEq Arguments where
  symm {a b} h := by
    cases a <;> cases b <;> try cases h
    case value.value s t => exact BEq.symm (α := Scalar) h
    case text.text v w => exact BEq.symm (α := String) h
    case range.range v w v' w' =>
      obtain ⟨rfl, rfl⟩ := beq_range_iff.1 h
      exact h
    case list.list vs ws => exact BEq.symm (α := List String) h
  trans {a b c} h h' := by
    cases a <;> cases b <;> try cases h
    all_goals cases c <;> try cases h'
    case value.value.value s t u => exact BEq.trans (α := Scalar) h h'
    case text.text.text v w x => exact BEq.trans (α := String) h h'
    case range.range.range v w v' w' x y =>
      obtain ⟨rfl, rfl⟩ := beq_range_iff.1 h
      exact h'
    case list.list.list vs ws xs => exact BEq.trans (α := List String) h h'

/-- Whether a NaN is among the arguments. -/
def hasNaN : Arguments → Bool
  | .value s => s.hasNaN
  | _ => false

theorem beq_self {a : Arguments} (h : a.hasNaN = false) : (a == a) = true := by
  cases a with
  | value s => exact Scalar.beq_self h
  | text t => exact beq_self_eq_true t
  | range lower upper => exact beq_range_iff.2 ⟨rfl, rfl⟩
  | list items => exact beq_self_eq_true items

end Arguments

/-! ### Lists, entries and maps -/

section Containers

variable {α β κ : Type} [BEq α] [BEq β]

instance partialEquivBEq_prod [PartialEquivBEq α] [PartialEquivBEq β] : PartialEquivBEq (α × β) where
  symm {p q} h := by
    obtain ⟨h₁, h₂⟩ := Bool.and_eq_true_iff.1 h
    exact Bool.and_eq_true_iff.2 ⟨BEq.symm h₁, BEq.symm h₂⟩
  trans {p q r} h h' := by
    obtain ⟨h₁, h₂⟩ := Bool.and_eq_true_iff.1 h
    obtain ⟨h₁', h₂'⟩ := Bool.and_eq_true_iff.1 h'
    exact Bool.and_eq_true_iff.2 ⟨BEq.trans h₁ h₁', BEq.trans h₂ h₂'⟩

instance partialEquivBEq_list [PartialEquivBEq α] : PartialEquivBEq (List α) where
  symm {as bs} h := by
    induction as generalizing bs with
    | nil => cases bs with
      | nil => rfl
      | cons b bs => cases h
    | cons a as ih => cases bs with
      | nil => cases h
      | cons b bs =>
        obtain ⟨h₁, h₂⟩ := Bool.and_eq_true_iff.1 h
        exact Bool.and_eq_true_iff.2 ⟨BEq.symm h₁, ih h₂⟩
  trans {as bs cs} h h' := by
    induction as generalizing bs cs with
    | nil => cases bs with
      | nil => exact h'
      | cons b bs => cases h
    | cons a as ih => cases bs with
      | nil => cases h
      | cons b bs => cases cs with
        | nil => cases h'
        | cons c cs =>
          obtain ⟨h₁, h₂⟩ := Bool.and_eq_true_iff.1 h
          obtain ⟨h₁', h₂'⟩ := Bool.and_eq_true_iff.1 h'
          exact Bool.and_eq_true_iff.2 ⟨BEq.trans h₁ h₁', ih h₂ h₂'⟩

/-- A list of values that equal themselves equals itself. -/
theorem list_beq_self {as : List α} (h : ∀ a ∈ as, (a == a) = true) :
    (as == as) = true := by
  induction as with
  | nil => rfl
  | cons a as ih =>
    have hhead : (a == a) = true := h a List.mem_cons_self
    have htail : (as == as) = true := ih fun b hb => h b (List.mem_cons_of_mem a hb)
    exact Bool.and_eq_true_iff.2 ⟨hhead, htail⟩

instance [Ord κ] [BEq κ] [PartialEquivBEq κ] [PartialEquivBEq α] :
    PartialEquivBEq (SortedMap κ α) where
  symm h := BEq.symm (α := List (κ × α)) h
  trans h h' := BEq.trans (α := List (κ × α)) h h'

/-- A map whose values equal themselves equals itself. -/
theorem SortedMap.beq_self [Ord κ] [BEq κ] [ReflBEq κ] {m : SortedMap κ α}
    (h : ∀ e ∈ m.toList, (e.2 == e.2) = true) : (m == m) = true :=
  list_beq_self fun e he => Bool.and_eq_true_iff.2 ⟨BEq.rfl, h e he⟩

end Containers

/-! ### Conditions without NaN -/

/-- Whether a NaN is among the arguments of the comparisons of a field. -/
def FieldConditions.hasNaN (conditions : FieldConditions) : Bool :=
  conditions.toList.any fun c => c.2.hasNaN

theorem FieldConditions.beq_self {conditions : FieldConditions} (h : conditions.hasNaN = false) :
    (conditions == conditions) = true :=
  SortedMap.beq_self fun c hc => Arguments.beq_self (by simpa using List.any_eq_false.1 h c hc)

/-- Whether a NaN is among the arguments of the comparisons of several fields. -/
def ConditionMap.hasNaN (fields : ConditionMap) : Bool :=
  fields.toList.any fun f => FieldConditions.hasNaN f.2

theorem ConditionMap.beq_self {fields : ConditionMap} (h : fields.hasNaN = false) :
    (fields == fields) = true :=
  SortedMap.beq_self fun f hf => FieldConditions.beq_self (by simpa using List.any_eq_false.1 h f hf)

namespace FilterTree

/-- Whether a NaN is among the arguments of the comparisons of a tree. -/
def hasNaN (t : FilterTree) : Bool :=
  t.fields.hasNaN || t.groups.any ConditionMap.hasNaN

theorem groups_beq_self {t : FilterTree} (h : t.hasNaN = false) :
    ∀ g ∈ t.groups, (g == g) = true := by
  intro g hg
  have hgroups : t.groups.any ConditionMap.hasNaN = false := (Bool.or_eq_false_iff.1 h).2
  exact ConditionMap.beq_self (by simpa using List.any_eq_false.1 hgroups g hg)

theorem beq_self {t : FilterTree} (h : t.hasNaN = false) : (t == t) = true := by
  have hfields : (t.fields == t.fields) = true :=
    ConditionMap.beq_self (Bool.or_eq_false_iff.1 h).1
  have hgroups : (t.groups == t.groups) = true := list_beq_self (groups_beq_self h)
  exact Bool.and_eq_true_iff.2 ⟨hfields, hgroups⟩

end FilterTree

end RequestQuery
