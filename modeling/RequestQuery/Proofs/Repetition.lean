import Mathlib.Data.List.Induction

/-!
# Lists without repetitions

* `addMissing` — a list with what it misses of another one behind it.
* `addMissing_eq` — what is added: the new values of the other list, each once.
* `addMissing_assoc` — lists may be added in any bracketing.
* `pairwise_eraseDups` — without repetitions, no value equals an earlier one.
* `pairwise_idxOf_eraseDups` — without repetitions, values stand in the order in which they occur first.

Equality of values need not be identity, nor does a value have to equal itself; where the laws need
symmetry and transitivity, they say so.
-/

namespace RequestQuery

variable {α : Type} [BEq α]

/-- The values of a list, then those of another one that do not occur before. -/
def addMissing (known others : List α) : List α :=
  others.foldl (fun known a => if known.contains a then known else known ++ [a]) known

theorem addMissing_cons (known : List α) (a : α) (others : List α) :
    addMissing known (a :: others)
      = addMissing (if known.contains a then known else known ++ [a]) others := rfl

theorem addMissing_append (known as bs : List α) :
    addMissing known (as ++ bs) = addMissing (addMissing known as) bs :=
  List.foldl_append

theorem addMissing_concat (known others : List α) (a : α) :
    addMissing known (others ++ [a])
      = if (addMissing known others).contains a then addMissing known others
        else addMissing known others ++ [a] :=
  addMissing_append known others [a]

/-- What is added is what is new in the other list, each value once. -/
theorem addMissing_eq (known others : List α) :
    addMissing known others = known ++ (others.filter fun a => !known.contains a).eraseDups := by
  induction others generalizing known with
  | nil => simp [addMissing]
  | cons a others ih =>
    rw [addMissing_cons]
    by_cases ha : known.contains a = true
    · rw [if_pos ha, ih, List.filter_cons_of_neg (by simp only [ha, Bool.not_true, Bool.false_eq_true,
        not_false_eq_true])]
    · rw [if_neg ha, ih, List.filter_cons_of_pos (by simpa using ha), List.eraseDups_cons,
        List.filter_filter]
      simp only [List.append_assoc, List.singleton_append, List.contains_append, List.contains_cons,
        List.contains_nil, Bool.or_false, Bool.not_or, Bool.and_comm]

/-- Removing repetitions is adding a list to nothing. -/
theorem eraseDups_eq_addMissing (as : List α) : as.eraseDups = addMissing [] as := by
  have hall : (as.filter fun a => !([] : List α).contains a) = as :=
    List.filter_eq_self.2 fun _ _ => rfl
  rw [addMissing_eq, hall, List.nil_append]

theorem eraseDups_concat (as : List α) (a : α) :
    (as ++ [a]).eraseDups = if as.eraseDups.contains a then as.eraseDups else as.eraseDups ++ [a] := by
  rw [eraseDups_eq_addMissing, addMissing_concat, ← eraseDups_eq_addMissing]

/-- A list adds nothing if all its values occur already. -/
theorem addMissing_of_contained {known others : List α} (h : ∀ a ∈ others, known.contains a = true) :
    addMissing known others = known := by
  have hnil : (others.filter fun a => !known.contains a) = [] := by
    rw [List.filter_eq_nil_iff]
    intro a ha
    simp only [h a ha, Bool.not_true, Bool.false_eq_true, not_false_eq_true]
  rw [addMissing_eq, hnil, List.eraseDups_nil, List.append_nil]

/-- Removing repetitions leaves something of every list that is not empty. -/
theorem eq_nil_of_eraseDups {as : List α} (h : as.eraseDups = []) : as = [] := by
  cases as with
  | nil => rfl
  | cons a as =>
    rw [List.eraseDups_cons] at h
    cases h

theorem mem_of_mem_eraseDups {a : α} {as : List α} (h : a ∈ as.eraseDups) : a ∈ as := by
  rw [eraseDups_eq_addMissing] at h
  induction as using List.reverseRecOn with
  | nil => exact h
  | append_singleton as b ih =>
    rw [addMissing_concat] at h
    split at h
    · exact List.mem_append_left [b] (ih h)
    · rcases List.mem_append.1 h with h | h
      · exact List.mem_append_left [b] (ih h)
      · exact List.mem_append_right as h

/-- Without repetitions, no value equals an earlier one. -/
theorem pairwise_eraseDups (as : List α) :
    as.eraseDups.Pairwise fun a b => (b == a) = false := by
  induction as using List.reverseRecOn with
  | nil => exact .nil
  | append_singleton as a ih =>
    rw [eraseDups_concat]
    split
    · exact ih
    · rename_i ha
      refine List.pairwise_append.2 ⟨ih, List.pairwise_singleton _ _, fun b hb c hc => ?_⟩
      rw [List.mem_singleton.1 hc]
      exact Bool.eq_false_iff.2 fun hab => ha (List.contains_iff_exists_mem_beq.2 ⟨b, hb, hab⟩)

/-- If equality is identity, no value stands twice. -/
theorem nodup_eraseDups [LawfulBEq α] (as : List α) : as.eraseDups.Nodup := by
  refine (pairwise_eraseDups as).imp fun h hab => ?_
  rw [hab, beq_self_eq_true] at h
  cases h

/-- Removing repetitions moves no value. -/
theorem eraseDups_sublist (as : List α) : as.eraseDups.Sublist as := by
  induction as using List.reverseRecOn with
  | nil => exact .refl []
  | append_singleton as a ih =>
    rw [eraseDups_concat]
    split
    · exact ih.trans (List.sublist_append_left as [a])
    · exact ih.append (.refl [a])

/-- A list from which nothing is removed has no repetitions. -/
theorem nodup_of_length_eraseDups [LawfulBEq α] {as : List α} (h : as.eraseDups.length = as.length) :
    as.Nodup := by
  rw [← (eraseDups_sublist as).eq_of_length h]
  exact nodup_eraseDups as

/-- Without repetitions, values stand in the order in which they occur first. -/
theorem pairwise_idxOf_eraseDups [LawfulBEq α] (as : List α) :
    as.eraseDups.Pairwise fun a b => as.idxOf a < as.idxOf b := by
  induction as using List.reverseRecOn with
  | nil => exact .nil
  | append_singleton as x ih =>
    have hold : ∀ a ∈ as.eraseDups, (as ++ [x]).idxOf a = as.idxOf a := fun a ha => by
      rw [List.idxOf_append, if_pos (List.mem_eraseDups.1 ha)]
    have hseen : as.eraseDups.Pairwise fun a b => (as ++ [x]).idxOf a < (as ++ [x]).idxOf b := by
      refine ih.imp_of_mem fun {a b} ha hb hlt => ?_
      rw [hold a ha, hold b hb]
      exact hlt
    rw [eraseDups_concat]
    split
    · exact hseen
    · rename_i hx
      -- a value that is new occurs first at the end
      have hnew : (as ++ [x]).idxOf x = as.length := by
        have hnot : x ∉ as := fun hmem => hx (List.contains_iff_mem.2 (List.mem_eraseDups.2 hmem))
        rw [List.idxOf_append, if_neg hnot, List.idxOf_cons_self, Nat.zero_add]
      refine List.pairwise_append.2 ⟨hseen, List.pairwise_singleton _ _, fun a ha b hb => ?_⟩
      rw [List.mem_singleton.1 hb, hold a ha, hnew]
      exact List.idxOf_lt_length_of_mem (List.mem_eraseDups.1 ha)

/-- A list without repetitions keeps all its values. -/
theorem eraseDups_of_pairwise {as : List α} (h : as.Pairwise fun a b => (b == a) = false) :
    as.eraseDups = as := by
  induction as using List.reverseRecOn with
  | nil => rfl
  | append_singleton as a ih =>
    obtain ⟨has, -, hnew⟩ := List.pairwise_append.1 h
    have ha : as.contains a = false := by
      refine Bool.eq_false_iff.2 fun hmem => ?_
      obtain ⟨b, hb, hab⟩ := List.contains_iff_exists_mem_beq.1 hmem
      rw [hnew b hb a (List.mem_singleton_self a)] at hab
      cases hab
    rw [eraseDups_concat, ih has, ha]
    rfl

theorem eraseDups_eq_self [LawfulBEq α] {as : List α} (h : as.Nodup) : as.eraseDups = as :=
  eraseDups_of_pairwise (h.imp fun hab => beq_false_of_ne fun heq => hab heq.symm)

theorem eraseDups_append_self [LawfulBEq α] {as : List α} (h : as.Nodup) :
    (as ++ as).eraseDups = as := by
  rw [eraseDups_eq_addMissing, addMissing_append, ← eraseDups_eq_addMissing, eraseDups_eq_self h]
  exact addMissing_of_contained fun a ha => List.contains_iff_mem.2 ha

/-- Values may be chosen before or after removing repetitions. -/
theorem eraseDups_filter [LawfulBEq α] (p : α → Bool) (as : List α) :
    (as.filter p).eraseDups = as.eraseDups.filter p := by
  induction as using List.reverseRecOn with
  | nil => rfl
  | append_singleton as a ih =>
    rw [List.filter_append, eraseDups_concat]
    cases ha : p a with
    | true =>
      have hmem : (as.filter p).eraseDups.contains a = as.eraseDups.contains a := by
        rw [Bool.eq_iff_iff]
        simp [ha]
      rw [List.filter_cons_of_pos ha, List.filter_nil, eraseDups_concat, hmem, ih]
      split
      · rfl
      · rw [List.filter_append, List.filter_cons_of_pos ha, List.filter_nil]
    | false =>
      have hnot : ¬ p a = true := by simp [ha]
      rw [List.filter_cons_of_neg hnot, List.filter_nil, List.append_nil, ih]
      split
      · rfl
      · rw [List.filter_append, List.filter_cons_of_neg hnot, List.filter_nil, List.append_nil]

/-- Where a function tells the values of a list apart, it may be applied before or after removing
repetitions. -/
theorem eraseDups_map_of_injOn {β : Type} [BEq β] [LawfulBEq α] [LawfulBEq β] (f : α → β)
    {as : List α} (h : ∀ a ∈ as, ∀ b ∈ as, f a = f b → a = b) :
    (as.map f).eraseDups = as.eraseDups.map f := by
  induction as using List.reverseRecOn with
  | nil => rfl
  | append_singleton as a ih =>
    have has : ∀ b ∈ as, ∀ c ∈ as, f b = f c → b = c := fun b hb c hc =>
      h b (List.mem_append_left [a] hb) c (List.mem_append_left [a] hc)
    have hmem : (as.eraseDups.map f).contains (f a) = as.eraseDups.contains a := by
      rw [Bool.eq_iff_iff, List.contains_iff_mem, List.contains_iff_mem, List.mem_map,
        List.mem_eraseDups]
      constructor
      · rintro ⟨b, hb, heq⟩
        have hb := List.mem_eraseDups.1 hb
        rwa [← h b (List.mem_append_left [a] hb) a (List.mem_append_right as (List.mem_singleton_self a))
          heq]
      · intro ha
        exact ⟨a, List.mem_eraseDups.2 ha, rfl⟩
    rw [List.map_append, List.map_singleton, eraseDups_concat, eraseDups_concat, ih has, hmem]
    split
    · rfl
    · rw [List.map_append, List.map_singleton]

/-! ### Equality that is symmetric and transitive -/

variable [PartialEquivBEq α]

theorem contains_addMissing (known others : List α) (a : α) :
    (addMissing known others).contains a = (known.contains a || others.contains a) := by
  induction others using List.reverseRecOn with
  | nil => rw [List.contains_nil, Bool.or_false]; rfl
  | append_singleton others b ih =>
    rw [addMissing_concat, List.contains_append, ← Bool.or_assoc, ← ih]
    split
    · rename_i hb
      -- what equals `b` equals the value that `b` equals
      cases hab : (a == b) with
      | false => simp [hab]
      | true => rw [List.contains_congr hab, hb, Bool.true_or]
    · rw [List.contains_append]

/-- Lists may be added in any bracketing. -/
theorem addMissing_assoc (as bs cs : List α) :
    addMissing as (addMissing bs cs) = addMissing (addMissing as bs) cs := by
  induction cs using List.reverseRecOn with
  | nil => rfl
  | append_singleton cs c ih =>
    rw [addMissing_concat bs, addMissing_concat (addMissing as bs)]
    by_cases hc : (addMissing bs cs).contains c = true
    · have hc' : (addMissing (addMissing as bs) cs).contains c = true := by
        rw [← ih, contains_addMissing, hc, Bool.or_true]
      rw [if_pos hc, if_pos hc', ih]
    · rw [if_neg hc, addMissing_concat, ih]

/-- Adding a list removes only repetitions. -/
theorem eraseDups_addMissing (as bs : List α) :
    (addMissing as bs).eraseDups = (as ++ bs).eraseDups := by
  rw [eraseDups_eq_addMissing, eraseDups_eq_addMissing, addMissing_assoc, addMissing_append]

/-- Removing repetitions early, from parts of a list, changes nothing. -/
theorem eraseDups_append_eraseDups (as bs : List α) :
    (as.eraseDups ++ bs.eraseDups).eraseDups = (as ++ bs).eraseDups := by
  have hleft : addMissing [] as.eraseDups = addMissing [] as := by
    rw [eraseDups_eq_addMissing, addMissing_assoc]
    rfl
  have hright : addMissing (addMissing [] as) bs.eraseDups = addMissing (addMissing [] as) bs := by
    rw [eraseDups_eq_addMissing, addMissing_assoc]
    rfl
  rw [eraseDups_eq_addMissing, eraseDups_eq_addMissing (as ++ bs), addMissing_append,
    addMissing_append, hleft, hright]

end RequestQuery
