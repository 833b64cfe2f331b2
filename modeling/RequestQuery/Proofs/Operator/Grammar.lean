import Mathlib.Data.List.Nodup
import RequestQuery.Proofs.Operator.Encodings
import RequestQuery.Proofs.Predicate

/-!
# The grammar of values

* `Marked`, `Scalar.Reads` — the comparison and the arguments that a value writes.
* `OperatorSet.applies_together` — at most one of the standard operators but equality understands a text,
  where a text that is not in a range counts as one that is different.
* `Marked.exists_operator`, `OperatorSet.exists_marked` — a text is understood by a standard operator but
  equality just if it is marked.
* `OperatorSet.Arranged` — the standard operators in any order that matters.
* `OperatorSet.Arranged.predicate_of_reads`, `OperatorSet.standard_predicate` — a value asks for the comparison
  that it writes, and it writes just one.
-/

namespace RequestQuery

/-! ### The grammar -/

/-- The markers of comparisons with a range. -/
def rangeMarkers : List (String × Comparison) :=
  [("<>", .between), ("!<>", .notBetween)]

/-- The markers of comparisons with a number. -/
def numberMarkers : List (String × Comparison) :=
  [(">", .greater), (":>", .greaterOrEqual), ("<", .less), (":<", .lessOrEqual)]

/-- What a text with a marker in front compares with. -/
inductive Marked : List Char → Comparison → Arguments → Prop
  /-- A range is cut at its separator after the blanks at its ends are taken away. -/
  | range {marker : String} {comparison : Comparison} {cs lower upper : List Char}
    (hmarker : (marker, comparison) ∈ rangeMarkers) (h : IsRange cs)
    (hcut : Text.trim cs = lower ++ '|' :: upper) (hlower : '|' ∉ lower) :
    Marked (marker.toList ++ cs) comparison (.range (String.ofList lower) (String.ofList upper))
  | number {marker : String} {comparison : Comparison} {cs : List Char}
    (hmarker : (marker, comparison) ∈ numberMarkers) (h : IsNumber cs) :
    Marked (marker.toList ++ cs) comparison (.text (String.ofList (Text.trim cs)))
  /-- Any text may be excluded, unless it excludes a range. -/
  | notEqual {cs : List Char} (h : IsLine cs) (hrange : ∀ rest, cs = '<' :: '>' :: rest → ¬ IsRange rest) :
    Marked ('!' :: cs) .notEqual (.text (String.ofList (Text.trim cs)))
  | oneOf {cs : List Char} (h : IsItems cs) :
    Marked ('<' :: '<' :: '>' :: '>' :: cs) .oneOf
      (.list (((cs.splitOn ',').filter fun item => !item.isEmpty).map String.ofList))

/-- What a value compares with: what it is marked for, or else itself. -/
inductive Scalar.Reads : Scalar → Comparison → Arguments → Prop
  | marked {s : String} {comparison : Comparison} {arguments : Arguments}
    (h : Marked s.toList comparison arguments) : Reads (.text s) comparison arguments
  | plain {value : Scalar} (h : ∀ s, value = .text s → ∀ c a, ¬ Marked s.toList c a) :
    Reads value .equal (.value value)

/-! ### The standard operators -/

/-- The operator for a range behind a marker. -/
def rangeOperator (marker : String) (comparison : Comparison) : Operator :=
  .encoded ⟨marker, comparison, rangePattern marker, .two⟩

/-- The operator for a range that is excluded. -/
def notBetweenOperator : Operator :=
  rangeOperator "!<>" .notBetween

/-- The operator for a number behind a marker. -/
def numberOperator (marker : String) (comparison : Comparison) : Operator :=
  .encoded ⟨marker, comparison, numberPattern marker, .one⟩

/-- The operator for a value that is excluded. -/
def notEqualOperator : Operator :=
  .encoded ⟨"!", .notEqual, anyPattern "!", .one⟩

namespace OperatorSet

theorem mem_standard {op : Operator} :
    op ∈ standard ↔
      (∃ m ∈ rangeMarkers, op = rangeOperator m.1 m.2) ∨
        (∃ m ∈ numberMarkers, op = numberOperator m.1 m.2) ∨ op = notEqualOperator ∨ op = .inList ∨ op = .identity := by
  simp [standard, standardEncodings, rangeMarkers, numberMarkers, rangeOperator, numberOperator,
    notEqualOperator, or_assoc]

theorem nodup_standard : standard.Nodup := by
  decide

theorem notBetween_mem_standard : notBetweenOperator ∈ standard :=
  mem_standard.2 (.inl ⟨("!<>", .notBetween), .tail _ (.head _), rfl⟩)

theorem notEqual_mem_standard : notEqualOperator ∈ standard :=
  mem_standard.2 (.inr (.inr (.inl rfl)))

theorem identity_mem_standard : Operator.identity ∈ standard :=
  mem_standard.2 (.inr (.inr (.inr (.inr rfl))))

/-- Standard operators are told apart by their comparisons. -/
theorem eq_of_comparison_eq {op op' : Operator} (h : op ∈ standard) (h' : op' ∈ standard)
    (heq : op.comparison = op'.comparison) : op = op' := by
  have hnodup : (standard.map Operator.comparison).Nodup := by decide
  exact List.inj_on_of_nodup_map hnodup h h' heq

end OperatorSet

/-! ### No two at once -/

/-- The comparison that the first characters of a text announce; a text that excludes a range is not told
apart from one that excludes a value. -/
def announced : List Char → Option Comparison
  | '<' :: '>' :: _ => some .between
  | '<' :: '<' :: _ => some .oneOf
  | '<' :: _ => some .less
  | '>' :: _ => some .greater
  | ':' :: '>' :: _ => some .greaterOrEqual
  | ':' :: '<' :: _ => some .lessOrEqual
  | '!' :: _ => some .notEqual
  | _ => none

theorem announced_range {m : String × Comparison} (hm : m ∈ rangeMarkers) (cs : List Char) :
    announced (m.1.toList ++ cs) = some (if m.2 = .notBetween then .notEqual else m.2) := by
  simp only [rangeMarkers, List.mem_cons, List.not_mem_nil, or_false] at hm
  rcases hm with rfl | rfl <;> rfl

theorem announced_number {m : String × Comparison} (hm : m ∈ numberMarkers) {cs : List Char}
    (h : IsNumber cs) :
    announced (m.1.toList ++ cs) = some (if m.2 = .notBetween then .notEqual else m.2) := by
  obtain ⟨c, rest, hc, -, rfl⟩ := h
  have hopen : c ≠ '<' := by
    rintro rfl
    exact absurd hc (by decide)
  have hclose : c ≠ '>' := by
    rintro rfl
    exact absurd hc (by decide)
  simp only [numberMarkers, List.mem_cons, List.not_mem_nil, or_false] at hm
  rcases hm with rfl | rfl | rfl | rfl
  · rfl
  · rfl
  · change announced ('<' :: c :: rest) = _
    simp [announced, hopen, hclose]
  · rfl

/-- An operator that understands a text makes the comparison that the text announces. -/
theorem announced_of_applies {op : Operator} {s param : String} (hop : op ∈ OperatorSet.standard)
    (h : op.applies (.text s) param = true) (hne : op ≠ .identity) :
    announced s.toList = some (if op.comparison = .notBetween then .notEqual else op.comparison) := by
  rcases OperatorSet.mem_standard.1 hop with ⟨m, hm, rfl⟩ | ⟨m, hm, rfl⟩ | rfl | rfl | rfl
  · obtain ⟨cs, hs, -⟩ := ValueEncoding.accepts_range.1 h
    rw [hs]
    exact announced_range hm cs
  · obtain ⟨cs, hs, hcs⟩ := ValueEncoding.accepts_number.1 h
    rw [hs]
    exact announced_number hm hcs
  · obtain ⟨cs, hs, -⟩ := ValueEncoding.accepts_any.1 h
    rw [hs]
    rfl
  · obtain ⟨cs, hs, -⟩ := InList.accepts_iff.1 h
    rw [hs]
    rfl
  · exact absurd rfl hne

/-- Of the standard operators but equality, no two understand the same text, except that a text which
excludes a range may also exclude a value. -/
theorem OperatorSet.applies_together {op op' : Operator} {s param : String}
    (hop : op ∈ standard) (hop' : op' ∈ standard) (hne : op ≠ .identity) (hne' : op' ≠ .identity)
    (h : op.applies (.text s) param = true) (h' : op'.applies (.text s) param = true) :
    op = op' ∨ (op = notBetweenOperator ∧ op' = notEqualOperator) ∨
      (op = notEqualOperator ∧ op' = notBetweenOperator) := by
  have hsame := (announced_of_applies hop h hne).symm.trans (announced_of_applies hop' h' hne')
  rw [Option.some.injEq] at hsame
  split at hsame <;> split at hsame
  · rename_i hc hc'
    exact .inl (eq_of_comparison_eq hop hop' (hc.trans hc'.symm))
  · rename_i hc _
    exact .inr (.inl ⟨eq_of_comparison_eq hop notBetween_mem_standard hc,
      eq_of_comparison_eq hop' notEqual_mem_standard hsame.symm⟩)
  · rename_i _ hc'
    exact .inr (.inr ⟨eq_of_comparison_eq hop notEqual_mem_standard hsame,
      eq_of_comparison_eq hop' notBetween_mem_standard hc'⟩)
  · exact .inl (eq_of_comparison_eq hop hop' hsame)

/-! ### Marked texts and operators -/

/-- A text that excludes a value does not exclude a range. -/
theorem Marked.not_isRange {rest : List Char} {arguments : Arguments}
    (h : Marked ('!' :: '<' :: '>' :: rest) .notEqual arguments) : ¬ IsRange rest := by
  generalize htext : '!' :: '<' :: '>' :: rest = text at h
  generalize hc : Comparison.notEqual = c at h
  cases h with
  | range hmarker =>
    subst hc
    simp [rangeMarkers] at hmarker
  | number hmarker =>
    subst hc
    simp [numberMarkers] at hmarker
  | notEqual _ hrange => exact hrange rest (List.cons.inj htext).2.symm
  | oneOf => cases hc

/-- Whether an operator understands a text and reads a comparison and its arguments from it. -/
structure Operator.Understands (op : Operator) (s : String) (comparison : Comparison)
    (arguments : Arguments) : Prop where
  applies : ∀ param, op.applies (.text s) param = true
  comparison : op.comparison = comparison
  arguments : op.arguments (.text s) = arguments

/-- A marked text is understood by a standard operator that is not equality. -/
theorem Marked.exists_operator {s : String} {comparison : Comparison} {arguments : Arguments}
    (h : Marked s.toList comparison arguments) :
    ∃ op ∈ OperatorSet.standard, op ≠ .identity ∧ op.Understands s comparison arguments := by
  generalize hs : s.toList = text at h
  cases h with
  | @range marker comparison cs lower upper hmarker hrange hcut hlower =>
    let encoding : ValueEncoding := ⟨marker, comparison, rangePattern marker, .two⟩
    have haccepts : encoding.accepts s = true := ValueEncoding.accepts_range.2 ⟨cs, hs, hrange⟩
    have harguments := encoding.arguments_range rfl hs hcut hlower
    have hmem := OperatorSet.mem_standard.2 (.inl ⟨_, hmarker, rfl⟩)
    exact ⟨rangeOperator marker comparison, hmem, nofun, fun _ => haccepts, rfl, harguments⟩
  | @number marker comparison cs hmarker hnumber =>
    let encoding : ValueEncoding := ⟨marker, comparison, numberPattern marker, .one⟩
    have haccepts : encoding.accepts s = true := ValueEncoding.accepts_number.2 ⟨cs, hs, hnumber⟩
    have harguments := encoding.arguments_one rfl hs
    have hmem := OperatorSet.mem_standard.2 (.inr (.inl ⟨_, hmarker, rfl⟩))
    exact ⟨numberOperator marker comparison, hmem, nofun, fun _ => haccepts, rfl, harguments⟩
  | @notEqual cs hline =>
    let encoding : ValueEncoding := ⟨"!", .notEqual, anyPattern "!", .one⟩
    have hs' : s.toList = "!".toList ++ cs := hs
    have haccepts : encoding.accepts s = true := ValueEncoding.accepts_any.2 ⟨cs, hs', hline⟩
    have harguments := encoding.arguments_one rfl hs'
    exact ⟨notEqualOperator, OperatorSet.notEqual_mem_standard, nofun, fun _ => haccepts, rfl, harguments⟩
  | @oneOf cs hitems =>
    have haccepts := InList.accepts_iff.2 ⟨cs, hs, hitems⟩
    have hmem := OperatorSet.mem_standard.2 (.inr (.inr (.inr (.inl rfl))))
    have harguments := congrArg Arguments.list (InList.items_of_isItems hs hitems)
    exact ⟨.inList, hmem, nofun, fun _ => haccepts, rfl, harguments⟩

theorem Scalar.exists_text {value : Scalar} {p : String → Bool} (h : value.text?.any p = true) :
    ∃ s, value = .text s ∧ p s = true := by
  cases value with
  | text s => exact ⟨s, rfl, h⟩
  | _ => simp [Scalar.text?] at h

theorem exists_marked_range {m : String × Comparison} (hm : m ∈ rangeMarkers) {text cs : List Char}
    (htext : text = m.1.toList ++ cs) (hcs : IsRange cs) : ∃ c a, Marked text c a := by
  obtain ⟨lower, upper, hcut, hlower⟩ := exists_cut_of_isRange hcs
  rw [htext]
  exact ⟨_, _, .range hm hcs hcut hlower⟩

/-- A value that a standard operator but equality understands is a marked text. -/
theorem OperatorSet.exists_marked {op : Operator} {value : Scalar} {param : String} (hop : op ∈ standard)
    (hne : op ≠ .identity) (h : op.applies value param = true) :
    ∃ s, value = .text s ∧ ∃ c a, Marked s.toList c a := by
  rcases mem_standard.1 hop with ⟨m, hm, rfl⟩ | ⟨m, hm, rfl⟩ | rfl | rfl | rfl
  · obtain ⟨s, rfl, haccepts⟩ := Scalar.exists_text h
    obtain ⟨cs, hs, hcs⟩ := ValueEncoding.accepts_range.1 haccepts
    exact ⟨s, rfl, exists_marked_range hm hs hcs⟩
  · obtain ⟨s, rfl, haccepts⟩ := Scalar.exists_text h
    obtain ⟨cs, hs, hcs⟩ := ValueEncoding.accepts_number.1 haccepts
    refine ⟨s, rfl, ?_⟩
    rw [hs]
    exact ⟨_, _, .number hm hcs⟩
  · obtain ⟨s, rfl, haccepts⟩ := Scalar.exists_text h
    obtain ⟨cs, hs, hcs⟩ := ValueEncoding.accepts_any.1 haccepts
    refine ⟨s, rfl, ?_⟩
    by_cases hexcluded : ∃ rest, cs = '<' :: '>' :: rest ∧ IsRange rest
    · obtain ⟨rest, rfl, hrest⟩ := hexcluded
      exact exists_marked_range (m := ("!<>", .notBetween)) (by simp [rangeMarkers]) hs hrest
    · rw [hs]
      exact ⟨_, _, .notEqual hcs fun rest hrest hrange => hexcluded ⟨rest, hrest, hrange⟩⟩
  · obtain ⟨s, rfl, haccepts⟩ := Scalar.exists_text h
    obtain ⟨cs, hs, hcs⟩ := InList.accepts_iff.1 haccepts
    refine ⟨s, rfl, ?_⟩
    rw [hs]
    exact ⟨_, _, .oneOf hcs⟩
  · exact absurd rfl hne

/-! ### Dispatching -/

namespace OperatorSet

theorem predicate_eq {op : Operator} (h : op ∈ standard) (value : Scalar) (field : String) :
    op.predicate value field = .field ⟨field, op.comparison, op.arguments value⟩ := by
  rcases mem_standard.1 h with ⟨m, -, rfl⟩ | ⟨m, -, rfl⟩ | rfl | rfl | rfl <;> rfl

variable {ops : OperatorSet}

/-- The standard operators with equality last, and with texts that exclude a range tried before those that
exclude a value. -/
structure Arranged (ops : OperatorSet) : Prop where
  mem : ∀ op, op ∈ ops ↔ op ∈ standard
  order : ops.Pairwise fun op op' =>
    op ≠ .identity ∧ ¬ (op.comparison = .notEqual ∧ op'.comparison = .notBetween)

theorem arranged_standard : Arranged standard where
  mem _ := Iff.rfl
  order := by decide

namespace Arranged

/-- A marked text is dispatched to the operator that understands it. -/
theorem predicate_marked (ha : ops.Arranged) {s : String} {comparison : Comparison} {arguments : Arguments}
    (h : Marked s.toList comparison arguments) (field param : String) :
    ops.predicate (.text s) field param = .ok (.field ⟨field, comparison, arguments⟩) := by
  obtain ⟨op, hop, hne, happlies, rfl, rfl⟩ := h.exists_operator
  obtain ⟨op', hdispatches⟩ : ∃ op', ops.Dispatches (.text s) field param op' :=
    exists_dispatches ((ha.mem op).2 hop) (happlies param)
  have hop' : op' ∈ standard := (ha.mem op').1 hdispatches.mem
  suffices heq : op' = op by
    subst heq
    exact predicate_ok.2 ⟨op', hdispatches, predicate_eq hop _ field⟩
  -- otherwise the operator stands behind the one that the text is dispatched to
  by_contra hdiffer
  obtain ⟨happlies', before, after, rfl, hbefore⟩ := hdispatches
  have hafter : op ∈ after := by
    rcases List.mem_append.1 ((ha.mem op).2 hop) with hmem | hmem
    · have hnot := hbefore op hmem
      rw [Operator.applies_functions, happlies param] at hnot
      cases hnot
    · exact (List.mem_cons.1 hmem).resolve_left (Ne.symm hdiffer)
  have hbehind := (List.pairwise_append.1 ha.order).2.1
  obtain ⟨hne', horder⟩ := (List.pairwise_cons.1 hbehind).1 op hafter
  rcases applies_together hop' hop hne' hne happlies' (happlies param) with
    heq | ⟨rfl, rfl⟩ | ⟨rfl, rfl⟩
  · exact hdiffer heq
  · obtain ⟨rest, hs, hrest⟩ := ValueEncoding.accepts_range.1 happlies'
    rw [hs] at h
    exact Marked.not_isRange h hrest
  · exact horder ⟨rfl, rfl⟩

/-- A value that is no marked text is compared as it is. -/
theorem predicate_plain (ha : ops.Arranged) {value : Scalar}
    (h : ∀ s, value = .text s → ∀ c a, ¬ Marked s.toList c a) (field param : String) :
    ops.predicate value field param = .ok (.field ⟨field, .equal, .value value⟩) := by
  have hidentity : Operator.identity ∈ ops := (ha.mem _).2 identity_mem_standard
  have happlies : Operator.identity.applies value param = true := rfl
  obtain ⟨op, hdispatches⟩ : ∃ op, ops.Dispatches value field param op :=
    exists_dispatches hidentity happlies
  have hop : op = .identity := by
    by_contra hne
    obtain ⟨s, hs, c, a, hmarked⟩ := exists_marked ((ha.mem op).1 hdispatches.mem) hne hdispatches.1
    exact h s hs c a hmarked
  subst hop
  exact predicate_ok.2 ⟨.identity, hdispatches, rfl⟩

theorem predicate_of_reads (ha : ops.Arranged) {value : Scalar} {comparison : Comparison}
    {arguments : Arguments} (h : value.Reads comparison arguments) (field param : String) :
    ops.predicate value field param = .ok (.field ⟨field, comparison, arguments⟩) := by
  cases h with
  | marked h => exact ha.predicate_marked h field param
  | plain h => exact ha.predicate_plain h field param

end Arranged

end OperatorSet

theorem Scalar.exists_reads (value : Scalar) : ∃ c a, value.Reads c a := by
  by_cases h : ∃ s, value = .text s ∧ ∃ c a, Marked s.toList c a
  · obtain ⟨s, rfl, c, a, hmarked⟩ := h
    exact ⟨c, a, .marked hmarked⟩
  · exact ⟨_, _, .plain fun s hs c a hmarked => h ⟨s, hs, c, a, hmarked⟩⟩

/-- **The standard operators accept exactly the grammar of values**: every value asks for one comparison of
the field that it is given for, namely the only one that the grammar reads from it. -/
theorem OperatorSet.standard_predicate (value : Scalar) (field param : String) :
    ∃ c a, standard.predicate value field param = .ok (.field ⟨field, c, a⟩) ∧
      ∀ c' a', value.Reads c' a' ↔ c' = c ∧ a' = a := by
  obtain ⟨c, a, hreads⟩ := value.exists_reads
  have hpredicate := arranged_standard.predicate_of_reads hreads field param
  refine ⟨c, a, hpredicate, fun c' a' => ?_⟩
  constructor
  · intro hreads'
    have heq := (arranged_standard.predicate_of_reads hreads' field param).symm.trans hpredicate
    injection heq with heq
    injection heq with heq
    injection heq with _ hc ha
    exact ⟨hc, ha⟩
  · rintro ⟨rfl, rfl⟩
    exact hreads

end RequestQuery
