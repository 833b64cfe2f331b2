import Mathlib.Data.List.TakeWhile
import RequestQuery.Proofs.Text.Trim
import RequestQuery.Scalar

/-!
# The integer that a text starts with

Digits are counted one by one, and counting stops at the largest 64-bit integer.

* `Text.saturatingValue_eq` — what is counted is the value of the digits, up to that integer.
* `Text.Sign`, `Text.LeadingNumber` — what it is for a text to start with a number.
* `Text.leadingNumber_iff` — the number is found where a lenient reading looks for it.
* `Text.leadingInteger?_eq_none`, `Text.LeadingNumber.leadingInteger?_eq` — when there is no integer, and
  which one there is.
* `Text.leadingNumber_toString`, `Text.leadingInteger?_toString` — the decimal text of an integer.
* `Scalar.toInt64?_text` — lenient reading is exact as far as integers go, but for the least one, whose
  digits are one too many (`Scalar.toInt64?_text_least`).
-/

namespace RequestQuery.Text

/-! ### Counting digits -/

theorem min_mul_add (m n d : Nat) : min m (min m n * 10 + d) = min m (10 * n + d) := by
  omega

/-- Counting that stopped does not start again. -/
theorem foldl_saturating (digits : List Char) (n : Nat) :
    digits.foldl (fun n c => min maxMagnitude (n * 10 + asciiDigitValue c)) (min maxMagnitude n)
      = min maxMagnitude (Nat.ofDigitChars 10 digits n) := by
  induction digits generalizing n with
  | nil => rfl
  | cons c digits ih =>
    rw [List.foldl_cons, min_mul_add, ih, Nat.ofDigitChars_cons]
    rfl

/-- **Digits count as much as their value**, up to the largest number. -/
theorem saturatingValue_eq (digits : List Char) :
    saturatingValue digits = min maxMagnitude (Nat.ofDigitChars 10 digits 0) := by
  show digits.foldl _ (min maxMagnitude 0) = _
  exact foldl_saturating digits 0

/-! ### Characters -/

theorem toNat_bounds_of_isAsciiDigit {c : Char} (h : isAsciiDigit c = true) :
    48 ≤ c.toNat ∧ c.toNat ≤ 57 := by
  rw [isAsciiDigit, Bool.and_eq_true, decide_eq_true_eq, decide_eq_true_eq] at h
  exact h

theorem isBlank_of_isAsciiDigit {c : Char} (h : isAsciiDigit c = true) : isBlank c = false := by
  have hbounds := toNat_bounds_of_isAsciiDigit h
  apply isBlank_of_isDecimalDigit
  rw [isDecimalDigit, CharRanges.contains, List.any_eq_true]
  refine ⟨(0x30, 0x39), by simp [decimalDigitRanges], ?_⟩
  simp only [Bool.and_eq_true, decide_eq_true_eq]
  omega

/-! ### Texts that start with a number -/

/-- The sign in front of a number, which may be left out, and whether it makes the number negative. -/
inductive Sign : Bool → List Char → Prop
  | absent : Sign false []
  | plus : Sign false ['+']
  | minus : Sign true ['-']

/-- A text that starts with a number: blanks, a sign, and digits up to a character that is none. -/
inductive LeadingNumber : List Char → Bool → List Char → Prop
  | mk (blanks digits rest : List Char) {negative : Bool} {sign : List Char}
    (hblanks : ∀ c ∈ blanks, isBlank c = true) (hsign : Sign negative sign)
    (hsome : digits ≠ []) (hdigits : ∀ c ∈ digits, isAsciiDigit c = true)
    (hrest : ∀ c, rest.head? = some c → isAsciiDigit c = false) :
    LeadingNumber (blanks ++ (sign ++ (digits ++ rest))) negative digits

/-- The integer that digits write behind a sign. -/
def signedValue (negative : Bool) (digits : List Char) : Int :=
  if negative then -(Nat.ofDigitChars 10 digits 0 : Nat) else (Nat.ofDigitChars 10 digits 0 : Nat)

theorem sign_splitSign (cs : List Char) :
    ∃ sign, Sign (splitSign cs).1 sign ∧ cs = sign ++ (splitSign cs).2 := by
  unfold splitSign
  split
  · exact ⟨_, .minus, rfl⟩
  · exact ⟨_, .plus, rfl⟩
  · exact ⟨_, .absent, rfl⟩

theorem splitSign_digit {c : Char} (h : isAsciiDigit c = true) (cs : List Char) :
    splitSign (c :: cs) = (false, c :: cs) := by
  unfold splitSign
  split
  · rename_i heq
    cases heq
    cases h
  · rename_i heq
    cases heq
    cases h
  · rfl

/-- A sign is split off where digits follow it. -/
theorem Sign.splitSign_append {negative : Bool} {sign : List Char} (h : Sign negative sign) {c : Char}
    (hc : isAsciiDigit c = true) (cs : List Char) :
    splitSign (sign ++ c :: cs) = (negative, c :: cs) := by
  cases h with
  | absent => exact splitSign_digit hc cs
  | plus => rfl
  | minus => rfl

/-- Neither a sign nor a digit is a blank. -/
theorem Sign.trimStart_append {negative : Bool} {sign : List Char} (h : Sign negative sign) {c : Char}
    (hc : isAsciiDigit c = true) (cs : List Char) :
    trimStart (sign ++ c :: cs) = sign ++ c :: cs := by
  cases h with
  | absent => exact List.dropWhile_cons_of_neg (by simp [isBlank_of_isAsciiDigit hc])
  | plus => rfl
  | minus => rfl

/-- **Where a number stands**: behind the blanks and a sign, and up to the last of its digits. -/
theorem leadingNumber_iff {cs digits : List Char} {negative : Bool} :
    LeadingNumber cs negative digits ↔
      digits ≠ [] ∧ (splitSign (trimStart cs)).1 = negative ∧
        (splitSign (trimStart cs)).2.takeWhile isAsciiDigit = digits := by
  constructor
  · intro h
    cases h with
    | @mk blanks _ rest _ sign hblanks hsign hsome hdigits hrest =>
      obtain ⟨c, ds, rfl⟩ := List.exists_cons_of_ne_nil hsome
      have hc : isAsciiDigit c = true := hdigits c List.mem_cons_self
      have htrim : trimStart (blanks ++ (sign ++ (c :: ds ++ rest))) = sign ++ c :: (ds ++ rest) := by
        rw [trimStart, List.dropWhile_append_of_pos hblanks]
        exact hsign.trimStart_append hc _
      have hstop : rest.takeWhile isAsciiDigit = [] := by
        cases rest with
        | nil => rfl
        | cons r rest => simp [hrest r rfl]
      rw [htrim, hsign.splitSign_append hc, ← List.cons_append]
      refine ⟨hsome, rfl, ?_⟩
      show (c :: ds ++ rest).takeWhile isAsciiDigit = c :: ds
      rw [List.takeWhile_append_of_pos hdigits, hstop, List.append_nil]
  · intro h
    obtain ⟨hsome, rfl, rfl⟩ := h
    obtain ⟨sign, hsign, hsplit⟩ := sign_splitSign (trimStart cs)
    have hcs : cs = cs.takeWhile isBlank ++ (sign ++
        ((splitSign (trimStart cs)).2.takeWhile isAsciiDigit
          ++ (splitSign (trimStart cs)).2.dropWhile isAsciiDigit)) := by
      rw [List.takeWhile_append_dropWhile, ← hsplit]
      exact List.takeWhile_append_dropWhile.symm
    generalize splitSign (trimStart cs) = split at *
    rw [hcs]
    refine .mk _ _ _ (fun c hc => List.mem_takeWhile_imp hc) hsign hsome
      (fun c hc => List.mem_takeWhile_imp hc) fun c hc => ?_
    have hhead := List.head?_dropWhile_not isAsciiDigit split.2
    rw [hc] at hhead
    exact hhead

/-! ### Reading -/

theorem toInt_ofInt_of_bounds {i : Int} (h : -maxMagnitude ≤ i) (h' : i ≤ maxMagnitude) :
    (Int64.ofInt i).toInt = i := by
  have hmax : maxMagnitude = 2 ^ 63 - 1 := rfl
  have hlow : Int64.minValue.toInt ≤ i := by
    show -(2 ^ 63) ≤ i
    omega
  have hhigh : i ≤ Int64.maxValue.toInt := by
    show i ≤ 2 ^ 63 - 1
    omega
  rw [← Int64.ofIntLE_eq_ofInt hlow hhigh, Int64.toInt_ofIntLE]

theorem leadingInteger?_eq_none {cs : List Char} :
    leadingInteger? cs = none ↔ ¬ ∃ negative digits, LeadingNumber cs negative digits := by
  have hread : leadingInteger? cs = none ↔
      (splitSign (trimStart cs)).2.takeWhile isAsciiDigit = [] := by
    simp [leadingInteger?]
  rw [hread]
  constructor
  · intro hempty h
    obtain ⟨negative, digits, h⟩ := h
    obtain ⟨hsome, -, rfl⟩ := leadingNumber_iff.1 h
    exact hsome hempty
  · intro h
    by_contra hsome
    exact h ⟨_, _, leadingNumber_iff.2 ⟨hsome, rfl, rfl⟩⟩

/-- **The integer that a number is read as**: its value, cut off at the largest integer and at the
opposite of that. -/
theorem LeadingNumber.leadingInteger?_eq {cs digits : List Char} {negative : Bool}
    (h : LeadingNumber cs negative digits) :
    ∃ i, leadingInteger? cs = some i ∧
      i.toInt = max (-Int64.maxValue.toInt) (min Int64.maxValue.toInt (signedValue negative digits)) := by
  obtain ⟨hsome, hnegative, hdigits⟩ := leadingNumber_iff.1 h
  have hread : leadingInteger? cs = some (Int64.ofInt
      (if negative then -(saturatingValue digits : Int) else saturatingValue digits)) := by
    simp only [leadingInteger?, hnegative, hdigits]
    rw [if_neg (by simpa using hsome)]
  refine ⟨_, hread, ?_⟩
  have hmax : Int64.maxValue.toInt = maxMagnitude := rfl
  rw [hmax, saturatingValue_eq, signedValue]
  generalize Nat.ofDigitChars 10 digits 0 = value
  cases negative with
  | false =>
    show (Int64.ofInt ((min maxMagnitude value : Nat) : Int)).toInt = max _ (min _ (value : Int))
    rw [toInt_ofInt_of_bounds] <;> omega
  | true =>
    show (Int64.ofInt (-((min maxMagnitude value : Nat) : Int))).toInt = max _ (min _ (-(value : Int)))
    rw [toInt_ofInt_of_bounds] <;> omega

/-! ### The decimal text of an integer -/

theorem leadingNumber_toString (i : Int) :
    LeadingNumber (toString i).toList (decide (i < 0)) (Nat.toDigits 10 i.natAbs) := by
  have hdigits : ∀ n, ∀ c ∈ Nat.toDigits 10 n, isAsciiDigit c = true := by
    intro n c hc
    exact Nat.isDigit_of_mem_toDigits (by decide) (by decide) hc
  have hrest : ∀ c, ([] : List Char).head? = some c → isAsciiDigit c = false := nofun
  rw [Int.toString_eq_repr, Int.repr_eq_if]
  by_cases hneg : i < 0
  · have habs : (-i).toNat = i.natAbs := by omega
    have hminus := LeadingNumber.mk [] _ [] nofun .minus Nat.toDigits_ne_nil (hdigits i.natAbs) hrest
    rw [if_neg (Int.not_le.2 hneg), habs, String.toList_append, Nat.toList_repr, decide_eq_true hneg]
    rw [List.append_nil] at hminus
    exact hminus
  · have habs : i.toNat = i.natAbs := by omega
    have hplain := LeadingNumber.mk [] _ [] nofun .absent Nat.toDigits_ne_nil (hdigits i.natAbs) hrest
    rw [if_pos (Int.not_lt.1 hneg), habs, Nat.toList_repr, decide_eq_false hneg]
    rw [List.append_nil] at hplain
    exact hplain

theorem signedValue_toDigits (i : Int) :
    signedValue (decide (i < 0)) (Nat.toDigits 10 i.natAbs) = i := by
  rw [signedValue, Nat.ofDigitChars_ten_toDigits]
  by_cases hneg : i < 0
  · simp only [hneg, decide_true, if_true]
    omega
  · simp only [hneg, decide_false, Bool.false_eq_true, if_false]
    omega

/-- **The decimal text of an integer gives that integer back**, but for the least one. -/
theorem leadingInteger?_toString (n : Int64) :
    ∃ i, leadingInteger? (toString n.toInt).toList = some i ∧
      i.toInt = max (-Int64.maxValue.toInt) n.toInt := by
  obtain ⟨i, hread, hi⟩ := (leadingNumber_toString n.toInt).leadingInteger?_eq
  rw [signedValue_toDigits, Int.min_eq_right n.toInt_le] at hi
  exact ⟨i, hread, hi⟩

end RequestQuery.Text

namespace RequestQuery.Scalar

open Text

/-- **Lenient reading of texts.** There is no integer just if the text does not start with a number. Else it
is the value of all its digits behind the sign, cut off at the largest integer and at the opposite of that,
however many digits there are; this is the nearest integer that there is unless the value is the least one or
below. So the decimal text of an integer is read as that integer, but for the least one. -/
theorem toInt64?_text (s : String) :
    ((text s).toInt64? = none ↔ ¬ ∃ negative digits, LeadingNumber s.toList negative digits) ∧
    (∀ negative digits, LeadingNumber s.toList negative digits →
      ∃ i, (text s).toInt64? = some i ∧
        i.toInt
          = max (-Int64.maxValue.toInt) (min Int64.maxValue.toInt (signedValue negative digits)) ∧
        (i.toInt = max Int64.minValue.toInt (min Int64.maxValue.toInt (signedValue negative digits))
          ↔ Int64.minValue.toInt < signedValue negative digits)) ∧
    ∀ n : Int64, s = toString n.toInt → ((text s).toInt64? = some n ↔ n ≠ Int64.minValue) := by
  have hmin : Int64.minValue.toInt = -Int64.maxValue.toInt - 1 := rfl
  have hmax : 0 ≤ Int64.maxValue.toInt := by decide
  refine ⟨leadingInteger?_eq_none, ?_, ?_⟩
  · intro negative digits h
    obtain ⟨i, hread, hi⟩ := h.leadingInteger?_eq
    refine ⟨i, hread, hi, ?_⟩
    omega
  · intro n hs
    obtain ⟨i, hread, hi⟩ := leadingInteger?_toString n
    have htext : (text s).toInt64? = some i := by
      rw [hs]
      exact hread
    have hlow := n.minValue_le_toInt
    rw [htext, Option.some_inj, ← Int64.toInt_inj, ne_eq, ← Int64.toInt_inj]
    omega

theorem toInt64?_text_saturated :
    LeadingNumber "\u2003-99999999999999999999 rows".toList true (List.replicate 20 '9') ∧
    (∃ i, (text "\u2003-99999999999999999999 rows").toInt64? = some i ∧
      i.toInt = -9223372036854775807) ∧
    ("-42" = toString (-42 : Int64).toInt ∧ (text "-42").toInt64? = some (-42)) := by
  have hleading : LeadingNumber "\u2003-99999999999999999999 rows".toList true
      (List.replicate 20 '9') :=
    .mk ['\u2003'] (List.replicate 20 '9') " rows".toList (List.all_eq_true.1 (by decide)) .minus
      (by decide) (List.all_eq_true.1 (by decide)) (by simp; decide)
  have htext : "-42" = toString (-42 : Int64).toInt := by decide
  refine ⟨hleading, ?_, htext, ((toInt64?_text "-42").2.2 (-42) htext).2 (by decide)⟩
  obtain ⟨i, hread, hi, -⟩ := (toInt64?_text _).2.1 _ _ hleading
  exact ⟨i, hread, hi⟩

/-- The least integer is in range, but counting its digits stops one too early. -/
theorem toInt64?_text_least :
    toString Int64.minValue.toInt = "-9223372036854775808" ∧
    LeadingNumber "-9223372036854775808".toList true "9223372036854775808".toList ∧
    signedValue true "9223372036854775808".toList = Int64.minValue.toInt ∧
    (text "-9223372036854775808").toInt64? = some (-9223372036854775807) ∧
    (-9223372036854775807 : Int64) ≠ Int64.minValue := by
  refine ⟨by decide, ?_, by decide, by decide, by decide⟩
  exact .mk [] "9223372036854775808".toList [] nofun .minus (by decide)
    (List.all_eq_true.1 (by decide)) nofun

end RequestQuery.Scalar
