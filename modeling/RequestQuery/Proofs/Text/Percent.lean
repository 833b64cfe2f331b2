import Mathlib.Data.List.Basic
import RequestQuery.Text.Basic

/-!
# Form encoding and its decoding

The bytes of a text are written as characters of ASCII: some characters stand for themselves, a space may
be a plus sign, and every byte may be a percent sign with two hexadecimal digits.

* `FormEncoded` — the ways of writing bytes.
* `FormEncoded.isFormChar` — what is written has no separator of a query string in it.
* `percentDecode_of_formEncoded`, `decodeComponent_of_formEncoded` — decoding gives back what was written,
  in whichever way it was.
-/

namespace RequestQuery.Text

/-! ### Bytes of a text -/

/-- The bytes of a text. -/
def utf8 (s : String) : List UInt8 :=
  s.toUTF8.toList

theorem toList_loop_eq (bytes : ByteArray) (i : Nat) (read : List UInt8) :
    ByteArray.toList.loop bytes i read = read.reverse ++ bytes.data.toList.drop i := by
  fun_induction ByteArray.toList.loop bytes i read with
  | case1 i read hi ih =>
    have hlt : i < bytes.data.toList.length := by simpa using hi
    rw [ih, List.drop_eq_getElem_cons hlt]
    simp [ByteArray.get!, hi]
  | case2 i read hi =>
    have hle : bytes.data.toList.length ≤ i := by simpa using Nat.le_of_not_lt hi
    rw [List.drop_eq_nil_of_le hle, List.append_nil]

theorem utf8_eq (s : String) : utf8 s = s.toByteArray.data.toList := by
  change s.toByteArray.toList = _
  rw [ByteArray.toList, toList_loop_eq]
  rfl

/-- Characters of ASCII are written as one byte each. -/
theorem utf8_ofList {cs : List Char} (h : ∀ c ∈ cs, c.toNat < 0x80) :
    utf8 (String.ofList cs) = cs.map Char.toUInt8 := by
  have hbytes : cs.flatMap String.utf8EncodeChar = cs.map Char.toUInt8 := by
    rw [List.map_eq_flatMap]
    refine List.flatMap_congr fun c hc => ?_
    have hsmall : c.toNat ≤ 127 := Nat.le_of_lt_succ (h c hc)
    rw [String.utf8EncodeChar]
    exact if_pos hsmall
  rw [utf8_eq, String.toByteArray_ofList, List.utf8Encode, List.toList_data_toByteArray, hbytes]

/-- The bytes of a text are read as that text. -/
theorem fromUTF8?_utf8 (s : String) : String.fromUTF8? ⟨(utf8 s).toArray⟩ = some s := by
  have hbytes : (⟨(utf8 s).toArray⟩ : ByteArray) = s.toByteArray := by
    rw [utf8_eq]
  rw [hbytes, String.fromUTF8?, dif_pos s.isValidUTF8]
  rfl

/-! ### Writing -/

/-- The characters that may stand for themselves: ASCII letters and digits, and four signs. -/
def isUnreserved (c : Char) : Bool :=
  c.isAlphanum || c == '-' || c == '_' || c == '.' || c == '~'

/-- Whether a character is the hexadecimal digit of a number, in upper or lower case. -/
def IsHexDigit (n : Nat) (c : Char) : Prop :=
  c = n.digitChar ∨ c = n.digitChar.toUpper

instance (n : Nat) (c : Char) : Decidable (IsHexDigit n c) :=
  inferInstanceAs (Decidable (_ ∨ _))

/-- The ways of writing bytes in a query string. -/
inductive FormEncoded : List UInt8 → List Char → Prop
  | nil : FormEncoded [] []
  | plain {c : Char} {bs : List UInt8} {cs : List Char} (hc : isUnreserved c = true)
    (h : FormEncoded bs cs) : FormEncoded (c.toUInt8 :: bs) (c :: cs)
  | plus {bs : List UInt8} {cs : List Char} (h : FormEncoded bs cs) :
    FormEncoded (0x20 :: bs) ('+' :: cs)
  | percent {b : UInt8} {bs : List UInt8} {high low : Char} {cs : List Char}
    (hhigh : IsHexDigit (b.toNat / 16) high) (hlow : IsHexDigit (b.toNat % 16) low)
    (h : FormEncoded bs cs) : FormEncoded (b :: bs) ('%' :: high :: low :: cs)

/-- The characters that writing makes use of. -/
def isFormChar (c : Char) : Bool :=
  isUnreserved c || c == '+' || c == '%'

theorem toNat_of_isAlphanum {c : Char} (h : c.isAlphanum = true) : c.toNat < 0x80 := by
  change (c.isUpper || c.isLower || c.isDigit) = true at h
  rw [Bool.or_eq_true, Bool.or_eq_true] at h
  -- each class ends at a character of ASCII
  have hlast : c ≤ 'Z' ∨ c ≤ 'z' ∨ c ≤ '9' := by
    rcases h with (h | h) | h
    · exact .inl ((of_decide_eq_true h).2)
    · exact .inr (.inl (of_decide_eq_true (Bool.and_eq_true_iff.1 h).2))
    · exact .inr (.inr (of_decide_eq_true (Bool.and_eq_true_iff.1 h).2))
  rcases hlast with h | h | h <;> exact Nat.lt_of_le_of_lt (UInt32.le_iff_toNat_le.1 h) (by decide)

theorem toNat_bounds_of_isUnreserved {c : Char} (h : isUnreserved c = true) :
    c.toNat < 0x80 ∧ c ≠ '+' ∧ c ≠ '%' ∧ c ≠ '&' ∧ c ≠ '=' ∧ c ≠ '?' := by
  have hlt : c.toNat < 0x80 := by
    simp only [isUnreserved, Bool.or_eq_true, beq_iff_eq] at h
    rcases h with ((((h | rfl) | rfl) | rfl) | rfl)
    · exact toNat_of_isAlphanum h
    all_goals decide
  refine ⟨hlt, ?_, ?_, ?_, ?_, ?_⟩ <;> rintro rfl <;> exact absurd h (by decide)

theorem isFormChar_bounds {c : Char} (h : isFormChar c = true) :
    c.toNat < 0x80 ∧ c ≠ '&' ∧ c ≠ '=' ∧ c ≠ '?' := by
  simp only [isFormChar, Bool.or_eq_true, beq_iff_eq] at h
  rcases h with (h | rfl) | rfl
  · obtain ⟨hlt, -, -, hamp, heq, hmark⟩ := toNat_bounds_of_isUnreserved h
    exact ⟨hlt, hamp, heq, hmark⟩
  all_goals decide

theorem isUnreserved_of_isHexDigit : ∀ n < 16, ∀ {c : Char}, IsHexDigit n c → isUnreserved c = true := by
  rintro n hn c (rfl | rfl) <;> revert n <;> decide

theorem FormEncoded.isFormChar {bs : List UInt8} {cs : List Char} (h : FormEncoded bs cs) :
    ∀ c ∈ cs, isFormChar c = true := by
  induction h with
  | nil => exact fun c hc => absurd hc List.not_mem_nil
  | plain hc _ ih =>
    refine List.forall_mem_cons.2 ⟨?_, ih⟩
    rw [Text.isFormChar, hc]
    rfl
  | plus _ ih => exact List.forall_mem_cons.2 ⟨by decide, ih⟩
  | @percent b bs high low cs hhigh hlow _ ih =>
    have hhigh := isUnreserved_of_isHexDigit _ (Nat.div_lt_of_lt_mul b.toNat_lt) hhigh
    have hlow := isUnreserved_of_isHexDigit _ (Nat.mod_lt _ (by decide)) hlow
    refine List.forall_mem_cons.2 ⟨by decide, List.forall_mem_cons.2 ⟨?_, List.forall_mem_cons.2 ⟨?_, ih⟩⟩⟩
    · simp [Text.isFormChar, hhigh]
    · simp [Text.isFormChar, hlow]

/-! ### Reading -/

theorem percentDecode_cons_of_ne {b : UInt8} (hb : b ≠ 0x25) (rest : List UInt8) :
    percentDecode (b :: rest) = b :: percentDecode rest := by
  match rest with
  | [] => rfl
  | [_] => rfl
  | _ :: _ :: _ => rw [percentDecode, if_neg hb]

theorem hexByteValue?_of_isHexDigit :
    ∀ n < 16, ∀ {c : Char}, IsHexDigit n c → hexByteValue? c.toUInt8 = some (UInt8.ofNat n) := by
  rintro n hn c (rfl | rfl) <;> revert n <;> decide

theorem hexByte?_of_isHexDigit {b : UInt8} {high low : Char} (hhigh : IsHexDigit (b.toNat / 16) high)
    (hlow : IsHexDigit (b.toNat % 16) low) : hexByte? high.toUInt8 low.toUInt8 = some b := by
  have hb := b.toNat_lt
  have hhigh := hexByteValue?_of_isHexDigit _ (Nat.div_lt_of_lt_mul hb) hhigh
  have hlow := hexByteValue?_of_isHexDigit _ (Nat.mod_lt _ (by decide)) hlow
  have hvalue : UInt8.ofNat (b.toNat / 16) * 16 + UInt8.ofNat (b.toNat % 16) = b := by
    refine UInt8.toNat_inj.1 ?_
    simp only [UInt8.toNat_add, UInt8.toNat_mul, UInt8.toNat_ofNat', UInt8.toNat_ofNat]
    omega
  rw [hexByte?, hhigh, hlow]
  exact congrArg some hvalue

/-- The character that stands in a written text for the decoder: a space for a plus sign. -/
def spaced (c : Char) : Char :=
  if c = '+' then ' ' else c

theorem spaced_of_isUnreserved {c : Char} (h : isUnreserved c = true) : spaced c = c :=
  if_neg (toNat_bounds_of_isUnreserved h).2.1

theorem percentDecode_of_formEncoded {bs : List UInt8} {cs : List Char} (h : FormEncoded bs cs) :
    percentDecode ((cs.map spaced).map Char.toUInt8) = bs := by
  induction h with
  | nil => rfl
  | @plain c bs cs hc _ ih =>
    obtain ⟨hlt, -, hpercent, -⟩ := toNat_bounds_of_isUnreserved hc
    have hne : c.toUInt8 ≠ 0x25 := by
      intro heq
      have hnat : c.toNat % 256 = 0x25 := congrArg UInt8.toNat heq
      have hcode : c.toNat = '%'.toNat := by
        rw [← Nat.mod_eq_of_lt (show c.toNat < 256 by omega), hnat]
        rfl
      exact hpercent (Char.toNat_inj.1 hcode)
    rw [List.map_cons, List.map_cons, spaced_of_isUnreserved hc, percentDecode_cons_of_ne hne, ih]
  | plus _ ih =>
    rw [List.map_cons, List.map_cons]
    exact (percentDecode_cons_of_ne (by decide) _).trans (congrArg _ ih)
  | @percent b bs high low cs hhigh hlow _ ih =>
    have hhigh' := isUnreserved_of_isHexDigit _ (Nat.div_lt_of_lt_mul b.toNat_lt) hhigh
    have hlow' := isUnreserved_of_isHexDigit _ (Nat.mod_lt _ (by decide)) hlow
    simp only [List.map_cons, spaced_of_isUnreserved hhigh', spaced_of_isUnreserved hlow']
    rw [percentDecode, if_pos (by decide), hexByte?_of_isHexDigit hhigh hlow, ih]

/-- A part of a query string stands for the text that was written, whichever way it was written. -/
theorem decodeComponent_of_formEncoded {s : String} {cs : List Char} (h : FormEncoded (utf8 s) cs) :
    decodeComponent (String.ofList cs) = s := by
  have hspaced : plusToSpace (String.ofList cs) = String.ofList (cs.map spaced) := by
    rw [plusToSpace, String.toList_ofList]
    rfl
  have hascii : ∀ c ∈ cs.map spaced, c.toNat < 0x80 := by
    intro c hc
    obtain ⟨c', hc', rfl⟩ := List.mem_map.1 hc
    rw [spaced]
    split
    · decide
    · exact (isFormChar_bounds (h.isFormChar c' hc')).1
  have hbytes : percentDecode (plusToSpace (String.ofList cs)).toUTF8.toList = utf8 s := by
    rw [hspaced]
    exact (congrArg percentDecode (utf8_ofList hascii)).trans (percentDecode_of_formEncoded h)
  rw [decodeComponent, hbytes, fromUTF8?_utf8, Option.getD_some]

end RequestQuery.Text
