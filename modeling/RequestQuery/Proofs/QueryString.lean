import Mathlib.Data.List.Forall2
import Mathlib.Data.List.Induction
import RequestQuery.Params
import RequestQuery.Proofs.Text.Percent
import RequestQuery.Proofs.Text.Split

/-!
# Reading a query string undoes writing it

* `Writes` — a query string that is written from names and values in their order.
* `queryPairs_of_writes` — the names and values are read back.
* `get?_collected` — what the parameters hold for each name after a list of names and values.
* `ofQueryString_of_writes` — each name has its only value, or the list of its values, in the parameters of
  a written query string, and nothing else is there.
-/

namespace RequestQuery.Params

open Text

/-! ### Writing -/

/-- Whether a part of a query string is a written name, an equals sign and a written value. -/
def WritesPair (pair : String × String) (part : List Char) : Prop :=
  ∃ name value, FormEncoded (utf8 pair.1) name ∧ FormEncoded (utf8 pair.2) value ∧
    part = name ++ '=' :: value

/-- Whether a query string is written from names and values: the written pairs in their order with `&`
between them, possibly with empty parts among them and a question mark in front. -/
def Writes (pairs : List (String × String)) (query : String) : Prop :=
  ∃ mark parts, (mark = [] ∨ mark = ['?']) ∧ query = String.ofList (mark ++ ['&'].intercalate parts) ∧
    List.Forall₂ WritesPair pairs (parts.filter fun part => !part.isEmpty)

theorem WritesPair.bounds {pair : String × String} {part : List Char} (h : WritesPair pair part) :
    ∀ c ∈ part, c ≠ '&' ∧ c ≠ '?' := by
  obtain ⟨name, value, hname, hvalue, rfl⟩ := h
  intro c hc
  rcases List.mem_append.1 hc with hc | hc
  · obtain ⟨-, hamp, -, hmark⟩ := isFormChar_bounds (hname.isFormChar c hc)
    exact ⟨hamp, hmark⟩
  · rcases List.mem_cons.1 hc with rfl | hc
    · decide
    · obtain ⟨-, hamp, -, hmark⟩ := isFormChar_bounds (hvalue.isFormChar c hc)
      exact ⟨hamp, hmark⟩

/-- Neither separators nor a question mark stand inside the parts of a written query string. -/
theorem bounds_of_forall₂ {pairs : List (String × String)} {written : List (List Char)}
    (h : List.Forall₂ WritesPair pairs written) :
    ∀ part ∈ written, ∀ c ∈ part, c ≠ '&' ∧ c ≠ '?' := by
  induction h with
  | nil => exact fun part hpart => absurd hpart List.not_mem_nil
  | cons hpair _ ih => exact List.forall_mem_cons.2 ⟨hpair.bounds, ih⟩

/-! ### Reading the pairs -/

theorem splitPair_of_writesPair {pair : String × String} {part : List Char} (h : WritesPair pair part) :
    splitPair part = pair := by
  obtain ⟨name, value, hname, hvalue, rfl⟩ := h
  have hnot : '=' ∉ name := fun hmem => (isFormChar_bounds (hname.isFormChar _ hmem)).2.2.1 rfl
  have hcut : cut? '=' (name ++ '=' :: value) = some (name, value) := cut?_eq_some.2 ⟨rfl, hnot⟩
  rw [splitPair, hcut]
  exact Prod.ext (decodeComponent_of_formEncoded hname) (decodeComponent_of_formEncoded hvalue)

theorem map_splitPair {pairs : List (String × String)} {parts : List (List Char)}
    (h : List.Forall₂ WritesPair pairs parts) : parts.map splitPair = pairs := by
  induction h with
  | nil => rfl
  | cons hpair _ ih => rw [List.map_cons, splitPair_of_writesPair hpair, ih]

/-- A question mark in front is taken away, and no other one. -/
theorem stripStart?_mark {mark body : List Char} (hmark : mark = [] ∨ mark = ['?']) (hbody : '?' ∉ body) :
    (stripStart? ['?'] (mark ++ body)).getD (mark ++ body) = body := by
  rcases hmark with rfl | rfl
  · cases hstrip : stripStart? ['?'] ([] ++ body) with
    | none => rfl
    | some rest =>
      have hstart : body = '?' :: rest := stripStart?_eq_some.1 hstrip
      rw [hstart] at hbody
      exact absurd List.mem_cons_self hbody
  · rw [stripStart?_eq_some.2 rfl, Option.getD_some]

/-- The parts between separators are the parts that were joined, empty ones apart. -/
theorem filter_splitOn_intercalate {parts : List (List Char)} (h : ∀ part ∈ parts, '&' ∉ part) :
    ((splitOn '&' (['&'].intercalate parts)).filter fun part => !part.isEmpty) =
      parts.filter fun part => !part.isEmpty := by
  by_cases hne : parts = []
  · subst hne
    rfl
  · rw [splitOn_intercalate hne h]

theorem queryPairs_of_writes {pairs : List (String × String)} {query : String}
    (hnames : ∀ pair ∈ pairs, pair.1 ≠ "") (h : Writes pairs query) : queryPairs query = pairs := by
  obtain ⟨mark, parts, hmark, rfl, hparts⟩ := h
  have hbounds : ∀ part ∈ parts, ∀ c ∈ part, c ≠ '&' ∧ c ≠ '?' := by
    intro part hpart c hc
    have hne : (!part.isEmpty) = true := by simpa using List.ne_nil_of_mem hc
    exact bounds_of_forall₂ hparts part (List.mem_filter.2 ⟨hpart, hne⟩) c hc
  have hbody : '?' ∉ ['&'].intercalate parts := by
    intro hmem
    rcases mem_intercalate hmem with hsep | ⟨part, hpart, hc⟩
    · exact absurd hsep (by decide)
    · exact (hbounds part hpart _ hc).2 rfl
  have hsplit := filter_splitOn_intercalate fun part hpart hmem => (hbounds part hpart _ hmem).1 rfl
  have hkept : (pairs.filter fun pair => !pair.1.isEmpty) = pairs := by
    refine List.filter_eq_self.2 fun pair hpair => ?_
    simpa using hnames pair hpair
  rw [queryPairs, String.toList_ofList, stripStart?_mark hmark hbody, hsplit, map_splitPair hparts, hkept]

/-! ### Collecting the values of a name -/

/-- The values of a name, in order. -/
def textsOf (pairs : List (String × String)) (name : String) : List String :=
  (pairs.filter fun pair => pair.1 = name).map Prod.snd

/-- What stands for the values of a name: nothing for none, a text for one, and the list of them for
several. -/
def collected : List String → Option Json
  | [] => none
  | [text] => some (.string text)
  | texts => some (.array (texts.map .string))

theorem collected_concat (texts : List String) (text : String) :
    collected (texts ++ [text]) = some (collect (.string text) (collected texts)) := by
  match texts with
  | [] => rfl
  | [_] => rfl
  | _ :: _ :: _ => simp [collected, collect]

theorem get?_collected (pairs : List (String × String)) (name : String) :
    (pairs.foldl (fun values pair => values.upsert pair.1 (collect (.string pair.2)))
      (∅ : SortedMap String Json)).get? name = collected (textsOf pairs name) := by
  -- the parameters hold for each name what stands for its values so far
  induction pairs using List.reverseRecOn with
  | nil => rfl
  | append_singleton pairs pair ih =>
    rw [List.foldl_concat, SortedMap.get?_upsert]
    by_cases hname : pair.1 = name
    · subst hname
      have htexts : textsOf (pairs ++ [pair]) pair.1 = textsOf pairs pair.1 ++ [pair.2] := by
        simp [textsOf]
      rw [if_pos rfl, htexts, collected_concat, ih]
    · have htexts : textsOf (pairs ++ [pair]) name = textsOf pairs name := by
        simp [textsOf, hname]
      rw [if_neg (Ne.symm hname), htexts, ih]

/-- In the parameters of a written query string, a name that occurs once has its value, a name that occurs
several times the list of its values in their order, and no other name is there. -/
theorem ofQueryString_of_writes {pairs : List (String × String)} {query : String}
    (hnames : ∀ pair ∈ pairs, pair.1 ≠ "") (h : Writes pairs query) (name : String) :
    (ofQueryString query).get? name = collected (textsOf pairs name) := by
  rw [ofQueryString, queryPairs_of_writes hnames h]
  exact get?_collected pairs name

/-- Three written pairs, with empty parts between and behind them. -/
theorem writes_cafe : Writes [("a", "1"), ("b", "x y"), ("a", "é ")] "?a=1&&b=x+y&a=%c3%A9%20&" := by
  have hone : FormEncoded (utf8 "1") ['1'] := by
    rw [utf8_eq]
    exact .plain (by decide) .nil
  have ha : FormEncoded (utf8 "a") ['a'] := by
    rw [utf8_eq]
    exact .plain (by decide) .nil
  have hb : FormEncoded (utf8 "b") ['b'] := by
    rw [utf8_eq]
    exact .plain (by decide) .nil
  have hxy : FormEncoded (utf8 "x y") ['x', '+', 'y'] := by
    rw [utf8_eq]
    exact .plain (by decide) (.plus (.plain (by decide) .nil))
  have he : FormEncoded (utf8 "é ") ['%', 'c', '3', '%', 'A', '9', '%', '2', '0'] := by
    rw [utf8_eq]
    exact .percent (by decide) (by decide) (.percent (by decide) (by decide)
      (.percent (by decide) (by decide) .nil))
  refine ⟨['?'], ["a=1".toList, [], "b=x+y".toList, "a=%c3%A9%20".toList, []], .inr rfl, rfl, ?_⟩
  exact .cons ⟨_, _, ha, hone, rfl⟩ (.cons ⟨_, _, hb, hxy, rfl⟩ (.cons ⟨_, _, ha, he, rfl⟩ .nil))

theorem ofQueryString_of_writes_cafe :
    (∀ pair ∈ [("a", "1"), ("b", "x y"), ("a", "é ")], pair.1 ≠ "") ∧
    Writes [("a", "1"), ("b", "x y"), ("a", "é ")] "?a=1&&b=x+y&a=%c3%A9%20&" ∧
    (ofQueryString "?a=1&&b=x+y&a=%c3%A9%20&").get? "a" = some (.array [.string "1", .string "é "]) ∧
    (ofQueryString "?a=1&&b=x+y&a=%c3%A9%20&").get? "b" = some (.string "x y") ∧
    (ofQueryString "?a=1&&b=x+y&a=%c3%A9%20&").get? "c" = none := by
  have hnames : ∀ pair ∈ [("a", "1"), ("b", "x y"), ("a", "é ")], pair.1 ≠ "" := by decide
  have hread := ofQueryString_of_writes hnames writes_cafe
  exact ⟨hnames, writes_cafe, hread "a", hread "b", hread "c"⟩

end RequestQuery.Params
