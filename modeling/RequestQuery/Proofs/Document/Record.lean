import RequestQuery.Document.Record
import RequestQuery.Proofs.Except

/-!
# Records member by member

* `Document.putMember`, `Document.readMembers_eq_foldlM` — a table of known keys, none of them repeated, is
  read member by member.
* `Document.record_perm` — the order of its members does not matter, if reading one member does not depend
  on another.
* `Document.record_preserves` — what reading every field keeps, reading a record keeps.
-/

namespace RequestQuery.Document

variable {σ : Type}

/-- Read one member of a table into a structure; an unknown one leaves the structure as it is. -/
def putMember (fields : List (Field σ)) (s : σ) (m : String × Document) : Reading σ :=
  match fields.find? fun f => f.key == m.1 with
  | some f => f.put s m.2
  | none => .ok s

variable {fields : List (Field σ)} {closed : Bool}

theorem putMember_eq {m : String × Document} {f : Field σ}
    (h : fields.find? (fun f => f.key == m.1) = some f) (s : σ) :
    putMember fields s m = f.put s m.2 := by
  simp only [putMember, h]

theorem readMembers_eq_foldlM {seen : List String} {ms : List (String × Document)}
    (hknown : ∀ m ∈ ms, (fields.find? fun f => f.key == m.1).isSome)
    (hnodup : (ms.map Prod.fst).Nodup) (hfresh : ∀ m ∈ ms, m.1 ∉ seen) (s : σ) :
    readMembers fields closed seen s ms = ms.foldlM (putMember fields) s := by
  induction ms generalizing seen s with
  | nil => rfl
  | cons m ms ih =>
    obtain ⟨key, d⟩ := m
    obtain ⟨hkey, hknown'⟩ := List.forall_mem_cons.1 hknown
    obtain ⟨hseen, hfresh'⟩ := List.forall_mem_cons.1 hfresh
    obtain ⟨hnew, hnodup'⟩ := List.nodup_cons.1 hnodup
    obtain ⟨f, hf⟩ := Option.isSome_iff_exists.1 hkey
    have hrest : ∀ m ∈ ms, m.1 ∉ key :: seen := by
      intro m hm hmem
      rcases List.mem_cons.1 hmem with heq | hmem
      · have hagain : m.1 ∈ ms.map Prod.fst := List.mem_map_of_mem hm
        rw [heq] at hagain
        exact hnew hagain
      · exact hfresh' m hm hmem
    rw [List.foldlM_cons, putMember_eq hf, readMembers]
    simp only [hf, List.contains_eq_mem, hseen, decide_false, Bool.false_eq_true, if_false]
    exact bind_congr fun s => ih hknown' hnodup' hrest s

/-- **The order of members does not matter**: a table that mentions known keys once each is read alike in
every order, if what one member says is read apart from the others. -/
theorem record_perm {ms ms' : List (String × Document)} (hperm : ms.Perm ms')
    (hknown : ∀ m ∈ ms', (fields.find? fun f => f.key == m.1).isSome)
    (hnodup : (ms'.map Prod.fst).Nodup) (hcommute : ms'.Pairwise (StepsCommute (putMember fields)))
    (start : σ) :
    record fields closed start (.table ms) = ms'.foldlM (putMember fields) start := by
  have hknown' : ∀ m ∈ ms, (fields.find? fun f => f.key == m.1).isSome :=
    fun m hm => hknown m (hperm.mem_iff.1 hm)
  have hnodup' : (ms.map Prod.fst).Nodup := (hperm.map Prod.fst).nodup_iff.2 hnodup
  show readMembers fields closed [] start ms = _
  rw [readMembers_eq_foldlM hknown' hnodup' (fun _ _ => List.not_mem_nil)]
  exact (foldlM_perm hperm.symm hcommute start).symm

/-! ### Invariants -/

section

variable {P : σ → Prop}

theorem readMembers_preserves (hput : ∀ f ∈ fields, ∀ s d s', P s → f.put s d = .ok s' → P s')
    {seen : List String} {ms : List (String × Document)} {s s' : σ} (hs : P s)
    (h : readMembers fields closed seen s ms = .ok s') : P s' := by
  induction ms generalizing seen s with
  | nil =>
    cases h
    exact hs
  | cons m ms ih =>
    obtain ⟨key, d⟩ := m
    rw [readMembers] at h
    split at h
    · rename_i f hf
      split at h
      · cases h
      · obtain ⟨next, hnext, h⟩ := bind_ok.1 h
        exact ih (hput f (List.mem_of_find?_eq_some hf) s d next hs hnext) h
    · split at h
      · cases h
      · exact ih hs h

theorem readItems_preserves {fields : List (Field σ)}
    (hput : ∀ f ∈ fields, ∀ s d s', P s → f.put s d = .ok s' → P s')
    {ds : List Document} {s s' : σ} (hs : P s) (h : readItems fields s ds = .ok s') : P s' := by
  induction ds generalizing fields s with
  | nil =>
    cases fields <;> cases h <;> exact hs
  | cons d ds ih =>
    cases fields with
    | nil => cases h
    | cons f fields =>
      obtain ⟨hfirst, hrest⟩ := List.forall_mem_cons.1 hput
      rw [readItems] at h
      obtain ⟨next, hnext, h⟩ := bind_ok.1 h
      exact ih hrest (hfirst s d next hs hnext) h

/-- **What reading every field keeps, reading a record keeps**, be it a table or a list. -/
theorem record_preserves (hput : ∀ f ∈ fields, ∀ s d s', P s → f.put s d = .ok s' → P s')
    {start s : σ} {d : Document} (hstart : P start) (h : record fields closed start d = .ok s) : P s := by
  unfold record at h
  split at h
  · exact readItems_preserves hput hstart h
  · split at h
    · exact readMembers_preserves hput hstart h
    · cases h

end

end RequestQuery.Document
