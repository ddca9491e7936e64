import Moderation.Colored.Basic
import Moderation.Unicode.Casing

namespace Moderation.Unicode

variable {m c : Char} {g s s' t t' : List Char}

/-- A character may be written as these characters: they are not none, and `m` stands only for itself. -/
def Spells (m c : Char) (g : List Char) : Prop := g ≠ [] ∧ (m ∈ g → c = m ∧ g = [m])

inductive Respells (m : Char) : List Char → List Char → Prop
  | nil : Respells m [] []
  | cons {c : Char} {g s s' : List Char} : Spells m c g → Respells m s s' →
    Respells m (c :: s) (g ++ s')

theorem spells_self (m c : Char) : Spells m c [c] :=
  ⟨List.cons_ne_nil _ _, fun h => by rw [List.mem_singleton.1 h]; exact ⟨rfl, rfl⟩⟩

theorem spells_singleton {d : Char} (h : d ≠ m) : Spells m c [d] :=
  ⟨List.cons_ne_nil _ _, fun hm => absurd (List.mem_singleton.1 hm).symm h⟩

namespace Respells

theorem refl (m : Char) (s : List Char) : Respells m s s := by
  induction s with
  | nil => exact .nil
  | cons c s ih => exact .cons (spells_self m c) ih

theorem append (h : Respells m s s') (h' : Respells m t t') : Respells m (s ++ t) (s' ++ t') := by
  induction h with
  | nil => exact h'
  | cons hc _ ih =>
    rw [List.append_assoc]
    exact .cons hc ih

theorem eq_nil_iff (h : Respells m s s') : s = [] ↔ s' = [] := by
  cases h with
  | nil => exact Iff.rfl
  | cons hc _ => simp [hc.1]

theorem mem (h : Respells m s s') (hm : m ∈ s') : m ∈ s := by
  induction h with
  | nil => exact hm
  | cons hc _ ih =>
    rcases List.mem_append.1 hm with hg | hs
    · rw [(hc.2 hg).1]
      exact List.mem_cons_self
    · exact List.mem_cons_of_mem _ (ih hs)

theorem getLast? (h : Respells m s s') (hm : s'.getLast? = some m) : s.getLast? = some m := by
  induction h with
  | nil => exact hm
  | @cons c g s s' hc hs ih =>
    by_cases hnil : s = []
    · rw [hs.eq_nil_iff.1 hnil, List.append_nil] at hm
      rw [hnil, (hc.2 (List.mem_of_getLast? hm)).1]
      rfl
    · have hnil' : s' ≠ [] := fun heq => hnil (hs.eq_nil_iff.2 heq)
      rw [List.getLast?_append, List.getLast?_eq_some_getLast hnil', Option.some_or,
        ← List.getLast?_eq_some_getLast hnil'] at hm
      rw [List.getLast?_cons_of_ne_nil hnil]
      exact ih hm

theorem notMem_dropLast (h : Respells m s s') (hm : m ∉ s.dropLast) : m ∉ s'.dropLast := by
  induction h with
  | nil => exact hm
  | @cons c g s s' hc hs ih =>
    by_cases hnil : s = []
    · rw [hs.eq_nil_iff.1 hnil, List.append_nil]
      intro hg
      rw [(hc.2 (List.dropLast_subset g hg)).2] at hg
      cases hg
    · have hnil' : s' ≠ [] := fun heq => hnil (hs.eq_nil_iff.2 heq)
      rw [List.dropLast_cons_of_ne_nil hnil, List.mem_cons, not_or] at hm
      rw [List.dropLast_append_of_ne_nil hnil', List.mem_append, not_or]
      exact ⟨fun hg => hm.1 (hc.2 hg).1.symm, ih hm.2⟩

end Respells

def ShiftRun.avoids (r : ShiftRun) (n : Nat) : Bool :=
  r.last + r.shift < n || n < r.first + r.shift

theorem ShiftRun.ne_of_image? {r : ShiftRun} {n k l : Nat} (h : r.avoids l = true) (hl : l ≠ 0)
    (himage : r.image? n = some k) : k ≠ l := by
  simp only [avoids, Bool.or_eq_true, decide_eq_true_eq] at h
  simp only [image?, Bool.and_eq_true, decide_eq_true_eq, Option.ite_none_right_eq_some,
    Option.some.injEq] at himage
  omega

theorem ofNat_ne {k : Nat} (hk : k ≠ m.toNat) (hm : m.toNat ≠ 0) : Char.ofNat k ≠ m := by
  by_cases hvalid : k.isValidChar
  · have hchar : Char.ofNat k = Char.ofNatAux k hvalid := dif_pos hvalid
    rw [hchar]
    rintro rfl
    exact hk rfl
  · have hchar : Char.ofNat k = '\x00' := dif_neg hvalid
    rw [hchar]
    rintro rfl
    exact hm rfl

section Forms

variable {shifts : List ShiftRun} {forms : List (Nat × List Char)}

theorem mem_of_lookup {n : Nat} (h : forms.lookup n = some g) : (n, g) ∈ forms := by
  obtain ⟨before, behind, hforms, -⟩ := List.lookup_eq_some_iff.1 h
  rw [hforms]
  simp

theorem spells_caseForm (hm : m.toNat ≠ 0) (hshifts : shifts.all (·.avoids m.toNat) = true)
    (hforms : forms.all (fun f => !f.2.isEmpty && !f.2.contains m) = true) (c : Char) :
    Spells m c (caseForm shifts forms c) := by
  unfold caseForm
  split
  · rename_i k hk
    obtain ⟨r, hr, himage⟩ := List.exists_of_findSome?_eq_some hk
    exact spells_singleton (ofNat_ne (r.ne_of_image? (List.all_eq_true.1 hshifts r hr) hm himage) hm)
  · cases hlookup : forms.lookup c.toNat with
    | none => exact spells_self m c
    | some form =>
      have hform := List.all_eq_true.1 hforms _ (mem_of_lookup hlookup)
      simp only [Bool.and_eq_true, Bool.not_eq_true', List.isEmpty_eq_false_iff] at hform
      refine ⟨hform.1, fun hmem => ?_⟩
      have hcontains : form.contains m = true := List.contains_iff_mem.2 hmem
      rw [hform.2] at hcontains
      cases hcontains

end Forms

section Tables

variable {text : String}

theorem all_shiftRuns {p : ShiftRun → Bool}
    (h : ∃ l, text = String.ofList l ∧ (shiftRuns.go (tokens.go [] l)).all p = true) :
    (shiftRuns text).all p = true := by
  obtain ⟨l, rfl, hall⟩ := h
  rwa [shiftRuns, tokens, String.toList_ofList]

theorem all_sequences {p : Nat × List Char → Bool}
    (h : ∃ l, text = String.ofList l ∧
      (((l.splitOn '\n').map (tokens.go [])).filterMap formOfWords).all p = true) :
    (sequences text).all p = true := by
  obtain ⟨l, rfl, hall⟩ := h
  rwa [sequences, String.toList_ofList]

-- The characters of a literal are found by unification; the kernel does not get at them through `toList`.
set_option maxRecDepth 30000 in
theorem upperShifts_avoid : upperShifts.all (·.avoids marker.toNat) = true :=
  all_shiftRuns ⟨_, rfl, by decide +kernel⟩

set_option maxRecDepth 30000 in
theorem lowerShifts_avoid : lowerShifts.all (·.avoids marker.toNat) = true :=
  all_shiftRuns ⟨_, rfl, by decide +kernel⟩

set_option maxRecDepth 30000 in
theorem upperForms_spare :
    upperForms.all (fun f => !f.2.isEmpty && !f.2.contains marker) = true :=
  all_sequences ⟨_, rfl, by decide +kernel⟩

theorem lowerForms_spare :
    lowerForms.all (fun f => !f.2.isEmpty && !f.2.contains marker) = true :=
  all_sequences ⟨_, rfl, by decide +kernel⟩

end Tables

theorem spells_ascii {f : Char → Char} (hf : ∀ n < 128, f (Char.ofNat n) ≠ marker) {c : Char}
    (hc : c.toNat < 128) : Spells marker c [f c] := by
  have hne := hf c.toNat hc
  rw [Char.ofNat_toNat] at hne
  exact spells_singleton hne

theorem spells_upperChar (c : Char) : Spells marker c (upperChar c) := by
  unfold upperChar
  split
  · exact spells_ascii (by decide) ‹_›
  · exact spells_caseForm (by decide) upperShifts_avoid upperForms_spare c

theorem spells_lowerChar (c : Char) : Spells marker c (lowerChar c) := by
  unfold lowerChar
  split
  · exact spells_ascii (by decide) ‹_›
  · exact spells_caseForm (by decide) lowerShifts_avoid lowerForms_spare c

theorem respells_upper (s : List Char) : Respells marker s (upper s) := by
  induction s with
  | nil => exact .nil
  | cons c s ih => exact .cons (spells_upperChar c) ih

theorem respells_lowerAfter (before s : List Char) : Respells marker s (lowerAfter before s) := by
  induction s generalizing before with
  | nil => exact .nil
  | cons c s ih =>
    refine .cons ?_ (ih (c :: before))
    split
    · split
      · exact spells_singleton (by decide)
      · exact spells_singleton (by decide)
    · exact spells_lowerChar c

theorem respells_lower (s : List Char) : Respells marker s (lower s) := respells_lowerAfter [] s

end Moderation.Unicode
