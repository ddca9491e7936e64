import Moderation.Colored.Substitution

namespace Moderation.ColoredText

theorem glyphs_cons (c : Cell) (t : ColoredText) : (cons c t).glyphs = c.glyph :: t.glyphs := rfl

theorem raw_cons (c : Cell) (t : ColoredText) : (cons c t).raw = cellRaw c ++ t.raw := by
  simp [raw, cons]

theorem codesRaw_append (a b : List Char) : codesRaw (a ++ b) = codesRaw a ++ codesRaw b :=
  List.flatMap_append

theorem raw_scan (codes s : List Char) : (scan codes s).raw = codesRaw codes ++ s := by
  fun_induction scan codes s with
  | case1 codes => simp [raw]
  | case2 codes c => simp [raw, cellRaw, codesRaw]
  | case3 codes d rest ih =>
    rw [ih, codesRaw_append, List.append_assoc]
    rfl
  | case4 codes c d rest _ ih =>
    rw [raw_cons, ih, cellRaw, List.append_assoc]
    rfl

theorem rawString_ofString (s : String) : (ofString s).rawString = s := by
  have hraw : (ofString s).raw = s.toList := raw_scan [] s.toList
  rw [rawString, hraw, String.ofList_toList]

theorem raw_uncolored (s : List Char) : (uncolored s).raw = s := by
  simp [raw, uncolored, cellRaw, codesRaw, List.flatMap_map]

theorem decolor_of_hasCodes {t : ColoredText} (h : t.hasCodes = false) : t.decolor = t := by
  simp only [hasCodes, Bool.or_eq_false_iff, Bool.not_eq_false', List.any_eq_false,
    List.isEmpty_iff] at h
  obtain ⟨hcells, htrailing⟩ := h
  have hmap : t.cells.map (fun c => (⟨[], c.glyph⟩ : Cell)) = t.cells.map id := by
    refine List.map_congr_left fun c hc => ?_
    have hcodes : c.codes = [] := by simpa using hcells c hc
    rw [← hcodes, id]
  rw [List.map_id] at hmap
  calc t.decolor = ⟨t.cells.map fun c => ⟨[], c.glyph⟩, []⟩ := by
        simp only [decolor, uncolored, glyphs, List.map_map, Function.comp_def]
    _ = ⟨t.cells, t.trailing⟩ := by rw [hmap, htrailing]

section Strip

theorem ofRaw_cons {c : Char} (hc : c ≠ marker) (s : List Char) :
    ofRaw (c :: s) = cons ⟨[], c⟩ (ofRaw s) := by
  cases s with
  | nil => rfl
  | cons d rest => rw [ofRaw, scan, if_neg hc, ofRaw]

/-- A marker can only be seen at the end, where no code can begin with it. -/
theorem ofRaw_glyphs_scan (codes s : List Char) :
    ofRaw (scan codes s).glyphs = uncolored (scan codes s).glyphs := by
  fun_induction scan codes s with
  | case1 codes => rfl
  | case2 codes c => rfl
  | case3 codes d rest ih => exact ih
  | case4 codes c d rest hc ih => rw [glyphs_cons, ofRaw_cons hc, ih]; rfl

theorem ofRaw_glyphs (s : List Char) : ofRaw (ofRaw s).glyphs = (ofRaw s).decolor :=
  ofRaw_glyphs_scan [] s

theorem ofString_plainString (s : String) :
    ofString (ofString s).plainString = (ofString s).decolor := by
  rw [ofString, plainString, String.toList_ofList, ofString, ofRaw_glyphs]

theorem rawString_decolor (t : ColoredText) : t.decolor.rawString = t.plainString := by
  rw [rawString, decolor, raw_uncolored, plainString]

theorem plainString_decolor (t : ColoredText) : t.decolor.plainString = t.plainString := by
  rw [plainString, glyphs_decolor, plainString]

end Strip

section Splice

theorem glyphs_attach (codes : List Char) (t : ColoredText) : (attach codes t).glyphs = t.glyphs := by
  unfold attach
  split
  · rename_i hcells
    rw [glyphs, glyphs, hcells]
  · rename_i c rest hcells
    rw [glyphs, glyphs, hcells]
    rfl

theorem glyphs_detach (t : ColoredText) : t.detach.2.glyphs = t.glyphs := by
  unfold detach
  split
  · rename_i hcells
    rw [glyphs, glyphs, hcells]
  · rename_i c rest hcells
    rw [glyphs, glyphs, hcells]
    rfl

theorem glyphs_prepend (cells : List Cell) (t : ColoredText) :
    (prepend cells t).glyphs = cells.map Cell.glyph ++ t.glyphs := List.map_append

theorem glyphs_after (t : ColoredText) (pos : Nat) : (t.after pos).glyphs = t.glyphs.drop pos :=
  List.map_drop

theorem glyphs_fillGap (taken : List Cell) (text : List Char) (behind : ColoredText) :
    (fillGap taken text behind).glyphs = text ++ behind.glyphs := by
  have hcells : (uncolored text).cells.map Cell.glyph = text := glyphs_uncolored text
  unfold fillGap
  split
  rename_i codes behind' heq
  rw [glyphs_attach, glyphs_prepend, hcells]
  split at heq
  · rw [← glyphs_detach behind, heq]
  · obtain ⟨-, rfl⟩ := Prod.mk.inj heq
    rfl

def spliceFrom (pos : Nat) (s : List Char) : List Replacement → List Char
  | [] => s
  | r :: rest =>
    s.take (r.start - pos) ++
      (r.text ++ spliceFrom r.stop ((s.drop (r.start - pos)).drop (r.stop - r.start)) rest)

theorem glyphs_replaceFrom (pos : Nat) (t : ColoredText) (rs : List Replacement) :
    (replaceFrom pos t rs).glyphs = spliceFrom pos t.glyphs rs := by
  induction rs generalizing pos t with
  | nil => rfl
  | cons r rest ih =>
    rw [replaceFrom, glyphs_prepend, glyphs_fillGap, ih, glyphs_after, glyphs_after, List.map_take]
    rfl

theorem glyphs_replaceAll (t : ColoredText) (rs : List Replacement) :
    (t.replaceAll rs).glyphs = spliceFrom 0 t.glyphs rs := glyphs_replaceFrom 0 t rs

theorem glyphs_replaceMatches_congr {t t' : ColoredText} (h : t.glyphs = t'.glyphs) (p : Pattern)
    (f : List Char → List Char) :
    (t.replaceMatches p f).glyphs = (t'.replaceMatches p f).glyphs := by
  rw [replaceMatches, replaceMatches, glyphs_replaceAll, glyphs_replaceAll, replacements, replacements, h]

end Splice

end Moderation.ColoredText
