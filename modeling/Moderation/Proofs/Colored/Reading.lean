import Moderation.Context
import Moderation.Proofs.Colored.Glyphs

namespace Moderation.ColoredText

theorem scan_of_ne {c : Char} (hc : c ≠ marker) (codes s : List Char) :
    scan codes (c :: s) = cons ⟨codes, c⟩ (scan [] s) := by
  cases s with
  | nil => rfl
  | cons d rest => rw [scan, if_neg hc]

theorem scan_marker (codes : List Char) (d : Char) (s : List Char) :
    scan codes (marker :: d :: s) = scan (codes ++ [d]) s := by
  rw [scan, if_pos rfl]

theorem scan_codesRaw (acc codes s : List Char) :
    scan acc (codesRaw codes ++ s) = scan (acc ++ codes) s := by
  induction codes generalizing acc with
  | nil => simp [codesRaw]
  | cons c codes ih =>
    have hstep := scan_marker acc c (codesRaw codes ++ s)
    rw [ih, List.append_assoc] at hstep
    exact hstep

structure MarkerLast (allowed : List Char → Prop) (t : ColoredText) : Prop where
  tight : marker ∉ t.glyphs.dropLast
  behind : t.glyphs.getLast? = some marker → allowed t.trailing

/-- Nothing stands behind a visible marker. -/
abbrev Readable : ColoredText → Prop := MarkerLast (· = [])

/-- Nothing but markers stands behind a visible marker. -/
abbrev Legible : ColoredText → Prop := MarkerLast fun codes => ∀ c ∈ codes, c = marker

section Cells

theorem eq_nil_of_notMem_dropLast {c : Char} {s : List Char} (h : c ∉ (c :: s).dropLast) : s = [] := by
  cases s with
  | nil => rfl
  | cons d rest => exact absurd List.mem_cons_self h

variable {allowed : List Char → Prop} {c : Cell} {t : ColoredText}

theorem glyphs_eq_nil : t.glyphs = [] ↔ t.cells = [] := List.map_eq_nil_iff

theorem markerLast_of_cells (h : t.cells = []) : t.MarkerLast allowed := by
  have hglyphs := glyphs_eq_nil.2 h
  constructor
  · simp [hglyphs]
  · simp [hglyphs]

theorem markerLast_cons_iff (hc : c.glyph ≠ marker) :
    (cons c t).MarkerLast allowed ↔ t.MarkerLast allowed := by
  by_cases ht : t.glyphs = []
  · refine ⟨fun _ => markerLast_of_cells (glyphs_eq_nil.1 ht), fun _ => ⟨?_, fun hlast => ?_⟩⟩
    · simp [glyphs_cons, ht]
    · rw [glyphs_cons, ht] at hlast
      exact absurd (Option.some.inj hlast) hc
  · have hdrop : (cons c t).glyphs.dropLast = c.glyph :: t.glyphs.dropLast :=
      List.dropLast_cons_of_ne_nil ht
    have hlast : (cons c t).glyphs.getLast? = t.glyphs.getLast? := by
      rw [glyphs_cons, List.getLast?_cons_of_ne_nil ht]
    constructor
    · intro h
      exact ⟨fun hmem => h.tight (hdrop ▸ List.mem_cons_of_mem _ hmem), fun hm => h.behind (hlast ▸ hm)⟩
    · intro h
      refine ⟨fun hmem => ?_, fun hm => h.behind (hlast ▸ hm)⟩
      rw [hdrop] at hmem
      rcases List.mem_cons.1 hmem with heq | hmem
      · exact hc heq.symm
      · exact h.tight hmem

theorem markerLast_marker_iff (hc : c.glyph = marker) :
    (cons c t).MarkerLast allowed ↔ t.cells = [] ∧ allowed t.trailing := by
  constructor
  · intro h
    have ht : t.glyphs = [] := by
      have htight := h.tight
      rw [glyphs_cons, hc] at htight
      exact eq_nil_of_notMem_dropLast htight
    refine ⟨glyphs_eq_nil.1 ht, h.behind ?_⟩
    rw [glyphs_cons, ht, hc]
    rfl
  · rintro ⟨ht, hallowed⟩
    refine ⟨?_, fun _ => hallowed⟩
    simp [glyphs_cons, glyphs_eq_nil.2 ht]

end Cells

theorem readable_scan (codes s : List Char) : (scan codes s).Readable := by
  fun_induction scan codes s with
  | case1 codes => exact markerLast_of_cells rfl
  | case2 codes c => exact ⟨by simp [glyphs], fun _ => rfl⟩
  | case3 codes d rest ih => exact ih
  | case4 codes c d rest hc ih => exact (markerLast_cons_iff hc).2 ih

theorem readable_ofRaw (s : List Char) : (ofRaw s).Readable := readable_scan [] s

theorem ofRaw_raw_cons (c : Cell) (t : ColoredText) :
    ofRaw (cons c t).raw = scan c.codes (c.glyph :: t.raw) := by
  rw [ofRaw, raw_cons, cellRaw, List.append_assoc, scan_codesRaw, List.nil_append]
  rfl

theorem raw_of_cells {t : ColoredText} (h : t.cells = []) : t.raw = codesRaw t.trailing := by
  rw [raw, h, List.flatMap_nil, List.nil_append]

theorem ofRaw_raw_of_cells {t : ColoredText} (h : t.cells = []) : ofRaw t.raw = t := by
  have hscan := scan_codesRaw [] t.trailing []
  rw [List.append_nil, List.nil_append, scan] at hscan
  rw [ofRaw, raw_of_cells h, hscan, ← h]

theorem ofRaw_raw_of_readable {t : ColoredText} (ht : t.Readable) : ofRaw t.raw = t := by
  obtain ⟨cells, trailing⟩ := t
  induction cells with
  | nil => exact ofRaw_raw_of_cells rfl
  | cons c cells ih =>
    change (cons c ⟨cells, trailing⟩).Readable at ht
    change ofRaw (cons c ⟨cells, trailing⟩).raw = cons c ⟨cells, trailing⟩
    rw [ofRaw_raw_cons]
    by_cases hc : c.glyph = marker
    · obtain ⟨rfl, rfl⟩ := (markerLast_marker_iff hc).1 ht
      rfl
    · have hread := ih ((markerLast_cons_iff hc).1 ht)
      rw [ofRaw] at hread
      rw [scan_of_ne hc, hread]

theorem ofRaw_raw_iff (t : ColoredText) : ofRaw t.raw = t ↔ t.Readable :=
  ⟨fun h => h ▸ readable_ofRaw t.raw, ofRaw_raw_of_readable⟩

theorem glyphs_scan_marker (codes cs : List Char) :
    (scan codes (marker :: codesRaw cs)).glyphs = [marker] ↔ ∀ c ∈ cs, c = marker := by
  induction cs generalizing codes with
  | nil => simp [codesRaw, scan, glyphs]
  | cons c cs ih =>
    change (scan codes (marker :: marker :: c :: codesRaw cs)).glyphs = [marker] ↔ _
    rw [scan_marker]
    by_cases hc : c = marker
    · subst hc
      rw [ih, List.forall_mem_cons]
      simp
    · rw [scan_of_ne hc, glyphs_cons]
      simp [hc]

theorem glyphs_ofRaw_raw_iff (t : ColoredText) : (ofRaw t.raw).glyphs = t.glyphs ↔ t.Legible := by
  obtain ⟨cells, trailing⟩ := t
  induction cells with
  | nil =>
    rw [ofRaw_raw_of_cells rfl]
    exact ⟨fun _ => markerLast_of_cells rfl, fun _ => rfl⟩
  | cons c cells ih =>
    change (ofRaw (cons c ⟨cells, trailing⟩).raw).glyphs = (cons c ⟨cells, trailing⟩).glyphs ↔
      (cons c ⟨cells, trailing⟩).Legible
    rw [ofRaw_raw_cons, glyphs_cons]
    by_cases hc : c.glyph = marker
    · rw [Legible, markerLast_marker_iff hc, hc]
      constructor
      · intro h
        -- What was read shows no marker before its end, so nothing visible stands behind this one.
        have htight := (readable_scan c.codes (marker :: raw ⟨cells, trailing⟩)).tight
        rw [h] at htight
        obtain rfl : cells = [] := glyphs_eq_nil.1 (eq_nil_of_notMem_dropLast htight)
        exact ⟨rfl, (glyphs_scan_marker c.codes trailing).1 h⟩
      · rintro ⟨rfl, hmarkers⟩
        exact (glyphs_scan_marker c.codes trailing).2 hmarkers
    · rw [Legible, markerLast_cons_iff hc, scan_of_ne hc, glyphs_cons]
      exact (List.cons_inj_right c.glyph).trans ih

theorem hasCodes_uncolored (s : List Char) : (uncolored s).hasCodes = false := by
  simp [hasCodes, uncolored]

/-- Reading loses nothing, and what can be seen of a text reads as itself without codes, which is how a message
arrives whose codes were taken away. -/
theorem reading_is_lossless (s : String) :
    (ofString s).rawString = s ∧
      (ofString (ofString s).plainString).hasCodes = false ∧
      (ofString (ofString s).plainString).plainString = (ofString s).plainString ∧
      ∀ author, ∃ t : ColoredText,
        Context.ofString author (ofString s).decolor.rawString =
          { author := author, received := t, modified := t } ∧
        t.hasCodes = false ∧ t.plainString = (ofString s).plainString := by
  have hreread := ofString_plainString s
  have hcodes : (ofString s).decolor.hasCodes = false := hasCodes_uncolored _
  refine ⟨rawString_ofString s, ?_, ?_, fun author => ⟨(ofString s).decolor, ?_, hcodes, ?_⟩⟩
  · rw [hreread, hcodes]
  · rw [hreread, plainString_decolor]
  · have harrives : ofString (ofString s).decolor.rawString = (ofString s).decolor := by
      rw [rawString_decolor, hreread]
    change (⟨author, ofString _, ofString _, _, _, _, _, _, _, _⟩ : Context) = _
    rw [harrives]
  · exact plainString_decolor _

end Moderation.ColoredText
