import Moderation.Proofs.Colored.Recasing

namespace Moderation.ColoredText

inductive Follow (length : Nat) : Nat → List Replacement → Prop
  | nil {pos : Nat} : pos ≤ length → Follow length pos []
  | cons {pos : Nat} {r : Replacement} {rest : List Replacement} : pos ≤ r.start → r.start ≤ r.stop →
    Follow length r.stop rest → Follow length pos (r :: rest)

def pieces (s : List Char) (pos : Nat) : List Replacement → List (List Char)
  | [] => [s.drop pos]
  | r :: rest => (s.drop pos).take (r.start - pos) :: r.text :: pieces s r.stop rest

/-- Where a character is found that no stretch contains, once the stretches before it are replaced. -/
def landing (i : Nat) : List Replacement → Nat
  | [] => i
  | r :: rest => if r.stop ≤ i then landing i rest - (r.stop - r.start) + r.text.length else i

def codesThrough (t : ColoredText) (i : Nat) : List Char := (t.cells.take (i + 1)).flatMap Cell.codes

def byteLength : List Char → Nat
  | [] => 0
  | c :: s => c.utf8Size + byteLength s

def byteOffset (s : List Char) (pos : Nat) : Nat := byteLength (s.take pos)

def Replacement.span (r : Replacement) : Regex.Span := ⟨r.start, r.stop⟩

def Finds (p : Pattern) (s : List Char) (rs : List Replacement) : Prop :=
  rs.map Replacement.span = p.spans s

def replaceBackward (t : ColoredText) (rs : List Replacement) : Option ColoredText :=
  rs.foldr (fun r edited => edited.bind fun t' =>
    t'.replaceBytes? (byteOffset t.glyphs r.start) (byteOffset t.glyphs r.stop) r.text) (some t)

theorem Follow.pos_le {length pos : Nat} {rs : List Replacement} (h : Follow length pos rs) :
    pos ≤ length := by
  induction h with
  | nil hpos => exact hpos
  | cons hstart hstop _ ih => omega

theorem length_glyphs (t : ColoredText) : t.glyphs.length = t.cells.length := List.length_map _

theorem drop_gap {α : Type} (s : List α) {pos start : Nat} (h : pos ≤ start) :
    (s.drop pos).drop (start - pos) = s.drop start := by
  rw [List.drop_drop, Nat.add_sub_cancel' h]

section Glyphs

theorem spliceFrom_pieces {s : List Char} {length pos : Nat} {rs : List Replacement}
    (h : Follow length pos rs) : spliceFrom pos (s.drop pos) rs = (pieces s pos rs).flatten := by
  induction h with
  | nil => simp [spliceFrom, pieces]
  | cons hstart hstop _ ih =>
    rw [spliceFrom, drop_gap s hstart, drop_gap s hstop, ih]
    rfl

theorem glyphs_replaceAll_pieces {t : ColoredText} {length : Nat} {rs : List Replacement}
    (h : Follow length 0 rs) : (t.replaceAll rs).glyphs = (pieces t.glyphs 0 rs).flatten := by
  rw [glyphs_replaceAll]
  exact spliceFrom_pieces h

end Glyphs

section Codes

theorem allCodes_attach (codes : List Char) (t : ColoredText) :
    (attach codes t).allCodes = codes ++ t.allCodes := by
  obtain ⟨cells, trailing⟩ := t
  cases cells <;> simp [attach, allCodes]

theorem allCodes_detach (t : ColoredText) : t.detach.1 ++ t.detach.2.allCodes = t.allCodes := by
  obtain ⟨cells, trailing⟩ := t
  cases cells <;> simp [detach, allCodes]

theorem allCodes_prepend (cells : List Cell) (t : ColoredText) :
    (prepend cells t).allCodes = cells.flatMap Cell.codes ++ t.allCodes := by
  simp [prepend, allCodes]

theorem codes_uncolored (text : List Char) : (uncolored text).cells.flatMap Cell.codes = [] := by
  simp [uncolored]

theorem prepend_after (t : ColoredText) (n : Nat) : prepend (t.cells.take n) (t.after n) = t := by
  simp [prepend, after]

theorem fillGap_cases (taken : List Cell) (text : List Char) (behind : ColoredText) :
    (taken = [] ∧ fillGap taken text behind =
        attach behind.detach.1 (prepend (uncolored text).cells behind.detach.2)) ∨
      fillGap taken text behind =
        attach (taken.flatMap Cell.codes) (prepend (uncolored text).cells behind) := by
  cases taken with
  | nil => exact .inl ⟨rfl, rfl⟩
  | cons c rest => exact .inr rfl

theorem allCodes_fillGap (taken : List Cell) (text : List Char) (behind : ColoredText) :
    (fillGap taken text behind).allCodes = taken.flatMap Cell.codes ++ behind.allCodes := by
  rcases fillGap_cases taken text behind with ⟨rfl, hfill⟩ | hfill
  · rw [hfill, allCodes_attach, allCodes_prepend, codes_uncolored]
    exact allCodes_detach behind
  · rw [hfill, allCodes_attach, allCodes_prepend, codes_uncolored]
    rfl

theorem allCodes_replaceFrom (pos : Nat) (t : ColoredText) (rs : List Replacement) :
    (replaceFrom pos t rs).allCodes = t.allCodes := by
  induction rs generalizing pos t with
  | nil => rfl
  | cons r rest ih =>
    let behind := t.after (r.start - pos)
    calc (replaceFrom pos t (r :: rest)).allCodes
        = (t.cells.take (r.start - pos)).flatMap Cell.codes ++
            ((behind.cells.take (r.stop - r.start)).flatMap Cell.codes ++
              (behind.after (r.stop - r.start)).allCodes) := by
          rw [replaceFrom, allCodes_prepend, allCodes_fillGap, ih]
      _ = (t.cells.take (r.start - pos)).flatMap Cell.codes ++ behind.allCodes := by
          rw [← allCodes_prepend, prepend_after]
      _ = t.allCodes := by rw [← allCodes_prepend, prepend_after]

end Codes

section Landing

variable {t behind : ColoredText} {i : Nat}

theorem codesThrough_gap {cells : List Cell} (h : i < cells.length) (t : ColoredText) :
    (prepend cells t).codesThrough i = (cells.take (i + 1)).flatMap Cell.codes := by
  rw [codesThrough, prepend, List.take_append_of_le_length h]

theorem codesThrough_prepend (cells : List Cell) (t : ColoredText) (i : Nat) :
    (prepend cells t).codesThrough (cells.length + i) =
      cells.flatMap Cell.codes ++ t.codesThrough i := by
  rw [codesThrough, prepend, Nat.add_assoc, List.take_length_add_append, List.flatMap_append, codesThrough]

theorem codesThrough_attach (codes : List Char) (h : i < t.cells.length) :
    (attach codes t).codesThrough i = codes ++ t.codesThrough i := by
  obtain ⟨cells, trailing⟩ := t
  cases cells with
  | nil => cases h
  | cons c rest => simp [attach, codesThrough]

theorem codesThrough_detach (h : i < t.cells.length) :
    t.detach.1 ++ t.detach.2.codesThrough i = t.codesThrough i := by
  obtain ⟨cells, trailing⟩ := t
  cases cells with
  | nil => cases h
  | cons c rest => simp [detach, codesThrough]

theorem length_cells_detach (t : ColoredText) : t.detach.2.cells.length = t.cells.length := by
  rw [← length_glyphs, glyphs_detach, length_glyphs]

theorem codesThrough_fillGap (taken : List Cell) (text : List Char) (h : i < behind.cells.length) :
    (fillGap taken text behind).codesThrough (text.length + i) =
      taken.flatMap Cell.codes ++ behind.codesThrough i := by
  have hlength : (uncolored text).cells.length = text.length := List.length_map _
  have hbound (b : ColoredText) (hb : i < b.cells.length) :
      text.length + i < (prepend (uncolored text).cells b).cells.length := by
    rw [prepend, List.length_append, hlength]
    omega
  have hnew (b : ColoredText) :
      (prepend (uncolored text).cells b).codesThrough (text.length + i) = b.codesThrough i := by
    rw [← hlength, codesThrough_prepend, codes_uncolored, List.nil_append]
  rcases fillGap_cases taken text behind with ⟨rfl, hfill⟩ | hfill
  · rw [hfill, codesThrough_attach _ (hbound _ (by rwa [length_cells_detach])), hnew]
    exact codesThrough_detach h
  · rw [hfill, codesThrough_attach _ (hbound _ h), hnew]

structure Lands (t : ColoredText) (i : Nat) (t' : ColoredText) (j : Nat) : Prop where
  glyph : t'.glyphs[j]? = t.glyphs[i]?
  codes : t'.codesThrough j = t.codesThrough i

namespace Lands

variable {t' : ColoredText} {j : Nat}

theorem gap {cells : List Cell} (h : i < cells.length) (t t' : ColoredText) :
    Lands (prepend cells t) i (prepend cells t') i where
  glyph := by
    have hi : i < (cells.map Cell.glyph).length := by rwa [List.length_map]
    rw [glyphs_prepend, glyphs_prepend, List.getElem?_append_left hi, List.getElem?_append_left hi]
  codes := by rw [codesThrough_gap h, codesThrough_gap h]

theorem prepend (h : Lands t i t' j) (cells : List Cell) :
    Lands (prepend cells t) (cells.length + i) (ColoredText.prepend cells t') (cells.length + j) where
  glyph := by
    have hlength : (cells.map Cell.glyph).length = cells.length := List.length_map _
    rw [glyphs_prepend, glyphs_prepend, ← hlength, List.getElem?_append_right (Nat.le_add_right _ _),
      List.getElem?_append_right (Nat.le_add_right _ _), Nat.add_sub_cancel_left, Nat.add_sub_cancel_left, h.glyph]
  codes := by rw [codesThrough_prepend, codesThrough_prepend, h.codes]

theorem lt (h : Lands t i t' j) (hi : i < t.cells.length) : j < t'.cells.length := by
  have hglyph := h.glyph
  rw [← length_glyphs] at hi ⊢
  rw [List.getElem?_eq_getElem hi] at hglyph
  exact (List.getElem?_eq_some_iff.1 hglyph).1

theorem fillGap (h : Lands t i t' j) (hi : i < t.cells.length) (taken : List Cell) (text : List Char) :
    Lands (ColoredText.prepend taken t) (taken.length + i) (ColoredText.fillGap taken text t')
      (text.length + j) where
  glyph := by
    rw [(h.prepend taken).glyph.symm, glyphs_fillGap, glyphs_prepend,
      List.getElem?_append_right (Nat.le_add_right _ _), Nat.add_sub_cancel_left]
    have hlength : (taken.map Cell.glyph).length = taken.length := List.length_map _
    rw [← hlength, List.getElem?_append_right (Nat.le_add_right _ _), Nat.add_sub_cancel_left]
  codes := by rw [codesThrough_fillGap taken text (h.lt hi), codesThrough_prepend, h.codes]

end Lands

theorem lands_replaceFrom {length pos : Nat} {rs : List Replacement} (h : Follow length pos rs)
    {t : ColoredText} (ht : pos + t.cells.length = length) {i : Nat} (hi : i < t.cells.length)
    (houtside : ∀ r ∈ rs, pos + i < r.start ∨ r.stop ≤ pos + i) :
    ∃ j, landing (pos + i) rs = pos + j ∧ Lands t i (replaceFrom pos t rs) j := by
  induction h generalizing t i with
  | nil => exact ⟨i, rfl, rfl, rfl⟩
  | @cons pos r rest hstart hstop hrest ih =>
    have hstop_le := hrest.pos_le
    let gap := t.cells.take (r.start - pos)
    let behind := t.after (r.start - pos)
    let taken := behind.cells.take (r.stop - r.start)
    let last := behind.after (r.stop - r.start)
    have hgap : gap.length = r.start - pos := List.length_take_of_le (by omega)
    have hbehind : behind.cells.length = t.cells.length - (r.start - pos) := List.length_drop
    have htaken : taken.length = r.stop - r.start := List.length_take_of_le (by omega)
    have hlast : last.cells.length = behind.cells.length - (r.stop - r.start) := List.length_drop
    have hsplit : prepend gap (prepend taken last) = t := by rw [prepend_after, prepend_after]
    have hreplace : replaceFrom pos t (r :: rest) =
        prepend gap (fillGap taken r.text (replaceFrom r.stop last rest)) := rfl
    -- The character is in the gap, where nothing changes, or behind the stretch, where the rest is replaced.
    rcases houtside r List.mem_cons_self with hbefore | hpassed
    · refine ⟨i, if_neg (by omega), ?_⟩
      rw [hreplace, ← hsplit]
      exact .gap (by omega) _ _
    · obtain ⟨k, rfl⟩ : ∃ k, i = gap.length + (taken.length + k) :=
        ⟨pos + i - r.stop, by omega⟩
      have hposition : r.stop + k = pos + (gap.length + (taken.length + k)) := by omega
      obtain ⟨j, hj, hlands⟩ := ih (t := last) (i := k) (by omega) (by omega) fun r' hr' => by
        rw [hposition]
        exact houtside r' (List.mem_cons_of_mem _ hr')
      refine ⟨gap.length + (r.text.length + j), ?_, ?_⟩
      · rw [landing, if_pos hpassed, ← hposition, hj]
        omega
      · rw [hreplace, ← hsplit]
        exact (hlands.fillGap (by omega) taken r.text).prepend gap

end Landing

section Bytes

theorem byteLength_append (s s' : List Char) : byteLength (s ++ s') = byteLength s + byteLength s' := by
  induction s with
  | nil => simp [byteLength]
  | cons c s ih => simp only [List.cons_append, byteLength, ih, Nat.add_assoc]

theorem byteLength_le_append (s s' : List Char) : byteLength s ≤ byteLength (s ++ s') := by
  rw [byteLength_append]
  exact Nat.le_add_right _ _

theorem charsInBytes?_cons {c : Char} {s : List Char} {n : Nat} (h : c.utf8Size ≤ n) :
    charsInBytes? (c :: s) n = (charsInBytes? s (n - c.utf8Size)).map (· + 1) := by
  cases n with
  | zero => exact absurd c.utf8Size_pos (by omega)
  | succ n =>
    rw [charsInBytes?, if_pos h]
    exact Nat.succ_ne_zero n

theorem charsInBytes?_append (s behind : List Char) :
    charsInBytes? (s ++ behind) (byteLength s) = some s.length := by
  induction s with
  | nil => cases behind <;> rfl
  | cons c s ih =>
    rw [byteLength, List.cons_append, charsInBytes?_cons (Nat.le_add_right _ _), Nat.add_sub_cancel_left, ih]
    rfl

theorem charsInBytes?_byteOffset {s : List Char} {pos : Nat} (h : pos ≤ s.length) :
    charsInBytes? s (byteOffset s pos) = some pos := by
  have hchars := charsInBytes?_append (s.take pos) (s.drop pos)
  rwa [List.take_append_drop, List.length_take_of_le h] at hchars

theorem byteOffset_mono (s : List Char) {pos pos' : Nat} (h : pos ≤ pos') :
    byteOffset s pos ≤ byteOffset s pos' := by
  obtain ⟨n, rfl⟩ := Nat.exists_eq_add_of_le h
  rw [byteOffset, byteOffset, List.take_add]
  exact byteLength_le_append _ _

theorem byteOffset_append {s behind : List Char} {pos : Nat} (h : pos ≤ s.length) :
    byteOffset (s ++ behind) pos = byteOffset s pos := by
  rw [byteOffset, List.take_append_of_le_length h, byteOffset]

theorem after_after (t : ColoredText) {pos start : Nat} (h : pos ≤ start) :
    (t.after pos).after (start - pos) = t.after start :=
  congrArg (mk · t.trailing) (drop_gap t.cells h)

theorem prepend_prepend (cells cells' : List Cell) (t : ColoredText) :
    prepend cells (prepend cells' t) = prepend (cells ++ cells') t :=
  congrArg (mk · t.trailing) (List.append_assoc _ _ _).symm

theorem take_prepend (cells : List Cell) (t : ColoredText) :
    (prepend cells t).cells.take cells.length = cells := List.take_left

theorem after_prepend (cells : List Cell) (t : ColoredText) : (prepend cells t).after cells.length = t :=
  congrArg (mk · t.trailing) List.drop_left

theorem replaceFrom_later {length pos : Nat} {rs : List Replacement} (h : Follow length pos rs)
    (t : ColoredText) :
    replaceFrom 0 t rs = prepend (t.cells.take pos) (replaceFrom pos (t.after pos) rs) := by
  cases h with
  | nil => exact (prepend_after t pos).symm
  | @cons _ r rest hstart hstop hrest =>
    have hgap : t.cells.take pos ++ (t.after pos).cells.take (r.start - pos) = t.cells.take r.start := by
      rw [after, ← List.take_add, Nat.add_sub_cancel' hstart]
    simp only [replaceFrom, Nat.sub_zero, prepend_prepend, after_after t hstart, hgap]

theorem replaceAll_single (gap taken : List Cell) (t : ColoredText) (text : List Char) :
    (prepend gap (prepend taken t)).replaceAll [⟨gap.length, gap.length + taken.length, text⟩] =
      prepend gap (fillGap taken text t) := by
  simp only [replaceAll, replaceFrom, Nat.sub_zero, Nat.add_sub_cancel_left, take_prepend, after_prepend]

theorem replaceBytes?_byteOffset {t : ColoredText} {i j : Nat} (hij : i ≤ j) (hj : j ≤ t.glyphs.length)
    (text : List Char) :
    t.replaceBytes? (byteOffset t.glyphs i) (byteOffset t.glyphs j) text = some (t.replaceAll [⟨i, j, text⟩]) := by
  rw [replaceBytes?, if_neg (Nat.not_lt.2 (byteOffset_mono t.glyphs hij)),
    charsInBytes?_byteOffset (Nat.le_trans hij hj), charsInBytes?_byteOffset hj]
  rfl

theorem replaceBytes?_replaceAll {t : ColoredText} {r : Replacement} {rest : List Replacement}
    (hr : r.start ≤ r.stop) (hrest : Follow t.glyphs.length r.stop rest) :
    (t.replaceAll rest).replaceBytes? (byteOffset t.glyphs r.start) (byteOffset t.glyphs r.stop) r.text =
      some (t.replaceAll (r :: rest)) := by
  have hstop := hrest.pos_le
  have hcells : r.stop ≤ t.cells.length := by rwa [← length_glyphs]
  let gap := t.cells.take r.start
  let taken := (t.after r.start).cells.take (r.stop - r.start)
  let last := replaceFrom r.stop (t.after r.stop) rest
  have hfront : t.cells.take r.stop = gap ++ taken := by
    have htake := List.take_add (l := t.cells) (i := r.start) (j := r.stop - r.start)
    rwa [Nat.add_sub_cancel' hr] at htake
  have hgap : gap.length = r.start := List.length_take_of_le (by omega)
  have htaken : gap.length + taken.length = r.stop := by
    rw [← List.length_append, ← hfront, List.length_take_of_le hcells]
  have hedited : t.replaceAll rest = prepend gap (prepend taken last) := by
    rw [replaceAll, replaceFrom_later hrest, hfront, prepend_prepend]
  have hglyphs : (t.replaceAll rest).glyphs = t.glyphs.take r.stop ++ last.glyphs := by
    rw [hedited, prepend_prepend, ← hfront, glyphs_prepend, List.map_take]
    rfl
  -- The bytes before the end of the stretch are those of the text that is not edited yet.
  have hposition {pos : Nat} (hpos : pos ≤ r.stop) :
      byteOffset t.glyphs pos = byteOffset (t.replaceAll rest).glyphs pos := by
    have htake : pos ≤ (t.glyphs.take r.stop).length := by rwa [List.length_take_of_le hstop]
    rw [hglyphs, byteOffset_append htake, byteOffset, byteOffset, List.take_take, Nat.min_eq_left hpos]
  have hlength : r.stop ≤ (t.replaceAll rest).glyphs.length := by
    rw [hglyphs, List.length_append, List.length_take_of_le hstop]
    exact Nat.le_add_right _ _
  have hreplaced : t.replaceAll (r :: rest) = prepend gap (fillGap taken r.text last) := by
    have hlast : ((t.after r.start).after (r.stop - r.start)) = t.after r.stop := after_after t hr
    simp only [replaceAll, replaceFrom, Nat.sub_zero, hlast]
    rfl
  have hsingle := replaceAll_single gap taken last r.text
  rw [htaken, hgap, ← hedited, ← hreplaced] at hsingle
  rw [hposition hr, hposition (Nat.le_refl _), replaceBytes?_byteOffset hr hlength, hsingle]

theorem replaceBackward_eq {t : ColoredText} {pos : Nat} {rs : List Replacement}
    (h : Follow t.glyphs.length pos rs) : t.replaceBackward rs = some (t.replaceAll rs) := by
  induction rs generalizing pos with
  | nil => rfl
  | cons r rest ih =>
    cases h with
    | cons hstart hstop hrest =>
      have hstep := replaceBytes?_replaceAll hstop hrest
      rw [replaceBackward, List.foldr_cons, ← replaceBackward, ih hrest]
      exact hstep

end Bytes

theorem follow_of_inOrder {s : List Char} {pos : Nat} {rs : List Replacement}
    (h : Regex.InOrder s.toArray pos (rs.map Replacement.span)) (hpos : pos ≤ s.length) :
    Follow s.length pos rs := by
  induction rs generalizing pos with
  | nil => exact .nil hpos
  | cons r rest ih =>
    cases h with
    | cons hspan hrest => exact .cons hspan.start_le hspan.stop.1 (ih hrest hspan.stop.2)

theorem follow_of_finds {p : Pattern} {s : List Char} {rs : List Replacement} (h : Finds p s rs) :
    Follow s.length 0 rs := by
  refine follow_of_inOrder ?_ (Nat.zero_le _)
  rw [h]
  exact Regex.inOrder_findAll p.code s.toArray

theorem finds_replacements (t : ColoredText) (p : Pattern) (f : List Char → List Char) :
    Finds p t.glyphs (t.replacements p f) := by
  simp [Finds, replacements_eq, replacementOf, Replacement.span, Function.comp_def]

/-- Replacing stretches that follow one another comes to the same as replacing each of them, from the last one to the
first, by its offsets in bytes. What can be seen is the gaps and the new texts from left to right, all codes are there
in the order in which they were, and the characters of the gaps have the codes at them and before them that they had. -/
theorem replaceAll_rebuilds {t : ColoredText} {rs : List Replacement} (h : Follow t.glyphs.length 0 rs) :
    t.replaceBackward rs = some (t.replaceAll rs) ∧
      (t.replaceAll rs).glyphs = (pieces t.glyphs 0 rs).flatten ∧
      (t.replaceAll rs).allCodes = t.allCodes ∧
      ∀ i < t.glyphs.length, (∀ r ∈ rs, i < r.start ∨ r.stop ≤ i) →
        Lands t i (t.replaceAll rs) (landing i rs) := by
  refine ⟨replaceBackward_eq h, glyphs_replaceAll_pieces h, allCodes_replaceFrom 0 t rs, fun i hi houtside => ?_⟩
  obtain ⟨j, hj, hlands⟩ := lands_replaceFrom h (t := t) (i := i) (by rw [length_glyphs]; omega)
    (by rwa [← length_glyphs]) (by simpa using houtside)
  rw [Nat.zero_add, Nat.zero_add] at hj
  rwa [← hj] at hlands

def neighbors : List Replacement := [⟨1, 3, []⟩, ⟨3, 3, "é".toList⟩, ⟨3, 4, "ß!".toList⟩]

theorem replaceAll_rebuilds_neighbors :
    Follow (ofString "§aé§bö§cü§dx§ey").glyphs.length 0 neighbors ∧
      (ofString "§aé§bö§cü§dx§ey").replaceBackward neighbors = some (ofString "§aé§b§c§déß!§ey") ∧
      (ofString "§aé§b§c§déß!§ey").allCodes = "abcde".toList ∧
      Lands (ofString "§aé§bö§cü§dx§ey") 4 (ofString "§aé§b§c§déß!§ey") 4 := by
  have hfollow : Follow (ofString "§aé§bö§cü§dx§ey").glyphs.length 0 neighbors :=
    .cons (by decide) (by decide) (.cons (by decide) (by decide) (.cons (by decide) (by decide) (.nil (by decide))))
  have hresult : (ofString "§aé§bö§cü§dx§ey").replaceAll neighbors = ofString "§aé§b§c§déß!§ey" := by
    decide +kernel
  obtain ⟨hbackward, -, hcodes, hlands⟩ := replaceAll_rebuilds hfollow
  rw [hresult] at hbackward hcodes hlands
  exact ⟨hfollow, hbackward, hcodes, hlands 4 (by decide) (by decide)⟩

end Moderation.ColoredText
