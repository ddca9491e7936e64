import Moderation.Proofs.Colored.Indexed

namespace Moderation

namespace ColoredText

section Places

variable {t : ColoredText} {offset : Nat} {p : Nat × Char}

theorem cellPlaces_append (cells cells' : List Cell) (offset : Nat) :
    cellPlaces offset (cells ++ cells') =
      cellPlaces offset cells ++ cellPlaces (offset + byteLength (cells.map Cell.glyph)) cells' := by
  induction cells generalizing offset with
  | nil => rfl
  | cons c cells ih =>
    rw [List.cons_append, cellPlaces, ih, cellPlaces, List.append_assoc, List.map_cons, byteLength,
      Nat.add_assoc]

theorem places_prepend (cells : List Cell) (t : ColoredText) (offset : Nat) :
    (prepend cells t).places offset =
      cellPlaces offset cells ++ t.places (offset + byteLength (cells.map Cell.glyph)) := by
  rw [places, places, glyphs_prepend, byteLength_append, prepend, cellPlaces_append, List.append_assoc,
    Nat.add_assoc]

theorem places_cons (c : Cell) (t : ColoredText) (offset : Nat) :
    (cons c t).places offset = c.codes.map (offset, ·) ++ t.places (offset + c.glyph.utf8Size) := by
  have hplaces := places_prepend [c] t offset
  rw [cellPlaces, cellPlaces, List.append_nil] at hplaces
  exact hplaces

theorem places_attach (codes : List Char) (t : ColoredText) (offset : Nat) :
    (attach codes t).places offset = codes.map (offset, ·) ++ t.places offset := by
  obtain ⟨cells, trailing⟩ := t
  cases cells with
  | nil => simp [attach, places, cellPlaces, glyphs, byteLength]
  | cons c rest => simp [attach, places, cellPlaces, glyphs]

theorem places_detach (t : ColoredText) (offset : Nat) :
    t.detach.1.map (offset, ·) ++ t.detach.2.places offset = t.places offset := by
  obtain ⟨cells, trailing⟩ := t
  cases cells with
  | nil => simp [detach, places, cellPlaces, glyphs, byteLength]
  | cons c rest => simp [detach, places, cellPlaces, glyphs]

theorem cellPlaces_uncolored (text : List Char) (offset : Nat) :
    cellPlaces offset (uncolored text).cells = [] := by
  induction text generalizing offset with
  | nil => rfl
  | cons c text ih => exact ih _

theorem cellPlaces_add (cells : List Cell) (offset d : Nat) :
    cellPlaces (offset + d) cells = (cellPlaces offset cells).map fun (offset, c) => (offset + d, c) := by
  induction cells generalizing offset with
  | nil => rfl
  | cons c cells ih =>
    rw [cellPlaces, cellPlaces, List.map_append, ← ih, List.map_map, Nat.add_right_comm]
    rfl

theorem places_add (t : ColoredText) (offset d : Nat) :
    t.places (offset + d) = (t.places offset).map fun (offset, c) => (offset + d, c) := by
  rw [places, places, cellPlaces_add, List.map_append, List.map_map, Nat.add_right_comm]
  rfl

theorem mem_cellPlaces {cells : List Cell} (h : p ∈ cellPlaces offset cells) :
    ∃ front c behind, front ++ c :: behind = cells.map Cell.glyph ∧ p.1 = offset + byteLength front := by
  induction cells generalizing offset with
  | nil => cases h
  | cons c cells ih =>
    rcases List.mem_append.1 h with hfirst | hrest
    · obtain ⟨d, -, rfl⟩ := List.mem_map.1 hfirst
      exact ⟨[], c.glyph, cells.map Cell.glyph, rfl, rfl⟩
    · obtain ⟨front, d, behind, hglyphs, hp⟩ := ih hrest
      exact ⟨c.glyph :: front, d, behind, congrArg (c.glyph :: ·) hglyphs, by rw [hp, Nat.add_assoc, byteLength]⟩

theorem mem_places (h : p ∈ t.places offset) :
    ∃ front behind, front ++ behind = t.glyphs ∧ p.1 = offset + byteLength front := by
  rcases List.mem_append.1 h with hcells | htrailing
  · obtain ⟨front, c, behind, hglyphs, hp⟩ := mem_cellPlaces hcells
    exact ⟨front, c :: behind, hglyphs, hp⟩
  · obtain ⟨c, -, rfl⟩ := List.mem_map.1 htrailing
    exact ⟨t.glyphs, [], List.append_nil _, rfl⟩

theorem le_of_mem_places (h : p ∈ t.places offset) : offset ≤ p.1 := by
  obtain ⟨front, behind, -, hp⟩ := mem_places h
  rw [hp]
  exact Nat.le_add_right _ _

theorem bounds_of_mem_cellPlaces {cells : List Cell} (h : p ∈ cellPlaces offset cells) :
    offset ≤ p.1 ∧ p.1 < offset + byteLength (cells.map Cell.glyph) := by
  obtain ⟨front, c, behind, hglyphs, hp⟩ := mem_cellPlaces h
  have hsize := c.utf8Size_pos
  rw [← hglyphs, byteLength_append, byteLength, hp]
  omega

theorem lt_of_mem_places_detach (h : p ∈ t.detach.2.places offset) : offset < p.1 := by
  obtain ⟨cells, trailing⟩ := t
  cases cells with
  | nil => cases h
  | cons c rest =>
    have hsize := c.glyph.utf8Size_pos
    have hle : offset + c.glyph.utf8Size ≤ p.1 := by
      refine le_of_mem_places (t := ⟨rest, trailing⟩) ?_
      change p ∈ (prepend [⟨[], c.glyph⟩] ⟨rest, trailing⟩).places offset at h
      rw [places_prepend] at h
      exact h
    omega

theorem snd_cellPlaces (cells : List Cell) (offset : Nat) :
    (cellPlaces offset cells).map Prod.snd = cells.flatMap Cell.codes := by
  induction cells generalizing offset with
  | nil => rfl
  | cons c cells ih =>
    rw [cellPlaces, List.map_append, ih, List.map_map, List.flatMap_cons]
    simp [Function.comp_def]

end Places

section Moving

variable {start stop length offset : Nat}

abbrev movedPlace (start stop length : Nat) (p : Nat × Char) : Nat × Char :=
  (CodeEntry.moved start stop length p.1, p.2)

theorem map_moved_before {places : List (Nat × Char)} (h : ∀ p ∈ places, p.1 ≤ start) :
    places.map (movedPlace start stop length) = places := by
  rw [List.map_congr_left (g := id), List.map_id]
  intro p hp
  exact congrArg (·, p.2) (if_pos (h p hp))

theorem map_moved_within {places : List (Nat × Char)} (h : ∀ p ∈ places, start ≤ p.1 ∧ p.1 < stop) :
    places.map (movedPlace start stop length) = (places.map Prod.snd).map (start, ·) := by
  rw [List.map_map]
  refine List.map_congr_left fun p hp => congrArg (·, p.2) ?_
  obtain ⟨hstart, hstop⟩ := h p hp
  unfold CodeEntry.moved
  split
  · omega
  · rfl

theorem map_moved_behind {t : ColoredText} {n : Nat} (h : ∀ p ∈ t.places start, start < p.1 + n) :
    (t.places (start + n)).map (movedPlace start (start + n) length) = t.places (start + length) := by
  rw [places_add, places_add, List.map_map]
  refine List.map_congr_left fun p hp => congrArg (·, p.2) ?_
  have hstart := le_of_mem_places hp
  have hbehind := h p hp
  change CodeEntry.moved start (start + n) length (p.1 + n) = p.1 + length
  rw [CodeEntry.moved, if_neg (by omega), if_neg (by omega)]
  omega

theorem places_fillGap (taken : List Cell) (text : List Char) (behind : ColoredText) (start : Nat) :
    (fillGap taken text behind).places start =
      ((prepend taken behind).places start).map
        (movedPlace start (start + byteLength (taken.map Cell.glyph)) (byteLength text)) := by
  have hnew (b : ColoredText) :
      (prepend (uncolored text).cells b).places start = b.places (start + byteLength text) := by
    have htext : (uncolored text).cells.map Cell.glyph = text := glyphs_uncolored text
    rw [places_prepend, cellPlaces_uncolored, List.nil_append, htext]
  cases taken with
  | nil =>
    have hstay : ∀ p ∈ behind.detach.1.map (start, ·), p.1 ≤ start := by simp
    calc (fillGap [] text behind).places start
        = behind.detach.1.map (start, ·) ++ behind.detach.2.places (start + byteLength text) := by
          rw [← hnew, ← places_attach]
          rfl
      _ = (behind.places start).map (movedPlace start start (byteLength text)) := by
          rw [← places_detach behind, List.map_append, map_moved_before hstay,
            ← map_moved_behind (n := 0) fun p hp => lt_of_mem_places_detach hp]
          rfl
  | cons c rest =>
    have hsize : 0 < byteLength ((c :: rest).map Cell.glyph) := Nat.add_pos_left c.glyph.utf8Size_pos _
    rw [places_prepend, List.map_append, map_moved_within fun p hp => bounds_of_mem_cellPlaces hp,
      snd_cellPlaces, map_moved_behind fun p hp => by have := le_of_mem_places hp; omega, ← hnew, ← places_attach]
    rfl

theorem entries_fillGap (gap taken : List Cell) (text : List Char) (behind : ColoredText) :
    (prepend gap (fillGap taken text behind)).indexed.entries =
      CodeEntry.regather
        (CodeEntry.moved (byteLength (gap.map Cell.glyph)) (byteLength ((gap ++ taken).map Cell.glyph))
          (byteLength text))
        (prepend gap (prepend taken behind)).indexed.entries := by
  have hbefore : ∀ p ∈ cellPlaces 0 gap, p.1 ≤ 0 + byteLength (gap.map Cell.glyph) := fun p hp =>
    Nat.le_of_lt (bounds_of_mem_cellPlaces hp).2
  have hplaces := places_fillGap taken text behind (0 + byteLength (gap.map Cell.glyph))
  rw [indexed, places_prepend, hplaces, ← map_moved_before hbefore, ← List.map_append, ← places_prepend]
  rw [Nat.zero_add, List.map_append, byteLength_append]
  exact CodeEntry.gather_map _ _

theorem replaceRange?_prepend (gap taken : List Cell) (text : List Char) (behind : ColoredText) :
    (prepend gap (prepend taken behind)).indexed.replaceRange? (byteLength (gap.map Cell.glyph))
        (byteLength ((gap ++ taken).map Cell.glyph)) text =
      some (prepend gap (fillGap taken text behind)).indexed := by
  let x := (prepend gap (prepend taken behind)).indexed
  let front := gap.map Cell.glyph
  let middle := taken.map Cell.glyph
  have hstop : (gap ++ taken).map Cell.glyph = front ++ middle := List.map_append
  have hglyphs : x.glyphs = front ++ (middle ++ behind.glyphs) := by
    rw [← glyphs_prepend, ← glyphs_prepend]
    rfl
  have hbefore : IndexedText.slice? x.glyphs 0 (byteLength front) = some front := by
    rw [hglyphs, IndexedText.slice?_front]
  have htaken : IndexedText.slice? x.glyphs (byteLength front) (byteLength (front ++ middle)) = some middle := by
    rw [hglyphs, IndexedText.slice?_append]
  have hbehind : IndexedText.slice? x.glyphs (byteLength (front ++ middle)) (byteLength x.glyphs) =
      some behind.glyphs := by
    rw [hglyphs, ← List.append_assoc, IndexedText.slice?_behind]
  have hmove := @CodeEntry.foldlM_move? _ _ (byteLength text) (byteLength_le_append front middle) x.entries
  have hentries := entries_fillGap gap taken text behind
  rw [hstop] at hentries ⊢
  change x.replaceRange? (byteLength front) (byteLength (front ++ middle)) text = _
  simp only [IndexedText.replaceRange?, hbefore, htaken, hbehind, hmove, Option.bind_eq_bind,
    Option.bind_some]
  rw [← hentries, indexed, glyphs_prepend, glyphs_fillGap]
  rfl

theorem exists_prepend (t : ColoredText) {i j : Nat} (hij : i ≤ j) (hj : j ≤ t.cells.length) :
    ∃ gap taken behind, t = prepend gap (prepend taken behind) ∧ gap.length = i ∧
      gap.length + taken.length = j := by
  let behind := t.after i
  have hgap : (t.cells.take i).length = i := List.length_take_of_le (Nat.le_trans hij hj)
  have hbehind : behind.cells.length = t.cells.length - i := List.length_drop
  have htaken : (behind.cells.take (j - i)).length = j - i := List.length_take_of_le (by omega)
  refine ⟨t.cells.take i, behind.cells.take (j - i), behind.after (j - i), ?_, hgap, by omega⟩
  rw [prepend_after, prepend_after]

theorem byteOffset_prepend (cells : List Cell) (t : ColoredText) :
    byteOffset (prepend cells t).glyphs cells.length = byteLength (cells.map Cell.glyph) := by
  rw [byteOffset, glyphs_prepend, ← List.length_map (f := Cell.glyph), List.take_left]

theorem exists_replaceBytes?_iff {t : ColoredText} {text : List Char} :
    (∃ t', t.replaceBytes? start stop text = some t') ↔ ValidRange t.glyphs start stop :=
  exists_ofRange_iff fun i j => t.replaceAll [⟨i, j, text⟩]

theorem replaceRange?_indexed (t : ColoredText) (start stop : Nat) (text : List Char) :
    t.indexed.replaceRange? start stop text = (t.replaceBytes? start stop text).map indexed := by
  by_cases hvalid : ValidRange t.glyphs start stop
  · obtain ⟨i, j, hij, hj, rfl, rfl⟩ := validRange_iff.1 hvalid
    rw [replaceBytes?_byteOffset hij hj]
    rw [length_glyphs] at hj
    obtain ⟨gap, taken, behind, rfl, rfl, rfl⟩ := exists_prepend t hij hj
    have hstop := byteOffset_prepend (gap ++ taken) behind
    rw [← prepend_prepend, List.length_append] at hstop
    rw [byteOffset_prepend, hstop, replaceRange?_prepend, replaceAll_single]
    rfl
  · have hslice : IndexedText.slice? t.indexed.glyphs start stop = none :=
      Option.eq_none_iff_forall_ne_some.2 fun cut hcut =>
        hvalid ((exists_ofRange_iff _).1 ⟨cut, hcut⟩)
    have hbytes : t.replaceBytes? start stop text = none :=
      Option.eq_none_iff_forall_ne_some.2 fun t' ht' => hvalid (exists_replaceBytes?_iff.1 ⟨t', ht'⟩)
    rw [hbytes, IndexedText.replaceRange?, hslice]
    cases IndexedText.slice? t.indexed.glyphs 0 start <;> rfl

end Moving

end ColoredText

end Moderation
