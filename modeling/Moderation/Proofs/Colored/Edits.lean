import Moderation.Proofs.Colored.Places

namespace Moderation

open ColoredText

namespace ColoredText

section Reading

/-- What was read so far is `front` with the codes of `places`, and behind it codes that wait for a character. -/
theorem scan_indexed (places : List (Nat × Char)) (front codes s : List Char) :
    IndexedText.scan ⟨front, CodeEntry.gather (places ++ codes.map (byteLength front, ·))⟩ s =
      ⟨front ++ (scan codes s).glyphs, CodeEntry.gather (places ++ (scan codes s).places (byteLength front))⟩ := by
  fun_induction scan codes s generalizing front places with
  | case1 codes =>
    have hglyphs : front ++ glyphs ⟨[], codes⟩ = front := List.append_nil front
    rw [hglyphs]
    rfl
  | case2 codes c =>
    have hplaces : ColoredText.places ⟨[⟨codes, c⟩], []⟩ (byteLength front) =
        codes.map (byteLength front, ·) := by
      simp [ColoredText.places, cellPlaces]
    rw [hplaces]
    rfl
  | case3 codes d rest ih =>
    have hpush : CodeEntry.push (CodeEntry.gather (places ++ codes.map (byteLength front, ·))) (byteLength front)
        [marker, d] = CodeEntry.gather (places ++ (codes ++ [d]).map (byteLength front, ·)) := by
      rw [List.map_append, ← List.append_assoc]
      exact (CodeEntry.gather_concat (places ++ codes.map (byteLength front, ·)) (byteLength front, d)).symm
    rw [IndexedText.scan, if_pos rfl, hpush, ih]
  | case4 codes c d rest hc ih =>
    have hread := ih (places ++ codes.map (byteLength front, ·)) (front ++ [c])
    rw [List.map_nil, List.append_nil] at hread
    rw [IndexedText.scan, if_neg hc, hread, glyphs_cons, places_cons, byteLength_append, List.append_assoc,
      List.append_assoc]
    rfl

theorem indexed_ofRaw (raw : List Char) : (ofRaw raw).indexed = IndexedText.ofRaw raw :=
  (scan_indexed [] [] [] raw).symm

theorem indexed_decolor (t : ColoredText) : t.decolor.indexed = t.indexed.decolor := by
  rw [indexed, glyphs_decolor, places, decolor, cellPlaces_uncolored]
  rfl

end Reading

end ColoredText

namespace IndexedText

section Writing

def writePlace? (s : List Char) (done : List Char × Nat) (p : Nat × Char) : Option (List Char × Nat) :=
  write? s done ⟨p.1, [marker, p.2]⟩

theorem write?_append (s : List Char) (done : List Char × Nat) (offset : Nat) (written written' : List Char) :
    write? s done ⟨offset, written ++ written'⟩ =
      (write? s done ⟨offset, written⟩).bind fun done' => write? s done' ⟨offset, written'⟩ := by
  cases hslice : slice? s done.2 offset with
  | none => simp [write?, hslice]
  | some gap =>
    have hvalid := (exists_ofRange_iff _).1 ⟨gap, hslice⟩
    simp [write?, hslice, slice?_self hvalid.stops]

theorem foldlM_write?_push (s : List Char) (done : List Char × Nat) (es : List CodeEntry) (offset : Nat)
    (written : List Char) :
    (CodeEntry.push es offset written).foldlM (write? s) done =
      (es.foldlM (write? s) done).bind fun done' => write? s done' ⟨offset, written⟩ := by
  rcases CodeEntry.push_cases es offset with ⟨init, before, rfl, hpush⟩ | ⟨-, hpush⟩
  · rw [hpush]
    simp only [List.foldlM_append, List.foldlM_cons, List.foldlM_nil, bind_pure, write?_append,
      Option.bind_eq_bind, Option.bind_assoc]
  · rw [hpush]
    simp only [List.foldlM_append, List.foldlM_cons, List.foldlM_nil, bind_pure, Option.bind_eq_bind]

theorem foldlM_write?_foldl (s : List Char) (done : List Char × Nat) (places : List (Nat × Char))
    (es : List CodeEntry) :
    (places.foldl CodeEntry.pushCode es).foldlM (write? s) done =
      (es.foldlM (write? s) done).bind fun done' => places.foldlM (writePlace? s) done' := by
  induction places generalizing es with
  | nil => exact (Option.bind_fun_some _).symm
  | cons p places ih =>
    rw [List.foldl_cons, ih, CodeEntry.pushCode, foldlM_write?_push, Option.bind_assoc]
    rfl

theorem foldlM_write?_gather (s : List Char) (done : List Char × Nat) (places : List (Nat × Char)) :
    (CodeEntry.gather places).foldlM (write? s) done = places.foldlM (writePlace? s) done :=
  foldlM_write?_foldl s done places []

theorem foldlM_writePlace?_codes (s : List Char) (done : List Char × Nat) (offset : Nat) {codes : List Char}
    (h : codes ≠ []) :
    (codes.map (offset, ·)).foldlM (writePlace? s) done = write? s done ⟨offset, codesRaw codes⟩ := by
  induction codes generalizing done with
  | nil => exact absurd rfl h
  | cons c codes ih =>
    cases codes with
    | nil => exact bind_pure _
    | cons d codes =>
      have hcodes : codesRaw (c :: d :: codes) = [marker, c] ++ codesRaw (d :: codes) := rfl
      rw [hcodes, write?_append, List.map_cons, List.foldlM_cons]
      exact congrArg (Option.bind _) (funext fun done' => ih done' (List.cons_ne_nil d codes))

theorem write_codes {s front gap behind : List Char} (hs : s = front ++ (gap ++ behind)) (written codes : List Char) :
    ∃ written' front' gap', front' ++ gap' = front ++ gap ∧
      written' ++ gap' = written ++ gap ++ codesRaw codes ∧
      (codes.map (byteLength (front ++ gap), ·)).foldlM (writePlace? s) (written, byteLength front) =
        some (written', byteLength front') := by
  by_cases hcodes : codes = []
  · subst hcodes
    exact ⟨written, front, gap, rfl, (List.append_nil _).symm, rfl⟩
  · refine ⟨written ++ gap ++ codesRaw codes, front ++ gap, [], List.append_nil _, List.append_nil _, ?_⟩
    rw [foldlM_writePlace?_codes s _ _ hcodes, write?, hs, slice?_append]
    rfl

theorem write_places (t : ColoredText) {s front gap : List Char} (hs : s = front ++ (gap ++ t.glyphs))
    (written : List Char) :
    ((t.places (byteLength (front ++ gap))).foldlM (writePlace? s) (written, byteLength front)).bind (finish? s) =
      some (written ++ gap ++ t.raw) := by
  obtain ⟨cells, trailing⟩ := t
  -- Only codes close the gap, so it grows from character to character until some come.
  induction cells generalizing front gap written with
  | nil =>
    obtain ⟨written', front', gap', hfront, hwritten, hcodes⟩ := write_codes hs written trailing
    have hplaces : ColoredText.places ⟨[], trailing⟩ (byteLength (front ++ gap)) =
      trailing.map (byteLength (front ++ gap), ·) := rfl
    have hrest : s = front' ++ gap' := by
      rw [hfront, hs]
      exact congrArg (front ++ ·) (List.append_nil gap)
    rw [hplaces, hcodes, raw_of_cells rfl, ← hwritten, Option.bind_some, finish?, hrest, slice?_behind]
    rfl
  | cons c cells ih =>
    obtain ⟨written', front', gap', hfront, hwritten, hcodes⟩ := write_codes hs written c.codes
    let rest : ColoredText := ⟨cells, trailing⟩
    have hrest : s = front' ++ ((gap' ++ [c.glyph]) ++ rest.glyphs) := by
      rw [List.append_assoc, ← List.append_assoc, hfront, hs, List.append_assoc]
      rfl
    have hoffset : byteLength (front ++ gap) + c.glyph.utf8Size = byteLength (front' ++ (gap' ++ [c.glyph])) := by
      rw [← List.append_assoc, hfront, byteLength_append _ [c.glyph]]
      rfl
    have hraw : written ++ gap ++ (cons c rest).raw = written' ++ (gap' ++ [c.glyph]) ++ rest.raw := by
      rw [raw_cons, cellRaw, List.append_assoc (codesRaw c.codes), ← List.append_assoc, ← hwritten]
      simp
    change Option.bind (((cons c rest).places _).foldlM _ _) _ = some (_ ++ (cons c rest).raw)
    rw [places_cons, List.foldlM_append, hcodes, hoffset, hraw, ← ih written' hrest]
    rfl

theorem raw?_indexed (t : ColoredText) : t.indexed.raw? = some t.raw := by
  have hwrite := write_places t (show t.glyphs = [] ++ ([] ++ t.glyphs) from rfl) []
  rw [← foldlM_write?_gather] at hwrite
  exact hwrite

end Writing

section Order

abbrev InSequence (places : List (Nat × Char)) : Prop := places.Pairwise fun p p' => p.1 ≤ p'.1

structure WellFormed (x : IndexedText) : Prop where
  rising : CodeEntry.Rising x.entries
  inside : ∀ e ∈ x.entries, e.offset ≤ byteLength x.glyphs
  boundary : ∀ e ∈ x.entries, AtBoundary x.glyphs e.offset
  codes : ∀ e ∈ x.entries, e.HoldsCodes

variable {es : List CodeEntry} {places : List (Nat × Char)}

theorem mem_push {offset : Nat} {written : List Char} {e : CodeEntry} (h : e ∈ CodeEntry.push es offset written) :
    e ∈ es ∨ e.offset = offset ∧
      (e.written = written ∨ ∃ e' ∈ es, e.written = e'.written ++ written) := by
  rcases CodeEntry.push_cases es offset with ⟨init, before, rfl, hpush⟩ | ⟨-, hpush⟩
  · rw [hpush] at h
    rcases List.mem_append.1 h with hinit | hlast
    · exact .inl (List.mem_append_left _ hinit)
    · obtain rfl := List.mem_singleton.1 hlast
      exact .inr ⟨rfl, .inr ⟨⟨offset, before⟩, by simp, rfl⟩⟩
  · rw [hpush] at h
    rcases List.mem_append.1 h with hold | hlast
    · exact .inl hold
    · obtain rfl := List.mem_singleton.1 hlast
      exact .inr ⟨rfl, .inl rfl⟩

theorem rising_push {offset : Nat} (h : CodeEntry.Rising es) (hle : ∀ e ∈ es, e.offset ≤ offset)
    (written : List Char) : CodeEntry.Rising (CodeEntry.push es offset written) := by
  rcases CodeEntry.push_cases es offset with ⟨init, before, rfl, hpush⟩ | ⟨hlast, hpush⟩
  · rw [hpush]
    simpa [List.pairwise_append] using h
  · -- The last entry is at another offset, and so before this one, and the others are before it.
    have hlt : ∀ e ∈ es, e.offset < offset := by
      rcases es.eq_nil_or_concat with rfl | ⟨init, last, rfl⟩
      · simp
      · rw [List.concat_eq_append] at h hle hlast ⊢
        have hend : last.offset < offset :=
          Nat.lt_of_le_of_ne (hle last (by simp)) (hlast init last rfl)
        intro e he
        rcases List.mem_append.1 he with hinit | hself
        · have := (List.pairwise_append.1 h).2.2 e hinit last (by simp)
          omega
        · rwa [List.mem_singleton.1 hself]
    rw [hpush]
    simpa [List.pairwise_append, h] using hlt

theorem rising_foldl (hes : CodeEntry.Rising es) (hplaces : InSequence places)
    (hle : ∀ e ∈ es, ∀ p ∈ places, e.offset ≤ p.1) :
    CodeEntry.Rising (places.foldl CodeEntry.pushCode es) := by
  induction places generalizing es with
  | nil => exact hes
  | cons p places ih =>
    obtain ⟨hfirst, hrest⟩ := List.pairwise_cons.1 hplaces
    refine ih (rising_push hes (fun e he => hle e he p List.mem_cons_self) _) hrest fun e he p' hp' => ?_
    rcases mem_push he with hold | ⟨hoffset, -⟩
    · exact hle e hold p' (List.mem_cons_of_mem _ hp')
    · rw [hoffset]
      exact hfirst p' hp'

theorem forall_gather {P : Nat → Prop} (h : ∀ p ∈ places, P p.1) :
    ∀ e ∈ CodeEntry.gather places, P e.offset ∧ e.HoldsCodes := by
  refine List.foldlRecOn
    (motive := fun es => ∀ e ∈ es, P e.offset ∧ e.HoldsCodes) places CodeEntry.pushCode
    (fun e he => absurd he List.not_mem_nil) fun es hes p hp e he => ?_
  rcases mem_push he with hold | ⟨hoffset, hwritten⟩
  · exact hes e hold
  · refine ⟨hoffset ▸ h p hp, ?_⟩
    rcases hwritten with hnew | ⟨e', he', hjoined⟩
    · exact ⟨[p.2], List.cons_ne_nil _ _, hnew⟩
    · obtain ⟨-, cs, -, hcs⟩ := hes e' he'
      refine ⟨cs ++ [p.2], by simp, ?_⟩
      rw [hjoined, hcs, codesRaw_append]
      rfl

theorem inSequence_codes (codes : List Char) (offset : Nat) : InSequence (codes.map (offset, ·)) :=
  List.pairwise_map.2 (List.pairwise_of_forall fun _ _ => Nat.le_refl offset)

theorem inSequence_cellPlaces (cells : List Cell) (offset : Nat) : InSequence (cellPlaces offset cells) := by
  induction cells generalizing offset with
  | nil => exact .nil
  | cons c cells ih =>
    refine List.pairwise_append.2 ⟨inSequence_codes _ _, ih _, fun p hp p' hp' => ?_⟩
    obtain ⟨d, -, rfl⟩ := List.mem_map.1 hp
    have := (bounds_of_mem_cellPlaces hp').1
    omega

theorem inSequence_places (t : ColoredText) (offset : Nat) : InSequence (t.places offset) := by
  refine List.pairwise_append.2 ⟨inSequence_cellPlaces _ _, inSequence_codes _ _, fun p hp p' hp' => ?_⟩
  obtain ⟨d, -, rfl⟩ := List.mem_map.1 hp'
  exact Nat.le_of_lt (bounds_of_mem_cellPlaces hp).2

theorem wellFormed_indexed (t : ColoredText) : t.indexed.WellFormed := by
  have hplaces : ∀ p ∈ t.places 0, AtBoundary t.glyphs p.1 := by
    intro p hp
    obtain ⟨front, behind, hglyphs, hoffset⟩ := mem_places hp
    rw [hoffset, ← hglyphs, Nat.zero_add]
    exact atBoundary_append front behind
  have hentries := forall_gather hplaces
  exact {
    rising := rising_foldl .nil (inSequence_places t 0) (by simp)
    inside := fun e he => (hentries e he).1.le_byteLength
    boundary := fun e he => (hentries e he).1
    codes := fun e he => (hentries e he).2
  }

end Order

section Runs

inductive Edited : ColoredText → IndexedText → Prop
  | ofRaw (raw : List Char) : Edited (.ofRaw raw) (.ofRaw raw)
  | decolor {t : ColoredText} {x : IndexedText} : Edited t x → Edited t.decolor x.decolor
  | replaceRange {t t' : ColoredText} {x x' : IndexedText} {start stop : Nat} {text : List Char} : Edited t x →
    ValidRange x.glyphs start stop → t.replaceBytes? start stop text = some t' →
    x.replaceRange? start stop text = some x' → Edited t' x'
  | replaceMatches {t : ColoredText} {x x' : IndexedText} {p : Pattern} {rs : List Replacement} : Edited t x →
    Finds p x.glyphs rs → x.replaceBackward? rs = some x' → Edited (t.replaceAll rs) x'

theorem replaceBackward?_indexed (t : ColoredText) (rs : List Replacement) :
    t.indexed.replaceBackward? rs = (t.replaceBackward rs).map indexed := by
  induction rs with
  | nil => rfl
  | cons r rest ih =>
    change (t.indexed.replaceBackward? rest).bind _ = ((t.replaceBackward rest).bind _).map indexed
    rw [ih]
    cases t.replaceBackward rest with
    | none => rfl
    | some t' => exact replaceRange?_indexed t' _ _ r.text

theorem replaceBackward?_of_follow {t : ColoredText} {pos : Nat} {rs : List Replacement}
    (h : Follow t.glyphs.length pos rs) : t.indexed.replaceBackward? rs = some (t.replaceAll rs).indexed := by
  rw [replaceBackward?_indexed, replaceBackward_eq h]
  rfl

theorem Edited.indexed {t : ColoredText} {x : IndexedText} (h : Edited t x) : x = t.indexed := by
  induction h with
  | ofRaw raw => exact (indexed_ofRaw raw).symm
  | decolor _ ih => rw [ih, indexed_decolor]
  | @replaceRange t t' x x' start stop text _ _ ht hx ih =>
    rw [ih, replaceRange?_indexed, ht] at hx
    exact (Option.some.inj hx).symm
  | @replaceMatches t x x' p rs _ hfinds hx ih =>
    subst ih
    rw [replaceBackward?_of_follow (follow_of_finds hfinds)] at hx
    exact (Option.some.inj hx).symm

theorem follow_of_append {length pos : Nat} {earlier later : List Replacement} {r : Replacement}
    (h : Follow length pos (earlier ++ r :: later)) : r.start ≤ r.stop ∧ Follow length r.stop later := by
  induction earlier generalizing pos with
  | nil =>
    cases h with
    | cons _ hstop hlater => exact ⟨hstop, hlater⟩
  | cons r' earlier ih =>
    cases h with
    | cons _ _ hrest => exact ih hrest

/-- Whatever edits were made, the list of codes is well formed and the one that belongs to the cells. The raw text is
written without a wrong cut, every valid range can be replaced, and replacing the matches of a pattern passes valid
ranges only. -/
theorem edits_keep_index {t : ColoredText} {x : IndexedText} (h : Edited t x) :
    x.WellFormed ∧ x = t.indexed ∧ x.raw? = some t.raw ∧
      (∀ start stop text, ValidRange x.glyphs start stop → ∃ t', t.replaceBytes? start stop text = some t' ∧
        x.replaceRange? start stop text = some t'.indexed) ∧
      ∀ p rs, Finds p x.glyphs rs → x.replaceBackward? rs = some (t.replaceAll rs).indexed ∧
        ∀ earlier r later, rs = earlier ++ r :: later → ∃ x', x.replaceBackward? later = some x' ∧
          ValidRange x'.glyphs (byteOffset x.glyphs r.start) (byteOffset x.glyphs r.stop) := by
  obtain rfl := h.indexed
  refine ⟨wellFormed_indexed t, rfl, raw?_indexed t, fun start stop text hvalid => ?_, fun p rs hfinds => ?_⟩
  · obtain ⟨t', ht'⟩ := exists_replaceBytes?_iff.2 hvalid
    refine ⟨t', ht', ?_⟩
    rw [replaceRange?_indexed, ht']
    rfl
  · have hfollow := follow_of_finds hfinds
    refine ⟨replaceBackward?_of_follow hfollow, ?_⟩
    rintro earlier r later rfl
    obtain ⟨hordered, hlater⟩ := follow_of_append hfollow
    refine ⟨(t.replaceAll later).indexed, replaceBackward?_of_follow hlater, ?_⟩
    exact exists_replaceBytes?_iff.1 ⟨_, replaceBytes?_replaceAll hordered hlater⟩

def joined : IndexedText :=
  ⟨"éßy".toList, [⟨0, "§a".toList⟩, ⟨2, "§b§c".toList⟩, ⟨4, "§d§e".toList⟩]⟩

theorem edits_keep_index_joined :
    Edited (ofString "§aé§b§cß§d§ey") joined ∧ joined.WellFormed ∧
      joined.raw? = some "§aé§b§cß§d§ey".toList := by
  let before : List Char := "§aé§bö§cü§dx§ey".toList
  let middle : List Char := "§aé§b§cß§dx§ey".toList
  let p : Pattern := ⟨"x", Regex.compile (.literal ['x'])⟩
  have hvalid : ValidRange (IndexedText.ofRaw before).glyphs 2 6 :=
    validRange_iff.2 ⟨1, 3, by decide, by decide, by decide, by decide⟩
  have hcells : (ColoredText.ofRaw before).replaceBytes? 2 6 ['ß'] = some (.ofRaw middle) := by decide +kernel
  have hentries : (IndexedText.ofRaw before).replaceRange? 2 6 ['ß'] = some (.ofRaw middle) := by decide +kernel
  have hglyphs : (ColoredText.ofRaw middle).glyphs = (IndexedText.ofRaw middle).glyphs := by
    rw [← indexed_ofRaw]
    rfl
  have hfinds := finds_replacements (.ofRaw middle) p fun _ => []
  rw [hglyphs] at hfinds
  have htaken : (IndexedText.ofRaw middle).replaceBackward?
      ((ColoredText.ofRaw middle).replacements p fun _ => []) = some joined := by decide +kernel
  have hreplaced : (ColoredText.ofRaw middle).replaceMatches p (fun _ => []) = ofString "§aé§b§cß§d§ey" := by
    decide +kernel
  have hedited : Edited (ofString "§aé§b§cß§d§ey") joined :=
    hreplaced ▸ .replaceMatches (.replaceRange (.ofRaw before) hvalid hcells hentries) hfinds htaken
  obtain ⟨hwellFormed, -, hraw, -⟩ := edits_keep_index hedited
  exact ⟨hedited, hwellFormed, hraw⟩

end Runs

end IndexedText

end Moderation
