import Moderation.Proofs.Rule.Concatenation

namespace Moderation

structure Fragment where
  indent : List Char
  piece : List Char
  space : List Char
  margin : List Char
  ne_nil : piece ≠ []
  trimmed : Text.trim piece = piece
  blank : ∀ c ∈ indent ++ space ++ margin, Text.isBlank c = true

namespace Fragment

variable (f : Fragment)

def unfinished : List Char := f.indent ++ f.piece ++ f.space ++ '\\' :: f.margin

def finished : List Char := f.indent ++ f.piece ++ f.space ++ f.margin

theorem isBlank_getLast_piece : ∀ c ∈ f.piece.getLast?, Text.isBlank c = false := by
  have hlast := Text.isBlank_getLast_trim (s := f.piece)
  rwa [f.trimmed] at hlast

theorem trim_unfinished : Text.trim f.unfinished = f.piece ++ f.space ++ ['\\'] := by
  have hblank := f.blank
  simp only [List.mem_append] at hblank
  have hink : Text.trim (f.piece ++ f.space ++ ['\\']) = f.piece ++ f.space ++ ['\\'] := by
    apply Text.trim_eq_self
    · intro c hc
      have hhead := Text.isBlank_head_trim (s := f.piece)
      rw [f.trimmed] at hhead
      rw [List.append_assoc, List.head?_append_of_ne_nil _ f.ne_nil] at hc
      exact hhead c hc
    · intro c hc
      rw [List.getLast?_concat] at hc
      exact Option.some.inj hc ▸ rfl
  have hlines : f.unfinished = f.indent ++ (f.piece ++ f.space ++ ['\\'] ++ f.margin) := by
    simp [unfinished]
  rw [hlines, Text.trim_blanks_append fun c hc => hblank c (.inl (.inl hc)),
    Text.trim_append_blanks fun c hc => hblank c (.inr hc), hink]

theorem trim_finished : Text.trim f.finished = f.piece := by
  have hblank := f.blank
  simp only [List.mem_append] at hblank
  have hlines : f.finished = f.indent ++ (f.piece ++ (f.space ++ f.margin)) := by simp [finished]
  rw [hlines, Text.trim_blanks_append fun c hc => hblank c (.inl (.inl hc)),
    Text.trim_append_blanks, f.trimmed]
  intro c hc
  rcases List.mem_append.1 hc with hc | hc
  · exact hblank c (.inl (.inr hc))
  · exact hblank c (.inr hc)

theorem splitContinuation_unfinished :
    LogicalLine.splitContinuation (f.piece ++ f.space ++ ['\\']) = (f.piece, true) := by
  have hblank := f.blank
  simp only [List.mem_append] at hblank
  rw [LogicalLine.splitContinuation, if_pos List.getLast?_concat, List.dropLast_concat,
    Text.trimEnd_append f.isBlank_getLast_piece fun c hc => hblank c (.inl (.inr hc))]

end Fragment

structure BrokenLine where
  front : List Fragment
  last : Fragment

namespace BrokenLine

def pieces (b : BrokenLine) : List (List Char) := b.front.map (·.piece) ++ [b.last.piece]

def text (b : BrokenLine) : List Char := [' '].intercalate b.pieces

def lines (b : BrokenLine) : List (List Char) := b.front.map (·.unfinished) ++ [b.last.finished]

end BrokenLine

namespace LogicalLine

theorem absorb_some (number : Nat) (l : LogicalLine) (raw : List Char) :
    absorb number (some l) raw =
      let (piece, continues) := splitContinuation (Text.trim raw)
      if continues then (none, some (l.extend piece)) else (some (l.extend piece), none) := rfl

theorem absorb_none {raw : List Char} (h : isSkipped (Text.trim raw) = false) (number : Nat) :
    absorb number none raw =
      let (piece, continues) := splitContinuation (Text.trim raw)
      if continues then (none, some ⟨number, piece⟩) else (some ⟨number, piece⟩, none) := by
  simp only [absorb, h, Option.isNone_none, Bool.and_false, Bool.false_eq_true, if_false,
    Option.elim_none]

theorem extend_of_ne_nil {l : LogicalLine} {piece : List Char} (hl : l.text ≠ []) (hpiece : piece ≠ []) :
    l.extend piece = { l with text := l.text ++ ' ' :: piece } := by
  simp [extend, hl, hpiece]

section Joining

variable (number first : Nat) {text : List Char} {last : Fragment} (rest : List (List Char))

theorem intercalate_cons_append (p q : List Char) (ps : List (List Char)) :
    [' '].intercalate (p :: (ps ++ [q])) = p ++ ' ' :: [' '].intercalate (ps ++ [q]) := by
  cases ps <;> simp [List.intercalate]

theorem joinFrom_pieces (hlast : last.piece.getLast? ≠ some '\\') (front : List Fragment) (htext : text ≠ []) :
    joinFrom number (some ⟨first, text⟩)
        (front.map (·.unfinished) ++ [last.finished] ++ rest) =
      (joinFrom (number + (front.length + 1)) none rest).map
        (⟨first, text ++ ' ' :: [' '].intercalate (front.map (·.piece) ++ [last.piece])⟩ :: ·) := by
  induction front generalizing number text with
  | nil =>
    have hsplit : splitContinuation last.piece = (last.piece, false) := if_neg hlast
    have hline : extend ⟨first, text⟩ last.piece = ⟨first, text ++ ' ' :: last.piece⟩ :=
      extend_of_ne_nil htext last.ne_nil
    simp [joinFrom_cons, absorb_some, last.trim_finished, hsplit, hline, List.intercalate]
  | cons f front ih =>
    have hline : extend ⟨first, text⟩ f.piece = ⟨first, text ++ ' ' :: f.piece⟩ :=
      extend_of_ne_nil htext f.ne_nil
    have hjoin := @ih (number + 1) (text ++ ' ' :: f.piece) (by simp)
    have hnumber : number + 1 + (front.length + 1) = number + (front.length + 1 + 1) := by omega
    rw [List.map_cons, List.cons_append, List.cons_append, joinFrom_cons, absorb_some, f.trim_unfinished,
      f.splitContinuation_unfinished]
    simp only [if_true, hline]
    rw [hjoin, hnumber, List.map_cons, List.cons_append, intercalate_cons_append, List.length_cons]
    cases joinFrom (number + (front.length + 1 + 1)) none rest <;> simp [Except.map]

end Joining

theorem joinFrom_single {raw : List Char} (hskip : isSkipped (Text.trim raw) = false)
    (hend : (Text.trim raw).getLast? ≠ some '\\') (number : Nat) (rest : List (List Char)) :
    joinFrom number none (raw :: rest) =
      (joinFrom (number + 1) none rest).map (⟨number, Text.trim raw⟩ :: ·) := by
  have hsplit : splitContinuation (Text.trim raw) = (Text.trim raw, false) := if_neg hend
  rw [joinFrom_cons, absorb_none hskip, hsplit]
  rfl

theorem isSkipped_append {s : List Char} (hs : s ≠ []) (t : List Char) : isSkipped (s ++ t) = isSkipped s := by
  cases s with
  | nil => exact absurd rfl hs
  | cons c s => rfl

theorem getLast?_text (b : BrokenLine) : b.text.getLast? = b.last.piece.getLast? := by
  have hjoined : ∀ ps : List (List Char), ∃ t, [' '].intercalate (ps ++ [b.last.piece]) = t ++ b.last.piece := by
    intro ps
    induction ps with
    | nil => exact ⟨[], by simp [List.intercalate]⟩
    | cons p ps ih =>
      obtain ⟨t, ht⟩ := ih
      exact ⟨p ++ ' ' :: t, by rw [List.cons_append, intercalate_cons_append, ht]; simp⟩
  obtain ⟨t, ht⟩ := hjoined (b.front.map (·.piece))
  rw [BrokenLine.text, BrokenLine.pieces, ht, List.getLast?_append_of_ne_nil _ b.last.ne_nil]

theorem joinFrom_broken (b : BrokenLine) (hskip : isSkipped b.text = false)
    (hend : b.text.getLast? ≠ some '\\') (number : Nat) (rest : List (List Char)) :
    joinFrom number none (b.lines ++ rest) =
      (joinFrom (number + (b.front.length + 1)) none rest).map (⟨number, b.text⟩ :: ·) := by
  rw [getLast?_text] at hend
  obtain ⟨front, last⟩ := b
  cases front with
  | nil =>
    have htext : BrokenLine.text ⟨[], last⟩ = last.piece := by
      simp [BrokenLine.text, BrokenLine.pieces, List.intercalate]
    rw [htext] at hskip ⊢
    rw [← last.trim_finished] at hskip hend ⊢
    exact joinFrom_single hskip hend number rest
  | cons f front =>
    have htext : BrokenLine.text ⟨f :: front, last⟩ =
        f.piece ++ ' ' :: [' '].intercalate (front.map (·.piece) ++ [last.piece]) := by
      rw [← intercalate_cons_append]
      rfl
    have hopens : isSkipped (Text.trim f.unfinished) = false := by
      rw [htext, isSkipped_append f.ne_nil] at hskip
      rw [f.trim_unfinished, List.append_assoc, isSkipped_append f.ne_nil, hskip]
    have hjoin := joinFrom_pieces (number + 1) number rest hend front f.ne_nil
    have hnumber : number + 1 + (front.length + 1) = number + (front.length + 1 + 1) := by omega
    rw [htext, BrokenLine.lines, List.map_cons, List.cons_append, List.cons_append, joinFrom_cons,
      absorb_none hopens, f.trim_unfinished, f.splitContinuation_unfinished]
    simp only [if_true]
    rw [hjoin, hnumber, List.length_cons]
    cases joinFrom (number + (front.length + 1 + 1)) none rest <;> simp [Except.map]

section Numbers

theorem number_extend (l : LogicalLine) (piece : List Char) : (l.extend piece).number = l.number := by
  unfold extend
  split
  · rfl
  · split <;> rfl

theorem number_absorb {number : Nat} {current : Option LogicalLine} {raw : List Char} {l : LogicalLine}
    (h : l ∈ (absorb number current raw).1 ∨ l ∈ (absorb number current raw).2) :
    l.number = (current.map (·.number)).getD number := by
  cases current with
  | none =>
    by_cases hskip : isSkipped (Text.trim raw) = true
    · simp [absorb, hskip] at h
    · rw [absorb_none (by simpa using hskip)] at h
      dsimp only at h
      split at h <;> simp at h <;> rw [← h] <;> rfl
  | some l' =>
    rw [absorb_some] at h
    dsimp only at h
    split at h <;> simp at h <;> rw [← h, number_extend] <;> rfl

theorem number_joinFrom (lo number : Nat) (current : Option LogicalLine) (xs : List (List Char))
    (hlo : lo ≤ number) (hcurrent : ∀ l ∈ current, lo ≤ l.number ∧ l.number < number) :
    match joinFrom number current xs with
    | .ok ls => ∀ l ∈ ls, lo ≤ l.number ∧ l.number < number + xs.length
    | .error e => lo ≤ e.line := by
  induction xs generalizing number current with
  | nil =>
    cases current with
    | none =>
      intro l hl
      cases hl
    | some l => exact (hcurrent l rfl).1
  | cons raw rest ih =>
    have hnumber : ∀ l, l ∈ (absorb number current raw).1 ∨ l ∈ (absorb number current raw).2 →
        lo ≤ l.number ∧ l.number < number + 1 := by
      intro l hl
      rw [number_absorb hl]
      cases current with
      | none => exact ⟨hlo, Nat.lt_succ_self _⟩
      | some l' => exact ⟨(hcurrent l' rfl).1, Nat.lt_succ_of_lt (hcurrent l' rfl).2⟩
    have hrest := ih _ _ (Nat.le_succ_of_le hlo) fun l hl => hnumber l (.inr hl)
    rw [joinFrom_cons]
    cases hjoin : joinFrom (number + 1) (absorb number current raw).2 rest with
    | error e =>
      rw [hjoin] at hrest
      exact hrest
    | ok ls =>
      rw [hjoin] at hrest
      intro l hl
      rw [List.length_cons]
      rcases List.mem_append.1 hl with hl | hl
      · have := hnumber l (.inl (Option.mem_toList.1 hl))
        omega
      · have := hrest l hl
        omega

end Numbers

end LogicalLine

def movedDown (first more number : Nat) : Nat := if number ≤ first then number else number + more

section Moving

variable {first more : Nat}

theorem map_renumber_of_le {ls : List LogicalLine} (h : ∀ l ∈ ls, l.number ≤ first) :
    ls.map (.renumber (movedDown first more)) = ls := by
  rw [List.map_congr_left, List.map_id]
  intro l hl
  rw [LogicalLine.renumber, movedDown, if_pos (h l hl), id_eq]

theorem map_later_of_lt {ls : List LogicalLine} (h : ∀ l ∈ ls, first < l.number) :
    ls.map (LogicalLine.later more) = ls.map (LogicalLine.renumber (movedDown first more)) := by
  apply List.map_congr_left
  intro l hl
  rw [LogicalLine.renumber, movedDown, if_neg (Nat.not_le_of_lt (h l hl)), LogicalLine.later]

theorem ParseError.later_of_lt {e : ParseError} (h : first < e.line) :
    e.later more = e.renumber (movedDown first more) := by
  cases e <;> simp_all [ParseError.later, ParseError.renumber, ParseError.line, movedDown]

end Moving

section Breaking

variable {before : List (List Char)} {raw : List Char} {b : BrokenLine}

theorem logical_broken (hclosed : LogicalLine.openAfter 1 none before = none)
    (hskip : LogicalLine.isSkipped (Text.trim raw) = false) (hend : (Text.trim raw).getLast? ≠ some '\\')
    (htext : b.text = Text.trim raw) (after : List (List Char)) :
    LogicalLine.ofLines (before ++ (b.lines ++ after)) =
      recounted (movedDown (before.length + 1) b.front.length)
        (.map (.renumber (movedDown (before.length + 1) b.front.length)))
        (LogicalLine.ofLines (before ++ raw :: after)) := by
  obtain ⟨ls, hls, happend⟩ := LogicalLine.joinFrom_append hclosed
  have hbefore := LogicalLine.number_joinFrom 0 1 none before
    (Nat.zero_le _) fun _ h => by cases h
  have hafter := LogicalLine.number_joinFrom (1 + before.length + 1) _ none after
    le_rfl fun _ h => by cases h
  have hlater := LogicalLine.joinFrom_later b.front.length (1 + before.length + 1) none after
  have hnumber : 1 + before.length + (b.front.length + 1) = 1 + before.length + 1 + b.front.length := by omega
  have hmove : before.length + 1 = 1 + before.length := Nat.add_comm _ _
  rw [hls] at hbefore
  unfold LogicalLine.ofLines
  rw [happend, happend, LogicalLine.joinFrom_broken b (htext ▸ hskip) (htext ▸ hend), hnumber,
    LogicalLine.joinFrom_single hskip hend, hmove]
  change LogicalLine.joinFrom _ none after = _ at hlater
  rw [hlater]
  cases hjoin : LogicalLine.joinFrom (1 + before.length + 1) none after with
  | error e =>
    rw [hjoin] at hafter
    exact congrArg Except.error (ParseError.later_of_lt hafter)
  | ok ms =>
    rw [hjoin] at hafter
    have hfirst : LogicalLine.renumber (movedDown (1 + before.length) b.front.length)
        ⟨1 + before.length, Text.trim raw⟩ = ⟨1 + before.length, Text.trim raw⟩ := by
      rw [LogicalLine.renumber, movedDown, if_pos le_rfl]
    have hls' : ls.map (.renumber (movedDown (1 + before.length) b.front.length)) = ls := map_renumber_of_le
      fun l hl => (hbefore l hl).2.le
    have hms : ms.map (LogicalLine.later b.front.length) =
        ms.map (.renumber (movedDown (1 + before.length) b.front.length)) := map_later_of_lt
      fun l hl => (hafter l hl).1
    simp [relocate, recounted, Except.map, Except.mapError, hls', hms, hfirst, htext]

/-- A line that is cut at single spaces and written piece by piece is read as before, under the number of its first
piece; rules and errors behind it are so many lines further down as there are more pieces. -/
theorem Chain.ofLines_broken {registry : Registry} {name : String}
    (hclosed : LogicalLine.openAfter 1 none before = none)
    (hskip : LogicalLine.isSkipped (Text.trim raw) = false) (hend : (Text.trim raw).getLast? ≠ some '\\')
    (htext : b.text = Text.trim raw) (after : List (List Char)) :
    ofLines registry name (before ++ (b.lines ++ after)) =
      recounted (movedDown (before.length + 1) b.front.length)
        (renumber (movedDown (before.length + 1) b.front.length))
        (ofLines registry name (before ++ raw :: after)) := by
  rw [ofLines_eq, ofLines_eq, logical_broken hclosed hskip hend htext]
  cases LogicalLine.ofLines (before ++ raw :: after) with
  | error e => rfl
  | ok ls =>
    change ((ls.map (LogicalLine.renumber _)).mapM (Rule.read registry)).map (mk name) = _
    rw [Rule.mapM_read_renumber]
    simp only [Except.bind]
    cases ls.mapM (Rule.read registry) <;> rfl

end Breaking

section Example

def fragment (indent piece space : String) (h : piece.toList ≠ [] ∧ Text.trim piece.toList = piece.toList ∧
    (indent.toList ++ space.toList ++ []).all Text.isBlank = true) : Fragment :=
  ⟨indent.toList, piece.toList, space.toList, [], h.1, h.2.1, List.all_eq_true.1 h.2.2⟩

def quotedLine : List Char := "\"a #b\\\\ c\" unless staff  ".toList

/-- Cut inside the quotes, so that one line begins like a comment and ends in three backslashes. -/
def quotedInPieces : BrokenLine where
  front := [fragment "" "\"a" "" (by decide +kernel), fragment "\t" "#b\\\\" "" (by decide +kernel),
    fragment "   " "c\"" "  " (by decide +kernel)]
  last := fragment " " "unless staff" "" (by decide +kernel)

example : quotedInPieces.lines.map String.ofList =
    ["\"a\\", "\t#b\\\\\\", "   c\"  \\", " unless staff"] := by decide +kernel

def rulesAround : List (List Char) := ["# rules".toList, "/x/".toList]

theorem ofLines_broken_quoted :
    LogicalLine.openAfter 1 none rulesAround = none ∧ LogicalLine.isSkipped (Text.trim quotedLine) = false ∧
      (Text.trim quotedLine).getLast? ≠ some '\\' ∧ quotedInPieces.text = Text.trim quotedLine ∧
      ∃ c, Chain.ofLines .empty "chat" (rulesAround ++ quotedLine :: rulesAround) = .ok c ∧
        c.rules.map (·.line) = [2, 3, 5] ∧
        Chain.ofLines .empty "chat" (rulesAround ++ (quotedInPieces.lines ++ rulesAround)) =
          .ok (c.renumber (movedDown 3 3)) ∧
        (c.renumber (movedDown 3 3)).rules.map (·.line) = [2, 3, 8] := by
  have hclosed : LogicalLine.openAfter 1 none rulesAround = none := by decide +kernel
  have hskip : LogicalLine.isSkipped (Text.trim quotedLine) = false := by decide +kernel
  have hend : (Text.trim quotedLine).getLast? ≠ some '\\' := by decide +kernel
  have htext : quotedInPieces.text = Text.trim quotedLine := by decide +kernel
  obtain ⟨c, hc⟩ := exists_ok (e := Chain.ofLines .empty "chat" (rulesAround ++ quotedLine :: rulesAround))
    (by decide +kernel)
  have hnumbers : (Chain.ofLines .empty "chat" (rulesAround ++ quotedLine :: rulesAround)).toOption.map
      (fun c => c.rules.map (·.line)) = some [2, 3, 5] := by decide +kernel
  rw [hc] at hnumbers
  have hlines : c.rules.map (·.line) = [2, 3, 5] := Option.some.inj hnumbers
  refine ⟨hclosed, hskip, hend, htext, c, hc, hlines, ?_, ?_⟩
  · rw [Chain.ofLines_broken hclosed hskip hend htext rulesAround, hc]
    rfl
  · have hmoved : (c.renumber (movedDown 3 3)).rules.map (·.line) =
        (c.rules.map (·.line)).map (movedDown 3 3) := by
      simp [Chain.renumber, Rule.renumber]
    rw [hmoved, hlines]
    rfl

end Example

end Moderation
