import Moderation.Proofs.Colored.Replacing

/-!
Codes in a list beside the visible text, each entry with the offset in bytes at which its codes stand. Texts are read,
edited and written in this form too. Every cut at an offset is checked here, and the entries are moved one by one.
What comes out is the list that belongs to the cells of the text edited the other way.
-/

namespace Moderation

open ColoredText

structure CodeEntry where
  offset : Nat
  written : List Char
  deriving DecidableEq, Repr

structure IndexedText where
  glyphs : List Char
  entries : List CodeEntry
  deriving DecidableEq, Repr

namespace CodeEntry

abbrev Rising (es : List CodeEntry) : Prop := es.Pairwise fun e e' => e.offset < e'.offset

def HoldsCodes (e : CodeEntry) : Prop := ∃ codes, codes ≠ [] ∧ e.written = codesRaw codes

/-- Puts codes behind all others. If the last ones stand at the same offset, the entry is theirs too. -/
def push (es : List CodeEntry) (offset : Nat) (written : List Char) : List CodeEntry :=
  match es.getLast? with
  | some last =>
    if last.offset = offset then es.dropLast ++ [⟨offset, last.written ++ written⟩]
    else es ++ [⟨offset, written⟩]
  | none => [⟨offset, written⟩]

/-- Where codes stand after a stretch is replaced by a text of the given length; `none` if more is to be subtracted
than there is. -/
def moved? (start stop length offset : Nat) : Option Nat :=
  if offset ≤ start then some offset
  else if offset < stop then some start
  else if stop - start ≤ offset then some (offset - (stop - start) + length)
  else none

def move? (start stop length : Nat) (es : List CodeEntry) (e : CodeEntry) : Option (List CodeEntry) :=
  (moved? start stop length e.offset).map fun offset => push es offset e.written

end CodeEntry

namespace IndexedText

/-- The characters between two offsets; `none` if the offsets are not in order, or if one of them is behind the text
or inside a character. -/
def slice? (s : List Char) (start stop : Nat) : Option (List Char) :=
  if stop < start then none
  else do
    let i ← charsInBytes? s start
    let j ← charsInBytes? s stop
    return (s.take j).drop i

def scan (x : IndexedText) : List Char → IndexedText
  | [] => x
  | [c] => { x with glyphs := x.glyphs ++ [c] }
  | c :: d :: rest =>
    if c = marker then scan { x with entries := CodeEntry.push x.entries (byteLength x.glyphs) [marker, d] } rest
    else scan { x with glyphs := x.glyphs ++ [c] } (d :: rest)

def ofRaw (raw : List Char) : IndexedText := scan ⟨[], []⟩ raw

def decolor (x : IndexedText) : IndexedText := ⟨x.glyphs, []⟩

/-- What is written of a text up to some offset, continued up to the end of the next entry. -/
def write? (s : List Char) (done : List Char × Nat) (e : CodeEntry) : Option (List Char × Nat) :=
  (slice? s done.2 e.offset).map fun gap => (done.1 ++ gap ++ e.written, e.offset)

def finish? (s : List Char) (done : List Char × Nat) : Option (List Char) :=
  (slice? s done.2 (byteLength s)).map (done.1 ++ ·)

def raw? (x : IndexedText) : Option (List Char) := do
  let done ← x.entries.foldlM (write? x.glyphs) ([], 0)
  finish? x.glyphs done

def replaceRange? (x : IndexedText) (start stop : Nat) (text : List Char) : Option IndexedText := do
  let before ← slice? x.glyphs 0 start
  let _ ← slice? x.glyphs start stop
  let behind ← slice? x.glyphs stop (byteLength x.glyphs)
  let entries ← x.entries.foldlM (CodeEntry.move? start stop (byteLength text)) []
  return ⟨before ++ (text ++ behind), entries⟩

def replaceBackward? (x : IndexedText) (rs : List Replacement) : Option IndexedText :=
  rs.foldr (fun r edited => edited.bind fun x' =>
    x'.replaceRange? (byteOffset x.glyphs r.start) (byteOffset x.glyphs r.stop) r.text) (some x)

end IndexedText

namespace CodeEntry

def pushCode (es : List CodeEntry) (p : Nat × Char) : List CodeEntry := push es p.1 [marker, p.2]

def gather (places : List (Nat × Char)) : List CodeEntry := places.foldl pushCode []

def regather (f : Nat → Nat) (es : List CodeEntry) : List CodeEntry :=
  es.foldl (fun moved e => push moved (f e.offset) e.written) []

theorem push_cases (es : List CodeEntry) (offset : Nat) :
    (∃ init before, es = init ++ [⟨offset, before⟩] ∧
        ∀ written, push es offset written = init ++ [⟨offset, before ++ written⟩]) ∨
      (∀ init last, es = init ++ [last] → last.offset ≠ offset) ∧
        ∀ written, push es offset written = es ++ [⟨offset, written⟩] := by
  rcases es.eq_nil_or_concat with rfl | ⟨init, last, rfl⟩
  · exact .inr ⟨fun init last h => absurd h (by simp), fun written => rfl⟩
  · rw [List.concat_eq_append]
    by_cases hlast : last.offset = offset
    · subst hlast
      exact .inl ⟨init, last.written, rfl, fun written => by simp [push]⟩
    · refine .inr ⟨fun init' last' h => ?_, fun written => by simp [push, hlast]⟩
      obtain ⟨-, rfl⟩ := List.append_singleton_inj.1 h
      exact hlast

theorem push_push (es : List CodeEntry) (offset : Nat) (written written' : List Char) :
    push (push es offset written) offset written' = push es offset (written ++ written') := by
  have hself (es : List CodeEntry) (before : List Char) :
      push (es ++ [⟨offset, before⟩]) offset written' = es ++ [⟨offset, before ++ written'⟩] := by
    simp [push]
  rcases push_cases es offset with ⟨init, before, rfl, hpush⟩ | ⟨-, hpush⟩
  · rw [hpush, hpush, hself, List.append_assoc]
  · rw [hpush, hpush, hself]

theorem gather_concat (places : List (Nat × Char)) (p : Nat × Char) :
    gather (places ++ [p]) = push (gather places) p.1 [marker, p.2] := by
  rw [gather, List.foldl_append]
  rfl

theorem regather_concat (f : Nat → Nat) (es : List CodeEntry) (e : CodeEntry) :
    regather f (es ++ [e]) = push (regather f es) (f e.offset) e.written := by
  rw [regather, List.foldl_append]
  rfl

theorem regather_push (f : Nat → Nat) (es : List CodeEntry) (offset : Nat) (written : List Char) :
    regather f (push es offset written) = push (regather f es) (f offset) written := by
  rcases push_cases es offset with ⟨init, before, rfl, hpush⟩ | ⟨-, hpush⟩
  · rw [hpush, regather_concat, regather_concat, push_push]
  · rw [hpush, regather_concat]

theorem gather_map (f : Nat → Nat) (places : List (Nat × Char)) :
    gather (places.map fun (offset, c) => (f offset, c)) = regather f (gather places) := by
  rw [gather, List.foldl_map]
  exact @List.foldl_hom _ _ _ (regather f) pushCode _ places [] fun es p =>
    (regather_push f es p.1 [marker, p.2]).symm

def moved (start stop length offset : Nat) : Nat :=
  if offset ≤ start then offset
  else if offset < stop then start
  else offset - (stop - start) + length

theorem moved?_eq {start stop length offset : Nat} (h : start ≤ stop) :
    moved? start stop length offset = some (moved start stop length offset) := by
  unfold moved? moved
  split
  · rfl
  · split
    · rfl
    · rw [if_pos (by omega)]

theorem foldlM_move? {start stop length : Nat} (h : start ≤ stop) (es : List CodeEntry) :
    es.foldlM (move? start stop length) [] = some (regather (moved start stop length) es) := by
  have hmove : move? start stop length =
      fun es e => pure (push es (moved start stop length e.offset) e.written) := by
    funext es e
    rw [move?, moved?_eq h]
    rfl
  rw [hmove]
  exact List.foldlM_pure

end CodeEntry

namespace ColoredText

section Ranges

def AtBoundary (s : List Char) (offset : Nat) : Prop := ∃ pos ≤ s.length, byteOffset s pos = offset

structure ValidRange (s : List Char) (start stop : Nat) : Prop where
  ordered : start ≤ stop
  inside : stop ≤ byteLength s
  starts : AtBoundary s start
  stops : AtBoundary s stop

variable {s : List Char} {offset pos : Nat}

theorem byteOffset_length (s : List Char) : byteOffset s s.length = byteLength s := by
  rw [byteOffset, List.take_length]

theorem AtBoundary.le_byteLength (h : AtBoundary s offset) : offset ≤ byteLength s := by
  obtain ⟨pos, hpos, rfl⟩ := h
  rw [← byteOffset_length]
  exact byteOffset_mono s hpos

theorem atBoundary_append (front behind : List Char) : AtBoundary (front ++ behind) (byteLength front) := by
  refine ⟨front.length, ?_, ?_⟩
  · rw [List.length_append]
    exact Nat.le_add_right _ _
  · rw [byteOffset, List.take_left]

theorem charsInBytes?_eq_some_iff :
    charsInBytes? s offset = some pos ↔ pos ≤ s.length ∧ byteOffset s pos = offset := by
  refine ⟨fun h => ?_, fun ⟨hpos, hoffset⟩ => hoffset ▸ charsInBytes?_byteOffset hpos⟩
  fun_induction charsInBytes? s offset generalizing pos with
  | case1 s =>
    obtain rfl := Option.some.inj h
    exact ⟨Nat.zero_le _, rfl⟩
  | case2 => cases h
  | case3 c rest n hn hle ih =>
    obtain ⟨pos, hrest, rfl⟩ := Option.map_eq_some_iff.1 h
    obtain ⟨hpos, hoffset⟩ := ih hrest
    refine ⟨Nat.succ_le_succ hpos, ?_⟩
    rw [byteOffset, List.take_succ_cons, byteLength, ← byteOffset, hoffset, Nat.add_sub_cancel' hle]
  | case4 => cases h

theorem le_of_byteOffset_le {i j : Nat} (hi : i ≤ s.length) (hj : j ≤ s.length)
    (h : byteOffset s i ≤ byteOffset s j) : i ≤ j := by
  rcases Nat.le_total i j with hle | hge
  · exact hle
  · have heq : byteOffset s i = byteOffset s j := Nat.le_antisymm h (byteOffset_mono s hge)
    have hchars := charsInBytes?_byteOffset hj
    rw [← heq, charsInBytes?_byteOffset hi] at hchars
    exact Nat.le_of_eq (Option.some.inj hchars)

theorem validRange_iff {start stop : Nat} :
    ValidRange s start stop ↔
      ∃ i j, i ≤ j ∧ j ≤ s.length ∧ byteOffset s i = start ∧ byteOffset s j = stop := by
  constructor
  · rintro ⟨hordered, -, ⟨i, hi, rfl⟩, ⟨j, hj, rfl⟩⟩
    exact ⟨i, j, le_of_byteOffset_le hi hj hordered, hj, rfl, rfl⟩
  · rintro ⟨i, j, hij, hj, rfl, rfl⟩
    have hstop : AtBoundary s (byteOffset s j) := ⟨j, hj, rfl⟩
    exact ⟨byteOffset_mono s hij, hstop.le_byteLength, ⟨i, Nat.le_trans hij hj, rfl⟩, hstop⟩

theorem exists_ofRange_iff {α : Type} (f : Nat → Nat → α) {start stop : Nat} :
    (∃ a, (if stop < start then none
      else do
        let i ← charsInBytes? s start
        let j ← charsInBytes? s stop
        return f i j) = some a) ↔ ValidRange s start stop := by
  constructor
  · rintro ⟨a, ha⟩
    split at ha
    · cases ha
    · rename_i hle
      obtain ⟨i, hi, ha⟩ := Option.bind_eq_some_iff.1 ha
      obtain ⟨j, hj, -⟩ := Option.bind_eq_some_iff.1 ha
      have hstop : AtBoundary s stop := ⟨j, charsInBytes?_eq_some_iff.1 hj⟩
      exact ⟨Nat.not_lt.1 hle, hstop.le_byteLength, ⟨i, charsInBytes?_eq_some_iff.1 hi⟩, hstop⟩
  · intro hvalid
    obtain ⟨i, j, hij, hj, rfl, rfl⟩ := validRange_iff.1 hvalid
    refine ⟨f i j, ?_⟩
    rw [if_neg (Nat.not_lt.2 hvalid.ordered), charsInBytes?_byteOffset (Nat.le_trans hij hj),
      charsInBytes?_byteOffset hj]
    rfl

end Ranges

def cellPlaces (offset : Nat) : List Cell → List (Nat × Char)
  | [] => []
  | c :: cells => c.codes.map (offset, ·) ++ cellPlaces (offset + c.glyph.utf8Size) cells

def places (t : ColoredText) (offset : Nat) : List (Nat × Char) :=
  cellPlaces offset t.cells ++ t.trailing.map (offset + byteLength t.glyphs, ·)

def indexed (t : ColoredText) : IndexedText := ⟨t.glyphs, CodeEntry.gather (t.places 0)⟩

end ColoredText

namespace IndexedText

section Slices

theorem slice?_append (front middle behind : List Char) :
    slice? (front ++ (middle ++ behind)) (byteLength front) (byteLength (front ++ middle)) = some middle := by
  have hstop := charsInBytes?_append (front ++ middle) behind
  rw [List.append_assoc] at hstop
  rw [slice?, if_neg (Nat.not_lt.2 (byteLength_le_append front middle)), charsInBytes?_append, hstop]
  simp [← List.append_assoc]

theorem slice?_front (front behind : List Char) :
    slice? (front ++ behind) 0 (byteLength front) = some front := slice?_append [] front behind

theorem slice?_behind (front behind : List Char) :
    slice? (front ++ behind) (byteLength front) (byteLength (front ++ behind)) = some behind := by
  have hslice := slice?_append front behind []
  rwa [List.append_nil] at hslice

theorem slice?_self {s : List Char} {offset : Nat} (h : AtBoundary s offset) :
    slice? s offset offset = some [] := by
  obtain ⟨pos, -, rfl⟩ := h
  have hcut := slice?_append (s.take pos) [] (s.drop pos)
  rwa [List.append_nil, List.nil_append, List.take_append_drop] at hcut

end Slices

end IndexedText

end Moderation
