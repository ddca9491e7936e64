import Moderation.Colored.Basic

/-!
Replacing visible characters. Codes inside a replaced stretch move to its beginning, so that the
color in force behind the edit stays what it was; codes behind it stay with their characters.
-/

namespace Moderation.ColoredText

def attach (codes : List Char) (t : ColoredText) : ColoredText :=
  match t.cells with
  | [] => ⟨[], codes ++ t.trailing⟩
  | c :: rest => ⟨⟨codes ++ c.codes, c.glyph⟩ :: rest, t.trailing⟩

def detach (t : ColoredText) : List Char × ColoredText :=
  match t.cells with
  | [] => (t.trailing, ⟨[], []⟩)
  | c :: rest => (c.codes, ⟨⟨[], c.glyph⟩ :: rest, t.trailing⟩)

def prepend (cells : List Cell) (t : ColoredText) : ColoredText := ⟨cells ++ t.cells, t.trailing⟩

def after (t : ColoredText) (pos : Nat) : ColoredText := ⟨t.cells.drop pos, t.trailing⟩

/-- Puts a text in the place of the cells that were taken out, before what stands behind them. Where
nothing was taken out, the codes at that place stay in front of what is put in. -/
def fillGap (taken : List Cell) (text : List Char) (behind : ColoredText) : ColoredText :=
  let (codes, behind) :=
    if taken.isEmpty then behind.detach else (taken.flatMap Cell.codes, behind)
  attach codes (prepend (uncolored text).cells behind)

structure Replacement where
  start : Nat
  stop : Nat
  text : List Char
  deriving DecidableEq, Repr

/-- Replaces stretches that follow one another in a text that begins at the position `pos`. -/
def replaceFrom (pos : Nat) (t : ColoredText) : List Replacement → ColoredText
  | [] => t
  | r :: rest =>
    let gap := t.cells.take (r.start - pos)
    let t := t.after (r.start - pos)
    let taken := t.cells.take (r.stop - r.start)
    prepend gap (fillGap taken r.text (replaceFrom r.stop (t.after (r.stop - r.start)) rest))

def replaceAll (t : ColoredText) (rs : List Replacement) : ColoredText := replaceFrom 0 t rs

def charsInBytes? : List Char → Nat → Option Nat
  | _, 0 => some 0
  | [], _ + 1 => none
  | c :: rest, n => if c.utf8Size ≤ n then (charsInBytes? rest (n - c.utf8Size)).map (· + 1) else none

/-- Replaces a stretch given by offsets in bytes; `none` unless both lie between characters of the
visible text, the first not behind the second. -/
def replaceBytes? (t : ColoredText) (start stop : Nat) (text : List Char) : Option ColoredText :=
  if stop < start then none
  else do
    let i ← charsInBytes? t.glyphs start
    let j ← charsInBytes? t.glyphs stop
    return t.replaceAll [⟨i, j, text⟩]

end Moderation.ColoredText
