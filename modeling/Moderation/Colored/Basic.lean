/-!
Text with color codes. A marker and the character after it make a code; the reader of a message sees
the other characters. A code stays with the character that it stands before.
-/

namespace Moderation

def marker : Char := '§'

/-- A visible character and the codes right before it, in order, without their markers. -/
structure Cell where
  codes : List Char
  glyph : Char
  deriving DecidableEq, Repr

structure ColoredText where
  cells : List Cell
  trailing : List Char
  deriving DecidableEq, Repr

namespace ColoredText

def cons (c : Cell) (t : ColoredText) : ColoredText := ⟨c :: t.cells, t.trailing⟩

/-- Splits a raw text, `codes` being those that were read since the last visible character. A marker
that ends the text is visible. -/
def scan (codes : List Char) : List Char → ColoredText
  | [] => ⟨[], codes⟩
  | [c] => ⟨[⟨codes, c⟩], []⟩
  | c :: d :: rest =>
    if c = marker then scan (codes ++ [d]) rest else cons ⟨codes, c⟩ (scan [] (d :: rest))

def ofRaw (raw : List Char) : ColoredText := scan [] raw

def glyphs (t : ColoredText) : List Char := t.cells.map Cell.glyph

def codesRaw (codes : List Char) : List Char := codes.flatMap fun c => [marker, c]

def cellRaw (c : Cell) : List Char := codesRaw c.codes ++ [c.glyph]

def raw (t : ColoredText) : List Char := t.cells.flatMap cellRaw ++ codesRaw t.trailing

def ofString (s : String) : ColoredText := ofRaw s.toList

def plainString (t : ColoredText) : String := String.ofList t.glyphs

def rawString (t : ColoredText) : String := String.ofList t.raw

def isEmpty (t : ColoredText) : Bool := t.cells.isEmpty

def hasCodes (t : ColoredText) : Bool :=
  t.cells.any (fun c => !c.codes.isEmpty) || !t.trailing.isEmpty

def uncolored (s : List Char) : ColoredText := ⟨s.map fun c => ⟨[], c⟩, []⟩

def decolor (t : ColoredText) : ColoredText := uncolored t.glyphs

def allCodes (t : ColoredText) : List Char := t.cells.flatMap Cell.codes ++ t.trailing

@[simp] theorem glyphs_uncolored (s : List Char) : (uncolored s).glyphs = s := by
  simp [glyphs, uncolored, Function.comp_def]

@[simp] theorem glyphs_decolor (t : ColoredText) : t.decolor.glyphs = t.glyphs := by
  simp [decolor]

end ColoredText

end Moderation
