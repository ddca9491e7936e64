import Moderation.Text.Lines
import Moderation.Text.Blank
import Moderation.Rule.Error

/-!
Logical lines. A physical line that ends in a backslash goes on in the next one; blank lines and
comments between logical lines do not count.
-/

namespace Moderation

structure LogicalLine where
  number : Nat
  text : List Char
  deriving DecidableEq, Repr

namespace LogicalLine

def extend (l : LogicalLine) (piece : List Char) : LogicalLine :=
  if piece.isEmpty then l
  else if l.text.isEmpty then { l with text := piece }
  else { l with text := l.text ++ ' ' :: piece }

def splitContinuation (trimmed : List Char) : List Char × Bool :=
  if trimmed.getLast? = some '\\' then (Text.trimEnd trimmed.dropLast, true) else (trimmed, false)

def isSkipped (trimmed : List Char) : Bool := trimmed.isEmpty || trimmed.head? == some '#'

def joinFrom (number : Nat) (current : Option LogicalLine) :
    List (List Char) → Except ParseError (List LogicalLine)
  | [] =>
    match current with
    | some l => .error (.malformed l.number .openContinuation)
    | none => .ok []
  | raw :: rest =>
    let trimmed := Text.trim raw
    if current.isNone && isSkipped trimmed then joinFrom (number + 1) none rest
    else
      let (piece, continues) := splitContinuation trimmed
      let line :=
        match current with
        | some l => l.extend piece
        | none => ⟨number, piece⟩
      if continues then joinFrom (number + 1) (some line) rest
      else (joinFrom (number + 1) none rest).map (line :: ·)

def ofLines (lines : List (List Char)) : Except ParseError (List LogicalLine) := joinFrom 1 none lines

end LogicalLine

end Moderation
