import Moderation.Author
import Moderation.Colored.Substitution

namespace Moderation

structure Context where
  author : Author
  received : ColoredText
  modified : ColoredText
  cancelled : Bool := false
  logging : Bool := false
  halted : Bool := false
  /-- The chain that is at work on the message, or was last. -/
  chain : Option String := none
  /-- The pattern of the rule whose actions are running. -/
  pattern : Option Pattern := none
  /-- The lines of the rules that matched, in order. -/
  matchedLines : List Nat := []
  notes : List String := []

namespace Context

def ofText (author : Author) (raw : List Char) : Context :=
  { author := author, received := .ofRaw raw, modified := .ofRaw raw }

def ofString (author : Author) (raw : String) : Context := ofText author raw.toList

/-- A message without text, for actions that no message caused. -/
def blank (author : Author) : Context := ofText author []

def changed (c : Context) : Bool := c.modified != c.received

def note (c : Context) (text : String) : Context := { c with notes := c.notes ++ [text] }

def enterRule (c : Context) (line : Nat) (p : Pattern) : Context :=
  { c with matchedLines := c.matchedLines ++ [line], pattern := some p }

def leaveRule (c : Context) : Context := { c with pattern := none }

/-- Replaces every match of the pattern at hand by what `f` makes of the matched text. Without a
pattern the message stays. -/
def replaceMatches (c : Context) (f : List Char → List Char) : Context :=
  match c.pattern with
  | none => c
  | some p => { c with modified := c.modified.replaceMatches p f }

end Context

end Moderation
