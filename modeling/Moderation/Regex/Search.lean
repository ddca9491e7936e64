import Moderation.Regex.Program

/-!
Searching a text. The leftmost match is found, and among the matches that start there the one whose
steps are tried first. A pair of step and position is tried once at most, so a search takes time in
proportion to the length of the program times the length of the text.
-/

namespace Moderation.Regex

/-- Which steps have been tried at which positions. A step is a bit, and `width` words of thirty-two
bits belong to every position. -/
structure Tried where
  width : Nat
  words : Array Nat

namespace Tried

def word (t : Tried) (step pos : Nat) : Nat := pos * t.width + step / 32

def has (t : Tried) (step pos : Nat) : Bool := (t.words[t.word step pos]?.getD 0).testBit (step % 32)

def mark (t : Tried) (step pos : Nat) : Tried :=
  { t with words := t.words.modify (t.word step pos) (· ||| 1 <<< (step % 32)) }

def none (code : Program) (text : Array Char) : Tried :=
  let width := code.size / 32 + 1
  ⟨width, Array.replicate (width * (text.size + 1)) 0⟩

end Tried

def charBefore (text : Array Char) : Nat → Option Char
  | 0 => .none
  | pos + 1 => text[pos]?

/-- The pairs to try next, first the one to try first, after a step at a position. -/
def Step.follow (text : Array Char) (pos : Nat) : Step → List (Nat × Nat)
  | .take cls next => if text[pos]?.any cls.mem then [(next, pos + 1)] else []
  | .fork first second => [(first, pos), (second, pos)]
  | .test l next => if l.holds (charBefore text pos) text[pos]? then [(next, pos)] else []
  | .accept => []

def explore (code : Program) (text : Array Char) :
    Nat → List (Nat × Nat) → Tried → Option Nat × Tried
  | 0, _, tried => (.none, tried)
  | _ + 1, [], tried => (.none, tried)
  | fuel + 1, (step, pos) :: rest, tried =>
    if tried.has step pos then explore code text fuel rest tried
    else
      let tried := tried.mark step pos
      match code[step]? with
      | .none => explore code text fuel rest tried
      | some .accept => (some pos, tried)
      | some s => explore code text fuel (s.follow text pos ++ rest) tried

/-- Every pair is tried once and puts at most two others on the list. -/
def Code.fuel (code : Code) (text : Array Char) : Nat :=
  2 * (code.steps.size * (text.size + 1)) + 2

structure Span where
  start : Nat
  stop : Nat
  deriving DecidableEq, Repr

/-- Looks for a match that starts at `start` or one of the `more` positions after it. A pair that did
not lead to a match from one start leads to none from a later one. -/
def findFrom (code : Code) (text : Array Char) : Nat → Nat → Tried → Option Span
  | more, start, tried =>
    match explore code.steps text (code.fuel text) [(code.entry, start)] tried with
    | (some stop, _) => some ⟨start, stop⟩
    | (.none, tried) =>
      match more with
      | 0 => .none
      | more + 1 => findFrom code text more (start + 1) tried

def Code.findAt (code : Code) (text : Array Char) (start : Nat) : Option Span :=
  if start ≤ text.size then findFrom code text (text.size - start) start (Tried.none code.steps text) else .none

def Code.matches (code : Code) (text : Array Char) : Bool := (code.findAt text 0).isSome

/-- The match to report after one that stopped at `last`: an empty match right there is passed over. -/
def Code.findAfter (code : Code) (text : Array Char) (start : Nat) (last : Option Nat) : Option Span :=
  match code.findAt text start with
  | some span =>
    if span.start == span.stop && last == some span.stop then code.findAt text (start + 1)
    else some span
  | .none => .none

def Code.findAllFrom (code : Code) (text : Array Char) : Nat → Nat → Option Nat → List Span
  | 0, _, _ => []
  | fuel + 1, start, last =>
    match code.findAfter text start last with
    | some span => span :: code.findAllFrom text fuel span.stop (some span.stop)
    | .none => []

def Code.findAll (code : Code) (text : Array Char) : List Span :=
  code.findAllFrom text (2 * text.size + 2) 0 .none

end Moderation.Regex
