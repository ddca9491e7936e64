import Moderation.Regex.CharClass

namespace Moderation

/-- Which edge of a word a position has to be. A half edge looks at one side only. -/
inductive WordEdge where
  | boundary
  | inside
  | start
  | stop
  | startHalf
  | stopHalf
  deriving DecidableEq, Repr

inductive Look where
  | textStart
  | textStop
  | lineStart (carriageReturns : Bool)
  | lineStop (carriageReturns : Bool)
  | word (edge : WordEdge) (ascii : Bool)
  deriving DecidableEq, Repr

inductive Regex where
  | empty
  | char (cls : Regex.CharClass)
  | look (l : Look)
  | cat (first second : Regex)
  | alt (first second : Regex)
  | repeated (min : Nat) (max : Option Nat) (greedy : Bool) (body : Regex)

def Look.holds (before after : Option Char) : Look → Bool
  | .textStart => before.isNone
  | .textStop => after.isNone
  | .lineStart false => before.isNone || before == some '\n'
  | .lineStop false => after.isNone || after == some '\n'
  | .lineStart true =>
    before.isNone || before == some '\n' || (before == some '\r' && after != some '\n')
  | .lineStop true =>
    after.isNone || after == some '\r' || (after == some '\n' && before != some '\r')
  | .word edge ascii =>
    let isWord := if ascii then Unicode.isAsciiWord else Unicode.isWord
    let left := before.any isWord
    let right := after.any isWord
    match edge with
    | .boundary => left != right
    | .inside => left == right
    | .start => !left && right
    | .stop => left && !right
    | .startHalf => !left
    | .stopHalf => !right

namespace Regex

def sequence : List Regex → Regex
  | [] => .empty
  | [r] => r
  | r :: rest => .cat r (sequence rest)

def choice : List Regex → Regex
  | [] => .empty
  | [r] => r
  | r :: rest => .alt r (choice rest)

def nullable : Regex → Bool
  | .empty => true
  | .char _ => false
  | .look _ => true
  | .cat a b => a.nullable && b.nullable
  | .alt a b => a.nullable || b.nullable
  | .repeated min _ _ body => min == 0 || body.nullable

def takesNothing : Regex → Bool
  | .empty => true
  | .char _ => false
  | .look _ => true
  | .cat a b => a.takesNothing && b.takesNothing
  | .alt a b => a.takesNothing && b.takesNothing
  | .repeated _ max _ body => max == some 0 || body.takesNothing

def literal (s : List Char) : Regex := sequence (s.map fun c => .char (.single c))

end Regex

end Moderation
