/-!
The arithmetic of scores. Scores are floating-point numbers when the filter runs; everything that a
record of points does is written for any numbers that can be added, scaled and compared.
-/

namespace Moderation.Points

/-- Lengths and points of time are whole milliseconds. -/
abbrev Time := Nat

class Scalar (α : Type) where
  zero : α
  add : α → α → α
  sub : α → α → α
  mul : α → α → α
  div : α → α → α
  /-- Whether the first number is at most the second. Nothing is at most a value that is no number. -/
  atMost : α → α → Bool
  isFinite : α → Bool
  seconds : Time → α

instance : Scalar Float where
  zero := 0
  add := (· + ·)
  sub := (· - ·)
  mul := (· * ·)
  div := (· / ·)
  atMost a b := a ≤ b
  isFinite := Float.isFinite
  seconds t := (t / 1000).toFloat + (t % 1000 * 1000000).toFloat / 1e9

variable {α : Type} [Scalar α]

def floored (x : α) : α := if Scalar.atMost Scalar.zero x then x else Scalar.zero

def isPositive (x : α) : Bool := Scalar.isFinite x && !Scalar.atMost x Scalar.zero

def isSame (x y : α) : Bool := Scalar.atMost x y && Scalar.atMost y x

end Moderation.Points
