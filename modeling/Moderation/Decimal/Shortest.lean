import Moderation.Decimal.Binary

namespace Moderation.Decimal

structure Scientific where
  digits : Nat
  exponent : Int
  deriving DecidableEq, Repr

/-- `base ^ e`, or one where `e` is negative. -/
def powPos (base : Nat) (e : Int) : Nat := if 0 ≤ e then Nat.pow base e.toNat else 1

/-- The least number of decimal places, counted up to `fuel`, that brings `num / den` to one or more. -/
def placesToUnit : Nat → Nat → Nat → Nat
  | 0, _, _ => 0
  | fuel + 1, num, den => if den ≤ num then 0 else placesToUnit fuel (num * 10) den + 1

/-- The exponent `p` with `10 ^ p ≤ num / den < 10 ^ (p + 1)`. -/
def leadingPlace (num den : Nat) : Int :=
  if den ≤ num then ((Nat.toDigits 10 (num / den)).length : Int) - 1
  else - (placesToUnit 400 num den : Int)

/-- The upper neighbour of `a` on a grid of `count` digits; past the last one it needs a single digit. -/
def upperNeighbour (a count : Nat) (j : Int) : Scientific :=
  if a + 1 == Nat.pow 10 count then ⟨1, j + count⟩ else ⟨a + 1, j⟩

/-- The two neighbours of a number on the grid of `count` digits are tried, the lower one first. The
number is `4 * m * 2 ^ (q - 2)`, and the ends of the interval are written in the same unit; they belong
to it when `m` is even. Of two hits the nearer one is taken, the upper one when they are equally near. -/
def onGrid? (m : Nat) (q place : Int) (count : Nat) : Option Scientific :=
  let e := q - 2
  let j := place - count + 1
  let unit := powPos 2 e * powPos 10 (-j)
  let step := powPos 10 j * powPos 2 (-e)
  let value := 4 * m * unit
  let low := (4 * m - (if halfStepBelow m q then 1 else 2)) * unit
  let high := (4 * m + 2) * unit
  let inside (x : Nat) : Bool :=
    if m % 2 == 0 then low ≤ x && x ≤ high else low < x && x < high
  let a := value / step
  let below := a * step
  let above := (a + 1) * step
  match inside below && a != 0, inside above with
  | true, true => some (if value - below < above - value then ⟨a, j⟩ else upperNeighbour a count j)
  | true, false => some ⟨a, j⟩
  | false, true => some (upperNeighbour a count j)
  | false, false => none

def shortestFrom (m : Nat) (q place : Int) : Nat → Nat → Scientific
  | 0, count => ⟨0, count⟩
  | fuel + 1, count =>
    match onGrid? m q place count with
    | some s => s
    | none => shortestFrom m q place fuel (count + 1)

def shortest (m : Nat) (q : Int) : Scientific :=
  let place := leadingPlace (m * powPos 2 q) (powPos 2 (-q))
  shortestFrom m q place 17 1

end Moderation.Decimal
