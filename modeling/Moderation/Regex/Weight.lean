import Moderation.Regex.Basic

/-!
How much room a compiled expression takes. Expressions above a limit are refused.
-/

namespace Moderation.Regex

/-- Bytes for one step that takes a byte of the text. -/
def stepWeight : Nat := 32

/-- A class that holds characters outside ASCII is compiled to a tree over their bytes; a property
with many ranges needs a large one. -/
def CharClass.weight : CharClass → Nat
  | .none => 2 * stepWeight
  | .range first last =>
    if first == last then first.utf8Size * stepWeight
    else if last.toNat < 128 then 2 * stepWeight + 8
    else 20 * stepWeight
  | .having _ => 1500 * stepWeight
  | .union a b => a.weight + b.weight
  | .inter a b => Nat.min a.weight b.weight
  | .minus a _ => a.weight
  | .symmetric a b => a.weight + b.weight
  | .negation a => a.weight + 20 * stepWeight
  | .caseless a => 2 * a.weight
  | .asciiCaseless a => a.weight + 16

def weight : Regex → Nat
  | .empty => 0
  | .char cls => cls.weight
  | .look _ => stepWeight
  | .cat a b => a.weight + b.weight
  | .alt a b => a.weight + b.weight + 2 * stepWeight
  | .repeated min max _ body =>
    if body.takesNothing then body.weight + 2 * stepWeight
    else
      match max with
      | some max => max * body.weight + (max - min) * (stepWeight + 8) + stepWeight
      | none => Nat.max min 1 * body.weight + 2 * stepWeight

/-- Ten mebibytes. -/
def weightLimit : Nat := 10485760

end Moderation.Regex
