import Moderation.Unicode.Casing
import Moderation.Unicode.Folding.Table

namespace Moderation.Unicode

def foldingShifts : List ShiftRun := shiftRuns foldingRuns

def foldNumber (n : Nat) : Nat := (foldingShifts.findSome? (·.image? n)).getD n

def caseVariants (c : Char) : List Char :=
  let n := foldNumber c.toNat
  (n :: foldingShifts.filterMap (·.preimage? n)).map Char.ofNat

def asciiCaseVariants (c : Char) : List Char :=
  if c.isAlpha then [c.toUpper, c.toLower] else [c]

end Moderation.Unicode
