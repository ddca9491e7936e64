namespace Moderation.Decimal

/-- What a floating-point number stands for. A finite one is `mantissa * 2 ^ exponent`. -/
inductive Binary where
  | nan
  | infinite (negative : Bool)
  | finite (negative : Bool) (mantissa : Nat) (exponent : Int)
  deriving DecidableEq, Repr

/-- The leading bit of a mantissa of full length, which is not stored. -/
def hiddenBit : Nat := Nat.pow 2 52

def Binary.ofFloat (x : Float) : Binary :=
  let bits := x.toBits.toNat
  let negative := bits / Nat.pow 2 63 == 1
  let exponent := bits / hiddenBit % 2048
  let fraction := bits % hiddenBit
  if exponent == 2047 then
    if fraction == 0 then .infinite negative else .nan
  else if exponent == 0 then .finite negative fraction (-1074)
  else .finite negative (hiddenBit + fraction) (Int.ofNat exponent - 1075)

/-- The spacing below a power of two is half the spacing above it, except among the smallest numbers. -/
def halfStepBelow (mantissa : Nat) (exponent : Int) : Bool :=
  mantissa == hiddenBit && decide (exponent > -1074)

end Moderation.Decimal
