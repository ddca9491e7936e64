import Moderation.Decimal.Shortest

/-!
Numbers as the reports and messages of the filter write them: positional, without an exponent.
-/

namespace Moderation.Decimal

def withPoint (digits : List Char) (places : Nat) : List Char :=
  if places == 0 then digits
  else
    let padded := List.replicate (places + 1 - digits.length) '0' ++ digits
    let cut := padded.length - places
    padded.take cut ++ '.' :: padded.drop cut

def Scientific.positional (s : Scientific) : List Char :=
  let digits := Nat.toDigits 10 s.digits
  if 0 ≤ s.exponent then digits ++ List.replicate s.exponent.toNat '0'
  else withPoint digits (-s.exponent).toNat

def roundHalfEven (num den : Nat) : Nat :=
  let whole := num / den
  let rest := num % den
  if 2 * rest < den then whole
  else if den < 2 * rest then whole + 1
  else if whole % 2 == 0 then whole else whole + 1

def magnitude : Binary → List Char
  | .nan => ['N', 'a', 'N']
  | .infinite _ => ['i', 'n', 'f']
  | .finite _ 0 _ => ['0']
  | .finite _ m q => (shortest m q).positional

def magnitudeTo (places : Nat) : Binary → List Char
  | .nan => ['N', 'a', 'N']
  | .infinite _ => ['i', 'n', 'f']
  | .finite _ m q =>
    withPoint (Nat.toDigits 10 (roundHalfEven (m * powPos 2 q * Nat.pow 10 places) (powPos 2 (-q)))) places

def Binary.isNegative : Binary → Bool
  | .nan => false
  | .infinite negative => negative
  | .finite negative _ _ => negative

def render (x : Float) : String :=
  let b := Binary.ofFloat x
  String.ofList ((if b.isNegative then ['-'] else []) ++ magnitude b)

/-- The shortest digits that read back, always with a sign unless the number is none. -/
def renderSigned (x : Float) : String :=
  let b := Binary.ofFloat x
  let sign := if b.isNegative then ['-'] else if b == .nan then [] else ['+']
  String.ofList (sign ++ magnitude b)

/-- The exact value rounded to `places` decimal places, a half going to the even neighbour. -/
def renderTo (places : Nat) (x : Float) : String :=
  let b := Binary.ofFloat x
  String.ofList ((if b.isNegative then ['-'] else []) ++ magnitudeTo places b)

end Moderation.Decimal
