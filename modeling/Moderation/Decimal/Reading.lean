namespace Moderation.Decimal

def digitValue (c : Char) : Nat := c.toNat - '0'.toNat

def digitsValue (s : List Char) : Nat := s.foldl (fun n c => n * 10 + digitValue c) 0

/-- The float nearest to `m * 10 ^ e`. Numbers far outside the range are decided by their size alone. -/
def toFloat (negative : Bool) (m : Nat) (e : Int) : Float :=
  let size : Int := (Nat.toDigits 10 m).length + e
  let x : Float :=
    if m == 0 || size < -400 then 0
    else if 400 < size then 1 / 0
    else Float.ofScientific m (decide (e < 0)) e.natAbs
  if negative then -x else x

def readSign : List Char → Bool × List Char
  | '-' :: rest => (true, rest)
  | '+' :: rest => (false, rest)
  | rest => (false, rest)

def readDigits (s : List Char) : List Char × List Char :=
  (s.takeWhile Char.isDigit, s.dropWhile Char.isDigit)

def readExponent : List Char → Option Int
  | [] => some 0
  | c :: rest =>
    if c == 'e' || c == 'E' then
      let (negative, rest) := readSign rest
      let (digits, rest) := readDigits rest
      if digits.isEmpty || !rest.isEmpty then none
      else some (if negative then -(digitsValue digits : Int) else digitsValue digits)
    else none

def readMagnitude (negative : Bool) (s : List Char) : Option Float :=
  let (whole, rest) := readDigits s
  let (fraction, rest) :=
    match rest with
    | '.' :: rest => readDigits rest
    | rest => ([], rest)
  if whole.isEmpty && fraction.isEmpty then none
  else
    (readExponent rest).map fun e =>
      toFloat negative (digitsValue (whole ++ fraction)) (e - fraction.length)

/-- The names of the values that are no finite numbers, in any ASCII case. -/
def readNamed (negative : Bool) (s : List Char) : Option Float :=
  let name := s.map Char.toLower
  if name == ['n', 'a', 'n'] then some (0 / 0)
  else if name == ['i', 'n', 'f'] || name == ['i', 'n', 'f', 'i', 'n', 'i', 't', 'y'] then
    some (if negative then -1 / 0 else 1 / 0)
  else none

def read (s : List Char) : Option Float :=
  let (negative, rest) := readSign s
  (readMagnitude negative rest).orElse fun _ => readNamed negative rest

end Moderation.Decimal
