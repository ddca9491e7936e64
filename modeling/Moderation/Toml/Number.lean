import Moderation.Decimal.Reading
import Moderation.Toml.Value
import Moderation.Toml.Text

namespace Moderation.Toml

def readGrouped (isDigit : Char → Bool) : Nat → List Char → Option (List Char × List Char)
  | 0, _ => none
  | fuel + 1, s =>
    let digits := s.takeWhile isDigit
    if digits.isEmpty then none
    else
      match s.drop digits.length with
      | '_' :: rest => (readGrouped isDigit fuel rest).map fun (more, rest) => (digits ++ more, rest)
      | rest => some (digits, rest)

def readDecimalDigits (s : List Char) : Option (List Char × List Char) :=
  readGrouped Char.isDigit (s.length + 1) s

/-- A whole number without sign: no zero stands before other digits. -/
def readWhole (s : List Char) : Option (List Char × List Char) :=
  match s with
  | '0' :: rest => some (['0'], rest)
  | _ => readDecimalDigits s

def inBase (base : Nat) (digits : List Char) : Nat :=
  digits.foldl (fun n c => n * base + (Unicode.hexDigit? c).getD 0) 0

/-- Whole numbers have sixty-four bits. -/
def integer (n : Int) : Option Value :=
  if -9223372036854775808 ≤ n && n ≤ 9223372036854775807 then some (.integer n) else none

def readPrefixed (base : Nat) (s : List Char) : Option (Value × List Char) := do
  let isDigit (c : Char) : Bool := (Unicode.hexDigit? c).any (· < base)
  let (digits, rest) ← readGrouped isDigit (s.length + 1) s
  let v ← integer (inBase base digits)
  return (v, rest)

def readPower (s : List Char) : Option (Option Int × List Char) :=
  match s with
  | c :: rest =>
    if c == 'e' || c == 'E' then do
      let (negative, rest) := Decimal.readSign rest
      let (digits, rest) ← readDecimalDigits rest
      let n : Int := Decimal.digitsValue digits
      return (some (if negative then -n else n), rest)
    else some (none, s)
  | [] => some (none, [])

def readFraction : List Char → Option (Option (List Char) × List Char)
  | '.' :: rest => (readDecimalDigits rest).map fun (digits, rest) => (some digits, rest)
  | rest => some (none, rest)

def readNamed : List Char → Option (Float × List Char)
  | 'i' :: 'n' :: 'f' :: rest => some (1 / 0, rest)
  | 'n' :: 'a' :: 'n' :: rest => some (0 / 0, rest)
  | _ => none

/-- A decimal number. One with a point or an exponent is a float and must not be too large. -/
def readDecimal (s : List Char) : Option (Value × List Char) :=
  let (negative, s) := Decimal.readSign s
  match readNamed s with
  | some (x, rest) => some (.float (if negative then -x else x), rest)
  | none => do
    let (whole, rest) ← readWhole s
    let (fraction, rest) ← readFraction rest
    let (power, rest) ← readPower rest
    if fraction.isNone && power.isNone then
      let n : Int := Decimal.digitsValue whole
      let v ← integer (if negative then -n else n)
      return (v, rest)
    else
      let digits := fraction.getD []
      let x := Decimal.toFloat negative (Decimal.digitsValue (whole ++ digits))
        (power.getD 0 - digits.length)
      if x == 1 / 0 then none else return (.float x, rest)

def readPair (low high : Nat) : List Char → Option (Nat × List Char)
  | a :: b :: rest =>
    let n := Decimal.digitsValue [a, b]
    if a.isDigit && b.isDigit && low ≤ n && n ≤ high then some (n, rest) else none
  | _ => none

def readMark (mark : Char) : List Char → Option (List Char)
  | c :: rest => if c == mark then some rest else none
  | [] => none

def isLeapYear (y : Nat) : Bool := y % 4 == 0 && (y % 100 != 0 || y % 400 == 0)

def daysIn (year month : Nat) : Nat :=
  if month == 2 then (if isLeapYear year then 29 else 28)
  else if month == 4 || month == 6 || month == 9 || month == 11 then 30
  else 31

def readDate (s : List Char) : Option (List Char) := do
  let year := s.take 4
  if year.length != 4 || !year.all Char.isDigit then none
  let rest ← readMark '-' (s.drop 4)
  let (month, rest) ← readPair 1 12 rest
  let rest ← readMark '-' rest
  let (_, rest) ← readPair 1 (daysIn (Decimal.digitsValue year) month) rest
  return rest

def skipSecondFraction (s : List Char) : List Char :=
  match s with
  | '.' :: c :: rest => if c.isDigit then rest.dropWhile Char.isDigit else s
  | _ => s

def readTime (s : List Char) : Option (List Char) := do
  let (_, rest) ← readPair 0 23 s
  let rest ← readMark ':' rest
  let (_, rest) ← readPair 0 59 rest
  let rest ← readMark ':' rest
  let (_, rest) ← readPair 0 60 rest
  return skipSecondFraction rest

def skipOffset (s : List Char) : List Char :=
  match s with
  | [] => []
  | c :: rest =>
    if c == 'Z' || c == 'z' then rest
    else if c == '+' || c == '-' then
      let offset := do
        let (_, rest) ← readPair 0 23 rest
        let rest ← readMark ':' rest
        let (_, rest) ← readPair 0 59 rest
        return rest
      offset.getD s
    else s

def skipTimeOfDate (s : List Char) : List Char :=
  match s with
  | c :: rest =>
    if c == 'T' || c == 't' || c == ' ' then
      match readTime rest with
      | some rest => skipOffset rest
      | none => s
    else s
  | [] => []

def readDatetime (s : List Char) : Option (Value × List Char) := do
  let rest ← ((readDate s).map skipTimeOfDate).orElse fun _ => readTime s
  return (.datetime (String.ofList (s.take (s.length - rest.length))), rest)

def readNumber (s : List Char) : Option (Value × List Char) :=
  match s with
  | '0' :: 'x' :: rest => readPrefixed 16 rest
  | '0' :: 'o' :: rest => readPrefixed 8 rest
  | '0' :: 'b' :: rest => readPrefixed 2 rest
  | _ => (readDatetime s).orElse fun _ => readDecimal s

end Moderation.Toml
