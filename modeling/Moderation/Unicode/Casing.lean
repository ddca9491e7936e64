import Moderation.Unicode.Word
import Moderation.Unicode.Casing.Table

/-!
Full case conversion. A capital sigma becomes a final small sigma at the end of a word.
-/

namespace Moderation.Unicode

def upperShifts : List ShiftRun := shiftRuns upperRuns

def lowerShifts : List ShiftRun := shiftRuns lowerRuns

def formOfWords : List (List Char) → Option (Nat × List Char)
  | c :: form => some (hexValue c, form.map fun d => Char.ofNat (hexValue d))
  | [] => none

def sequences (s : String) : List (Nat × List Char) :=
  ((s.toList.splitOn '\n').map (tokens.go [])).filterMap formOfWords

def upperForms : List (Nat × List Char) := sequences upperSequences

def lowerForms : List (Nat × List Char) := sequences lowerSequences

def caseForm (shifts : List ShiftRun) (forms : List (Nat × List Char)) (c : Char) : List Char :=
  match shifts.findSome? (·.image? c.toNat) with
  | some n => [Char.ofNat n]
  | none => (forms.lookup c.toNat).getD [c]

def upperChar (c : Char) : List Char :=
  if c.toNat < 128 then [c.toUpper] else caseForm upperShifts upperForms c

def lowerChar (c : Char) : List Char :=
  if c.toNat < 128 then [c.toLower] else caseForm lowerShifts lowerForms c

def otherCased : Ranges := Ranges.ofText Table.otherCased

def otherCaseIgnorable : Ranges := Ranges.ofText Table.otherCaseIgnorable

def isCased (c : Char) : Bool := hasCategory ["Lu", "Ll", "Lt"] c || otherCased.contains c

def isCaseIgnorable (c : Char) : Bool :=
  hasCategory ["Mn", "Me", "Cf", "Lm", "Sk"] c || otherCaseIgnorable.contains c

def casedNext (s : List Char) : Bool :=
  match s.dropWhile isCaseIgnorable with
  | c :: _ => isCased c
  | [] => false

def upper (s : List Char) : List Char := s.flatMap upperChar

/-- `before` holds the characters already passed, last first. -/
def lowerAfter (before : List Char) : List Char → List Char
  | [] => []
  | c :: rest =>
    let small :=
      if c == 'Σ' then [if casedNext before && !casedNext rest then 'ς' else 'σ'] else lowerChar c
    small ++ lowerAfter (c :: before) rest

def lower (s : List Char) : List Char := lowerAfter [] s

end Moderation.Unicode
