import Moderation.Regex.Primitive

namespace Moderation.Regex

/-- A class and how deeply its brackets and operations are nested. -/
structure ClassTerm where
  cls : CharClass
  depth : Nat

inductive ClassOp where
  | inter
  | minus
  | symmetric
  deriving DecidableEq, Repr

/-- Members side by side, the last one first. -/
def joined (rev : List ClassTerm) : ClassTerm :=
  match rev with
  | [] => ⟨.none, 0⟩
  | [t] => t
  | ts =>
    ⟨ts.foldl (fun cls t => .union t.cls cls) .none, ts.foldl (fun d t => Nat.max d t.depth) 0 + 1⟩

abbrev Pending := Option (ClassTerm × ClassOp)

def applyPending (flags : Flags) (pending : Pending) (t : ClassTerm) : ClassTerm :=
  match pending with
  | none => t
  | some (left, op) =>
    let a := foldedBy flags left.cls
    let b := foldedBy flags t.cls
    let cls :=
      match op with
      | .inter => .inter a b
      | .minus => .minus a b
      | .symmetric => .symmetric a b
    ⟨cls, Nat.max left.depth t.depth + 1⟩

def closeBracket (flags : Flags) (negated : Bool) (t : ClassTerm) : Except Fault ClassTerm := do
  let cls ← guarded flags (negatedIf negated (foldedBy flags t.cls))
  return ⟨cls, t.depth + 1⟩

/-- The colons, the name and the colons of a class such as `[:alpha:]`, behind its first bracket. -/
def namedClass? (s : List Char) : Option (Bool × List (Char × Char) × List Char) :=
  match s with
  | ':' :: rest =>
    let (negated, rest) :=
      match rest with
      | '^' :: rest => (true, rest)
      | rest => (false, rest)
    let name := rest.takeWhile (· != ':')
    match rest.dropWhile (· != ':') with
    | ':' :: ']' :: rest => (namedRanges? name).map fun rs => (negated, rs, rest)
    | _ => none
  | _ => none

/-- The beginning of a bracket: its negation, and the dashes or the closing bracket that stand there
for themselves. -/
def openBracket (flags : Flags) (s : List Char) : Except Fault (Bool × List ClassTerm × List Char) :=
  let s := skipSpace flags s
  let (negated, s) :=
    match s with
    | '^' :: rest => (true, skipSpace flags rest)
    | rest => (false, rest)
  let rec dashes : Nat → List ClassTerm → List Char → List ClassTerm × List Char
    | fuel + 1, rev, '-' :: rest => dashes fuel (⟨.single '-', 0⟩ :: rev) (skipSpace flags rest)
    | _, rev, s => (rev, s)
  let (rev, s) := dashes s.length [] s
  match rev, s with
  | _, [] => .error .unclosedClass
  | [], ']' :: rest => .ok (negated, [⟨.single ']', 0⟩], skipSpace flags rest)
  | rev, s => .ok (negated, rev, s)

def readMember (flags : Flags) : List Char → Except Fault (Primitive × List Char)
  | [] => .error .unclosedClass
  | '\\' :: rest => readEscape flags rest
  | c :: rest => .ok (.char c false, rest)

def memberChar (flags : Flags) : Primitive → Except Fault Char
  | .char c _ => if flags.unicode || c.toNat < 128 then .ok c else .error .nonAsciiWithoutUnicode
  | _ => .error .badRangeEnd

def memberClass (flags : Flags) : Primitive → Except Fault CharClass
  | .char c byte => do
    let c ← memberChar flags (.char c byte)
    return .single c
  | .kind p ascii negated => kindClass flags p ascii negated
  | .property p negated => propertyClass flags p negated
  | .dot => .error .badClassMember
  | .look _ => .error .badClassMember

def readRange (flags : Flags) (s : List Char) : Except Fault (CharClass × List Char) := do
  let (first, rest) ← readMember flags s
  match skipSpace flags rest with
  | [] => .error .unclosedClass
  | '-' :: after =>
    match skipSpace flags after with
    | [] => .error .unclosedClass
    | next :: more =>
      if next == ']' || next == '-' then
        let cls ← memberClass flags first
        return (cls, '-' :: after)
      else
        let (last, rest) ← readMember flags (next :: more)
        let a ← memberChar flags first
        let b ← memberChar flags last
        if a ≤ b then return (.range a b, rest) else .error .invertedRange
  | rest =>
    let cls ← memberClass flags first
    return (cls, rest)

/-- Reads up to the closing bracket; every step takes a character, so the length of the text is fuel
enough. -/
def readBracket (flags : Flags) :
    Nat → Bool → Pending → List ClassTerm → List Char → Except Fault (ClassTerm × List Char)
  | 0, _, _, _, _ => .error .unclosedClass
  | fuel + 1, negated, pending, rev, s =>
    let operation (op : ClassOp) (rest : List Char) :=
      readBracket flags fuel negated (some (applyPending flags pending (joined rev), op)) [] rest
    match skipSpace flags s with
    | [] => .error .unclosedClass
    | ']' :: rest => do
      let t ← closeBracket flags negated (applyPending flags pending (joined rev))
      return (t, rest)
    | '[' :: rest =>
      match namedClass? rest with
      | some (isNegated, ranges, rest) => do
        let cls ← guarded flags (negatedIf isNegated (foldedBy flags (.ofRanges ranges)))
        readBracket flags fuel negated pending (⟨cls, 0⟩ :: rev) rest
      | none => do
        let (isNegated, inner, rest) ← openBracket flags rest
        let (t, rest) ← readBracket flags fuel isNegated none inner rest
        readBracket flags fuel negated pending (t :: rev) rest
    | '&' :: '&' :: rest => operation .inter rest
    | '-' :: '-' :: rest => operation .minus rest
    | '~' :: '~' :: rest => operation .symmetric rest
    | s => do
      let (cls, rest) ← readRange flags s
      readBracket flags fuel negated pending (⟨cls, 0⟩ :: rev) rest

def readClass (flags : Flags) (s : List Char) : Except Fault (ClassTerm × List Char) := do
  let (negated, inner, rest) ← openBracket flags s
  readBracket flags (rest.length + 1) negated none inner rest

end Moderation.Regex
