import Moderation.Regex.Bracket

namespace Moderation.Regex

/-- A part of an expression and how deeply it is nested. Flags are a part that cannot be repeated. -/
structure Part where
  regex : Regex
  depth : Nat
  flagsOnly : Bool := false

def deepest (parts : List Part) : Nat := parts.foldl (fun d p => Nat.max d p.depth) 0

def inSequence (rev : List Part) : Part :=
  match rev with
  | [] => ⟨.empty, 0, false⟩
  | [p] => p
  | ps => ⟨sequence (ps.reverse.map Part.regex), deepest ps + 1, false⟩

def inChoice (rev : List Part) : Part :=
  match rev with
  | [] => ⟨.empty, 0, false⟩
  | [p] => p
  | ps => ⟨choice (ps.reverse.map Part.regex), deepest ps + 1, false⟩

def setFlag (on : Bool) (c : Char) (f : Flags) : Option Flags :=
  match c with
  | 'i' => some { f with caseless := on }
  | 'm' => some { f with manyLines := on }
  | 's' => some { f with dotAll := on }
  | 'U' => some { f with lazyFirst := on }
  | 'u' => some { f with unicode := on }
  | 'R' => some { f with carriageReturns := on }
  | 'x' => some { f with spaced := on }
  | _ => none

/-- Flags up to a colon or a closing parenthesis; those behind a dash are taken away. -/
def readFlags : Flags → Bool → List Char → List Char → Except Fault (Flags × List Char × List Char)
  | _, _, _, [] => .error .danglingFlags
  | f, off, seen, c :: rest =>
    if c == ':' || c == ')' then
      if seen.head? == some '-' then .error .danglingFlags else .ok (f, seen, c :: rest)
    else if seen.contains c then .error .repeatedFlag
    else if c == '-' then readFlags f true (c :: seen) rest
    else
      match setFlag (!off) c f with
      | some f => readFlags f off (c :: seen) rest
      | none => .error .badFlag

def isNameChar (first : Bool) (c : Char) : Bool :=
  if first then c == '_' || Unicode.isAlphabetic c
  else c == '_' || c == '.' || c == '[' || c == ']' || Unicode.isAlphanumeric c

def readGroupName (s : List Char) : Except Fault (List Char × List Char) :=
  let name := s.takeWhile (· != '>')
  match s.dropWhile (· != '>') with
  | [] => .error .badGroupName
  | _ :: rest =>
    match name with
    | [] => .error .badGroupName
    | c :: more =>
      if isNameChar true c && more.all (isNameChar false) then .ok (name, rest)
      else .error .badGroupName

inductive Opening where
  | flags (f : Flags)
  | group (f : Flags)
  | named (name : List Char)

def readFlagGroup (flags : Flags) (s : List Char) : Except Fault (Opening × List Char) := do
  let (f, seen, rest) ← readFlags flags false [] s
  match rest with
  | ')' :: rest => if seen.isEmpty then .error .missingOperand else return (.flags f, rest)
  | rest => return (.group f, rest.drop 1)

def readOpening (flags : Flags) (s : List Char) : Except Fault (Opening × List Char) :=
  match skipSpace flags s with
  | '?' :: '=' :: _ => .error .lookAround
  | '?' :: '!' :: _ => .error .lookAround
  | '?' :: '<' :: '=' :: _ => .error .lookAround
  | '?' :: '<' :: '!' :: _ => .error .lookAround
  | '?' :: 'P' :: '<' :: rest => do
    let (name, rest) ← readGroupName rest
    return (.named name, rest)
  | '?' :: '<' :: rest => do
    let (name, rest) ← readGroupName rest
    return (.named name, rest)
  | '?' :: rest => readFlagGroup flags rest
  | rest => .ok (.group flags, rest)

def operand (rev : List Part) : Except Fault (Part × List Part) :=
  match rev with
  | [] => .error .missingOperand
  | p :: rev => if p.flagsOnly then .error .missingOperand else .ok (p, rev)

def repeatPart (flags : Flags) (min : Nat) (max : Option Nat) (isLazy : Bool) (p : Part) : Part :=
  ⟨.repeated min max (isLazy == flags.lazyFirst) p.regex, p.depth + 1, false⟩

def readLazy : List Char → Bool × List Char
  | '?' :: rest => (true, rest)
  | rest => (false, rest)

def skipBlanks (s : List Char) : List Char := s.dropWhile Text.isBlank

/-- A number with blanks around it, below two to the thirty-two. -/
def readCount (flags : Flags) (s : List Char) : Except Fault (Nat × List Char) :=
  let rec digits : Nat → List Char → List Char → List Char × List Char
    | fuel + 1, rev, c :: rest =>
      if c.isDigit then digits fuel (c :: rev) (skipSpace flags rest) else (rev, c :: rest)
    | _, rev, s => (rev, s)
  let (rev, rest) := digits (s.length + 1) [] (skipBlanks s)
  let n := rev.reverse.foldl (fun n c => n * 10 + (c.toNat - '0'.toNat)) 0
  if rev.isEmpty || 4294967296 ≤ n then .error .badCount else .ok (n, skipBlanks rest)

def readBounds (flags : Flags) (s : List Char) : Except Fault (Nat × Option Nat × List Char) := do
  let s := skipSpace flags s
  if s.isEmpty then .error .unclosedCount
  let (min, rest) ← readCount flags s
  let (max, rest) ←
    match rest with
    | ',' :: rest =>
      match skipSpace flags rest with
      | [] => .error .unclosedCount
      | '\x7D' :: rest => .ok (none, '\x7D' :: rest)
      | rest => do
        let (max, rest) ← readCount flags rest
        .ok (some max, rest)
    | rest => .ok (some min, rest)
  match rest with
  | '\x7D' :: rest =>
    if max.any (· < min) then .error .invertedCount else return (min, max, skipSpace flags rest)
  | _ => .error .unclosedCount

def readAtom (flags : Flags) (c : Char) (rest : List Char) : Except Fault (Part × List Char) :=
  if c == '[' then do
    let (t, rest) ← readClass flags rest
    return (⟨.char t.cls, t.depth, false⟩, rest)
  else do
    let (p, rest) ← readPrimitive flags c rest
    let r ← p.regex flags
    return (⟨r, 0, false⟩, rest)

/-- What one level of parentheses has given so far: the names of all groups, the alternatives and the
parts of the current alternative, the last ones first. -/
structure Level where
  inside : Bool
  names : List (List Char)
  branches : List Part
  parts : List Part

def Level.close (l : Level) : Part := inChoice (inSequence l.parts :: l.branches)

def Level.push (l : Level) (p : Part) : Level := { l with parts := p :: l.parts }

def Level.repeatLast (l : Level) (flags : Flags) (min : Nat) (max : Option Nat) (isLazy : Bool) :
    Except Fault Level := do
  let (p, rev) ← operand l.parts
  return { l with parts := repeatPart flags min max isLazy p :: rev }

/-- Reads a level up to its closing parenthesis or the end of the text. Every step takes a character,
so the length of the text is fuel enough. -/
def readLevel : Nat → Flags → Level → List Char → Except Fault (Part × List (List Char) × List Char)
  | 0, _, _, _ => .error .tooLarge
  | fuel + 1, flags, level, s =>
    let simple (min : Nat) (max : Option Nat) (rest : List Char) := do
      let (isLazy, rest) := readLazy rest
      let level ← level.repeatLast flags min max isLazy
      readLevel fuel flags level rest
    match skipSpace flags s with
    | [] => if level.inside then .error .unclosedGroup else .ok (level.close, level.names, [])
    | ')' :: rest =>
      if level.inside then .ok (level.close, level.names, rest) else .error .unopenedGroup
    | '|' :: rest =>
      readLevel fuel flags
        { level with branches := inSequence level.parts :: level.branches, parts := [] } rest
    | '(' :: rest => do
      let group (f : Flags) (names : List (List Char)) (rest : List Char) := do
        let (p, names, rest) ← readLevel fuel f ⟨true, names, [], []⟩ rest
        let level := { level with names := names }
        readLevel fuel flags (level.push ⟨p.regex, p.depth + 1, false⟩) rest
      match ← readOpening flags rest with
      | (.flags f, rest) => readLevel fuel f (level.push ⟨.empty, 0, true⟩) rest
      | (.group f, rest) => group f level.names rest
      | (.named name, rest) =>
        if level.names.contains name then .error .repeatedGroupName
        else group flags (name :: level.names) rest
    | '?' :: rest => simple 0 (some 1) rest
    | '*' :: rest => simple 0 none rest
    | '+' :: rest => simple 1 none rest
    | '\x7B' :: rest => do
      let _ ← operand level.parts
      let (min, max, rest) ← readBounds flags rest
      let (isLazy, rest) := readLazy rest
      let level ← level.repeatLast flags min max isLazy
      readLevel fuel flags level rest
    | c :: rest => do
      let (p, rest) ← readAtom flags c rest
      readLevel fuel flags (level.push p) rest

def deepestNesting : Nat := 250

def ofText (caseless : Bool) (s : List Char) : Except Fault Regex := do
  let (p, _, _) ← readLevel (s.length + 1) { caseless := caseless } ⟨false, [], [], []⟩ s
  if deepestNesting < p.depth then .error .tooDeep else return p.regex

end Moderation.Regex
