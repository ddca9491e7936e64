import Moderation.Regex.Basic
import Moderation.Regex.Escape
import Moderation.Regex.Fault
import Moderation.Unicode.Property

namespace Moderation.Regex

structure Flags where
  caseless : Bool := false
  manyLines : Bool := false
  dotAll : Bool := false
  lazyFirst : Bool := false
  unicode : Bool := true
  carriageReturns : Bool := false
  spaced : Bool := false
  deriving DecidableEq, Repr

/-- The smallest parts. A character written by two hexadecimal digits is a byte. -/
inductive Primitive where
  | char (c : Char) (byte : Bool)
  | dot
  | look (l : Look)
  | kind (p : Char → Bool) (ascii : Char → Bool) (negated : Bool)
  | property (p : Char → Bool) (negated : Bool)

def afterComment : List Char → List Char
  | [] => []
  | '\n' :: rest => rest
  | _ :: rest => afterComment rest

/-- Where blanks and comments do not count, the text after those it starts with. -/
def skipSpace (flags : Flags) (s : List Char) : List Char :=
  if flags.spaced then go s.length s else s
where
  go : Nat → List Char → List Char
    | 0, s => s
    | _ + 1, [] => []
    | fuel + 1, c :: rest =>
      if Text.isBlank c then go fuel rest
      else if c == '#' then go fuel (afterComment rest)
      else c :: rest

def charOfNumber (n : Nat) : Except Fault Char :=
  if n < 0xD800 || (0xDFFF < n && n < 0x110000) then .ok (Char.ofNat n) else .error .badCodePoint

def readHexDigits (flags : Flags) : Nat → Nat → List Char → Except Fault (Nat × List Char)
  | 0, n, s => .ok (n, s)
  | _ + 1, _, [] => .error .danglingEscape
  | count + 1, n, c :: rest =>
    match Unicode.hexDigit? c with
    | some d =>
      if count == 0 then .ok (n * 16 + d, rest)
      else readHexDigits flags count (n * 16 + d) (skipSpace flags rest)
    | none => .error .badCodePoint

def readHexBraced (flags : Flags) : Nat → List Char → List Char → Except Fault (Nat × List Char)
  | 0, _, _ => .error .danglingEscape
  | _ + 1, _, [] => .error .danglingEscape
  | fuel + 1, rev, c :: rest =>
    if c == '\x7D' then
      if rev.isEmpty then .error .badCodePoint else .ok (Unicode.hexValue rev.reverse, rest)
    else if (Unicode.hexDigit? c).isSome then readHexBraced flags fuel (c :: rev) (skipSpace flags rest)
    else .error .badCodePoint

/-- A character by its number; `width` digits stand without braces. -/
def readHex (flags : Flags) (width : Nat) (s : List Char) : Except Fault (Primitive × List Char) :=
  match skipSpace flags s with
  | '\x7B' :: rest => do
    let (n, rest) ← readHexBraced flags (rest.length + 1) [] (skipSpace flags rest)
    let c ← charOfNumber n
    return (.char c false, rest)
  | rest => do
    let (n, rest) ← readHexDigits flags width 0 rest
    let c ← charOfNumber n
    return (.char c (width == 2), rest)

def splitProperty (s : List Char) : Option (List Char × List Char) :=
  let cutAt (p : Char → Bool) : Option (List Char × List Char) :=
    match s.dropWhile (fun c => !p c) with
    | _ :: value => some (s.takeWhile (fun c => !p c), value)
    | [] => none
  let rec unequal (rev : List Char) : List Char → Option (List Char × List Char)
    | '!' :: '=' :: value => some (rev.reverse, value)
    | c :: rest => unequal (c :: rev) rest
    | [] => none
  ((unequal [] s).orElse fun _ => cutAt (· == ':')).orElse fun _ => cutAt (· == '=')

def namedProperty (s : List Char) : Except Fault (Char → Bool) :=
  let found :=
    match splitProperty s with
    | some (name, value) => Unicode.valueProperty? name value
    | none => Unicode.property? s
  match found with
  | some p => .ok p
  | none => .error .unknownProperty

def bracedName (flags : Flags) : Nat → List Char → List Char → Except Fault (List Char × List Char)
  | 0, _, _ => .error .danglingEscape
  | _ + 1, _, [] => .error .danglingEscape
  | fuel + 1, rev, c :: rest =>
    if c == '\x7D' then .ok (rev.reverse, rest)
    else bracedName flags fuel (c :: rev) (skipSpace flags rest)

def readProperty (flags : Flags) (negated : Bool) (s : List Char) : Except Fault (Primitive × List Char) :=
  match skipSpace flags s with
  | [] => .error .danglingEscape
  | '\x7B' :: rest => do
    let (name, rest) ← bracedName flags (rest.length + 1) [] (skipSpace flags rest)
    let p ← namedProperty name
    return (.property p negated, rest)
  | c :: rest =>
    if c == '\\' then .error .unknownProperty
    else do
      let p ← namedProperty [c]
      return (.property p negated, skipSpace flags rest)

def isEdgeLetter (c : Char) : Bool := c.isAlpha || c == '-'

def edgeLetters (flags : Flags) : Nat → List Char → List Char → List Char × List Char
  | 0, rev, s => (rev.reverse, s)
  | _ + 1, rev, [] => (rev.reverse, [])
  | fuel + 1, rev, c :: rest =>
    if isEdgeLetter c then edgeLetters flags fuel (c :: rev) (skipSpace flags rest)
    else (rev.reverse, c :: rest)

/-- The kind of word boundary that may follow in braces. Braces with anything but a letter or a dash
are left for a repetition. -/
def readWordEdge (flags : Flags) (s : List Char) : Except Fault (WordEdge × List Char) :=
  match s with
  | '\x7B' :: inner =>
    match skipSpace flags inner with
    | [] => .error .badWordEdge
    | c :: rest =>
      if !isEdgeLetter c then .ok (.boundary, s)
      else
        let (name, rest) := edgeLetters flags (rest.length + 2) [] (c :: rest)
        match rest with
        | '\x7D' :: rest =>
          match String.ofList name with
          | "start" => .ok (.start, rest)
          | "end" => .ok (.stop, rest)
          | "start-half" => .ok (.startHalf, rest)
          | "end-half" => .ok (.stopHalf, rest)
          | _ => .error .badWordEdge
        | _ => .error .badWordEdge
  | _ => .ok (.boundary, s)

def isAsciiSpace (c : Char) : Bool := (9 ≤ c.toNat && c.toNat ≤ 13) || c == ' '

/-- The characters, besides letters and digits, that may stand behind a backslash for themselves. -/
def standsForItself (c : Char) : Bool :=
  isMeta c || (c.toNat < 128 && !c.isAlphanum && c != '<' && c != '>')

def readEscape (flags : Flags) (s : List Char) : Except Fault (Primitive × List Char) :=
  let edge (e : WordEdge) : Primitive := .look (.word e (!flags.unicode))
  match s with
  | [] => .error .danglingEscape
  | c :: rest =>
    if standsForItself c then .ok (.char c false, rest)
    else
      match c with
      | 'x' => readHex flags 2 rest
      | 'u' => readHex flags 4 rest
      | 'U' => readHex flags 8 rest
      | 'p' => readProperty flags false rest
      | 'P' => readProperty flags true rest
      | 'd' => .ok (.kind Unicode.isDigit Char.isDigit false, rest)
      | 'D' => .ok (.kind Unicode.isDigit Char.isDigit true, rest)
      | 's' => .ok (.kind Text.isBlank isAsciiSpace false, rest)
      | 'S' => .ok (.kind Text.isBlank isAsciiSpace true, rest)
      | 'w' => .ok (.kind Unicode.isWord Unicode.isAsciiWord false, rest)
      | 'W' => .ok (.kind Unicode.isWord Unicode.isAsciiWord true, rest)
      | 'a' => .ok (.char '\x07' false, rest)
      | 'f' => .ok (.char '\x0C' false, rest)
      | 't' => .ok (.char '\t' false, rest)
      | 'n' => .ok (.char '\n' false, rest)
      | 'r' => .ok (.char '\r' false, rest)
      | 'v' => .ok (.char '\x0B' false, rest)
      | 'A' => .ok (.look .textStart, rest)
      | 'z' => .ok (.look .textStop, rest)
      | 'b' => do
        let (e, rest) ← readWordEdge flags rest
        return (edge e, rest)
      | 'B' => .ok (edge .inside, rest)
      | '<' => .ok (edge .start, rest)
      | '>' => .ok (edge .stop, rest)
      | _ => if c.isDigit then .error .backReference else .error (.unknownEscape c)

def readPrimitive (flags : Flags) (c : Char) (rest : List Char) : Except Fault (Primitive × List Char) :=
  match c with
  | '\\' => readEscape flags rest
  | '.' => .ok (.dot, rest)
  | '^' => .ok (.look (if flags.manyLines then .lineStart flags.carriageReturns else .textStart), rest)
  | '$' => .ok (.look (if flags.manyLines then .lineStop flags.carriageReturns else .textStop), rest)
  | _ => .ok (.char c false, rest)

/-- A class that must not reach beyond ASCII unless the flag `u` is set. -/
def guarded (flags : Flags) (cls : CharClass) : Except Fault CharClass :=
  if flags.unicode || cls.isAsciiByte then .ok cls else .error .nonAsciiWithoutUnicode

def negatedIf (negated : Bool) (cls : CharClass) : CharClass :=
  if negated then .negation cls else cls

def foldedBy (flags : Flags) (cls : CharClass) : CharClass :=
  if !flags.caseless then cls
  else if flags.unicode then .caseless cls
  else .asciiCaseless cls

def kindClass (flags : Flags) (p ascii : Char → Bool) (negated : Bool) : Except Fault CharClass :=
  guarded flags (negatedIf negated (.having (if flags.unicode then p else ascii)))

def propertyClass (flags : Flags) (p : Char → Bool) (negated : Bool) : Except Fault CharClass :=
  if flags.unicode then .ok (negatedIf negated (foldedBy flags (.having p)))
  else .error .propertyWithoutUnicode

/-- A byte above ASCII has no meaning in a text unless it is a character. -/
def guardByte (flags : Flags) (c : Char) (byte : Bool) : Except Fault Unit :=
  if byte && !flags.unicode && 128 ≤ c.toNat then .error .nonAsciiWithoutUnicode else .ok ()

def charClass (flags : Flags) (c : Char) : CharClass :=
  if !flags.caseless then .single c
  else .ofList (if flags.unicode then Unicode.caseVariants c else Unicode.asciiCaseVariants c)

def dotClass (flags : Flags) : CharClass :=
  if flags.dotAll then .all
  else if flags.carriageReturns then .negation (.ofList ['\r', '\n'])
  else .negation (.single '\n')

def Primitive.regex (flags : Flags) : Primitive → Except Fault Regex
  | .char c byte => do
    guardByte flags c byte
    return .char (charClass flags c)
  | .dot => do
    let cls ← guarded flags (dotClass flags)
    return .char cls
  | .look l => .ok (.look l)
  | .kind p ascii negated => do
    let cls ← kindClass flags p ascii negated
    return .char cls
  | .property p negated => do
    let cls ← propertyClass flags p negated
    return .char cls

end Moderation.Regex
