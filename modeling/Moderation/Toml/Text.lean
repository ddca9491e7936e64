import Moderation.Unicode.Ranges

/-!
Blanks, comments, strings and keys of configuration documents. Every reader gives what it read and the
text behind it.
-/

namespace Moderation.Toml

def isSpace (c : Char) : Bool := c == ' ' || c == '\t'

def skipSpaces (s : List Char) : List Char := s.dropWhile isSpace

def readNewline : List Char → Option (List Char)
  | '\n' :: rest => some rest
  | '\r' :: '\n' :: rest => some rest
  | _ => none

/-- Characters that may stand in comments: anything printable, and tabs. -/
def isText (c : Char) : Bool := c == '\t' || (0x20 ≤ c.toNat && c.toNat != 0x7F)

def skipComment : List Char → List Char
  | '#' :: rest => rest.dropWhile isText
  | rest => rest

def readLineEnd (s : List Char) : Option (List Char) :=
  match skipComment (skipSpaces s) with
  | [] => some []
  | rest => readNewline rest

def skipLayout : Nat → List Char → List Char
  | 0, s => s
  | fuel + 1, s =>
    let s := skipSpaces s
    match s with
    | '#' :: _ => skipLayout fuel (skipComment s)
    | _ =>
      match readNewline s with
      | some rest => skipLayout fuel rest
      | none => s

def readCodePoint (width : Nat) (s : List Char) : Option (Char × List Char) :=
  let digits := s.take width
  let n := Unicode.hexValue digits
  if digits.length == width && digits.all (fun c => (Unicode.hexDigit? c).isSome) && n.isValidChar then
    some (Char.ofNat n, s.drop width)
  else none

def readEscape : List Char → Option (Char × List Char)
  | 'b' :: rest => some ('\x08', rest)
  | 't' :: rest => some ('\t', rest)
  | 'n' :: rest => some ('\n', rest)
  | 'f' :: rest => some ('\x0C', rest)
  | 'r' :: rest => some ('\r', rest)
  | '"' :: rest => some ('"', rest)
  | '\\' :: rest => some ('\\', rest)
  | 'u' :: rest => readCodePoint 4 rest
  | 'U' :: rest => readCodePoint 8 rest
  | _ => none

def readBasic : Nat → List Char → List Char → Option (List Char × List Char)
  | 0, _, _ => none
  | _ + 1, _, [] => none
  | fuel + 1, rev, c :: rest =>
    if c == '"' then some (rev.reverse, rest)
    else if c == '\\' then
      match readEscape rest with
      | some (d, rest) => readBasic fuel (d :: rev) rest
      | none => none
    else if isText c then readBasic fuel (c :: rev) rest
    else none

def readLiteral (s : List Char) : Option (List Char × List Char) :=
  let body := s.takeWhile fun c => c != '\'' && isText c
  match s.drop body.length with
  | '\'' :: rest => some (body, rest)
  | _ => none

/-- How a string of several lines ends: with three quotes, before which two more may belong to it. -/
def readClosing (quote : Char) (s : List Char) : Option (List Char × List Char) :=
  let quotes := (s.takeWhile (· == quote)).length
  if quotes < 3 then none
  else
    let extra := Nat.min (quotes - 3) 2
    some (List.replicate extra quote, s.drop (extra + 3))

def skipFolded : Nat → List Char → List Char
  | 0, s => s
  | fuel + 1, s =>
    let s := skipSpaces s
    match readNewline s with
    | some rest => skipFolded fuel rest
    | none => s

/-- A string of several lines, behind its quotes. A backslash at the end of a line folds the line. -/
def readManyLines (quote : Char) (escapes : Bool) :
    Nat → List Char → List Char → Option (List Char × List Char)
  | 0, _, _ => none
  | _ + 1, _, [] => none
  | fuel + 1, rev, c :: rest =>
    if c == quote then
      match readClosing quote (c :: rest) with
      | some (extra, rest) => some (rev.reverse ++ extra, rest)
      | none => readManyLines quote escapes fuel (c :: rev) rest
    else if escapes && c == '\\' then
      match readNewline (skipSpaces rest) with
      | some more => readManyLines quote escapes fuel rev (skipFolded rest.length more)
      | none =>
        match readEscape rest with
        | some (d, rest) => readManyLines quote escapes fuel (d :: rev) rest
        | none => none
    else
      match readNewline (c :: rest) with
      | some rest => readManyLines quote escapes fuel ('\n' :: rev) rest
      | none => if isText c then readManyLines quote escapes fuel (c :: rev) rest else none

def dropFirstNewline (s : List Char) : List Char := (readNewline s).getD s

def readString : List Char → Option (List Char × List Char)
  | '"' :: '"' :: '"' :: rest =>
    readManyLines '"' true (rest.length + 1) [] (dropFirstNewline rest)
  | '\'' :: '\'' :: '\'' :: rest =>
    readManyLines '\'' false (rest.length + 1) [] (dropFirstNewline rest)
  | '"' :: rest => readBasic (rest.length + 1) [] rest
  | '\'' :: rest => readLiteral rest
  | _ => none

def isKeyChar (c : Char) : Bool := c.isAlphanum || c == '_' || c == '-'

def readSimpleKey (s : List Char) : Option (String × List Char) :=
  match s with
  | '"' :: rest => (readBasic (rest.length + 1) [] rest).map fun (k, rest) => (String.ofList k, rest)
  | '\'' :: rest => (readLiteral rest).map fun (k, rest) => (String.ofList k, rest)
  | _ =>
    let k := s.takeWhile isKeyChar
    if k.isEmpty then none else some (String.ofList k, s.drop k.length)

def readKey : Nat → List Char → Option (List String × List Char)
  | 0, _ => none
  | fuel + 1, s => do
    let (k, rest) ← readSimpleKey (skipSpaces s)
    match skipSpaces rest with
    | '.' :: rest =>
      let (more, rest) ← readKey fuel rest
      return (k :: more, rest)
    | rest => return ([k], rest)

end Moderation.Toml
