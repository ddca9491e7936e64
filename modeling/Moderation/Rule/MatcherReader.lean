import Moderation.Rule.Basic
import Moderation.Rule.Error

namespace Moderation

inductive RuleFault where
  | form (fault : LineFault)
  | pattern (fault : Regex.Fault)
  | action (token : String) (e : ActionError)
  deriving DecidableEq, Repr

def RuleFault.at (line : Nat) : RuleFault → ParseError
  | .form fault => .malformed line fault
  | .pattern fault => .invalidPattern line fault
  | .action token e => .ofAction line token e

namespace Matcher

/-- What stands between two delimiters, and the text behind the second. A backslash keeps the next
character from closing. In a literal it is dropped; in a pattern it is dropped before the delimiter
alone. -/
def readBody (delimiter : Char) (isLiteral : Bool) : List Char → Option (List Char × List Char)
  | [] => none
  | '\\' :: c :: rest =>
    (readBody delimiter isLiteral rest).map fun (body, rest) =>
      (if isLiteral || c == delimiter then c :: body else '\\' :: c :: body, rest)
  | c :: rest =>
    if c == delimiter then some ([], rest)
    else (readBody delimiter isLiteral rest).map fun (body, rest) => (c :: body, rest)

def readNegation (s : List Char) : Bool × List Char :=
  match Text.trimStart s with
  | '!' :: rest => (true, Text.trimStart rest)
  | rest => (false, rest)

def readDelimiter : List Char → Option (Bool × Char × List Char)
  | '/' :: rest => some (false, '/', rest)
  | '"' :: rest => some (true, '"', rest)
  | _ => none

/-- The only flag is `i`, which may be repeated. -/
def readFlags (flags : List Char) : Except RuleFault Bool :=
  match flags.find? (· != 'i') with
  | some flag => .error (.form (.unknownFlag flag))
  | none => .ok !flags.isEmpty

def compilePattern (source : List Char) (caseless : Bool) : Except RuleFault Pattern :=
  match Pattern.compile source caseless with
  | .ok p => .ok p
  | .error fault => .error (.pattern fault)

def read (s : List Char) : Except RuleFault (Matcher × List Char) := do
  let (negated, s) := readNegation s
  match readDelimiter s with
  | none => .error (.form .noPattern)
  | some (isLiteral, delimiter, s) =>
    match readBody delimiter isLiteral s with
    | none => .error (.form .unterminatedPattern)
    | some (body, s) =>
      if body.isEmpty then .error (.form .emptyPattern)
      else
        let caseless ← readFlags (Text.firstWord s)
        let p ← compilePattern (if isLiteral then Regex.escape body else body) caseless
        return (⟨p, negated, caseless⟩, s.dropWhile (fun c => !Text.isBlank c))

end Matcher

end Moderation
