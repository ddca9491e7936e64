import Moderation.Action.Error
import Moderation.Regex.Fault

namespace Moderation

inductive LineFault where
  | openContinuation
  | noPattern
  | unterminatedPattern
  | emptyPattern
  | unknownFlag (flag : Char)
  | strayText (text : String)
  | noAction
  | badExemption
  deriving DecidableEq, Repr

def LineFault.message : LineFault → String
  | .openContinuation => "line continuation at end of input"
  | .noPattern => "expected /pattern/ or \"literal\""
  | .unterminatedPattern => "unterminated pattern"
  | .emptyPattern => "empty pattern"
  | .unknownFlag flag => s!"unknown pattern flag '{flag}'"
  | .strayText text => s!"unexpected text after pattern: '{text}'"
  | .noAction => "'then' without an action"
  | .badExemption => "'unless' expects a single permission"

/-- Why a chain could not be read. The line is the first physical line of the faulty rule. -/
inductive ParseError where
  | unknownAction (line : Nat) (token : String)
  | invalidParameter (line : Nat) (token : String) (cause : ActionError)
  | invalidPattern (line : Nat) (fault : Regex.Fault)
  | malformed (line : Nat) (fault : LineFault)
  deriving DecidableEq, Repr

namespace ParseError

def line : ParseError → Nat
  | unknownAction line _ => line
  | invalidParameter line _ _ => line
  | invalidPattern line _ => line
  | malformed line _ => line

def message : ParseError → String
  | unknownAction line token => s!"line {line}: unknown action '{token}'"
  | invalidParameter line token cause =>
    s!"line {line}: invalid parameters for '{token}': {cause.message}"
  | invalidPattern line fault => s!"line {line}: invalid pattern: {fault.message}"
  | malformed line fault => s!"line {line}: {fault.message}"

def ofAction (line : Nat) (token : String) : ActionError → ParseError
  | .unknownToken unknown => unknownAction line unknown
  | cause => invalidParameter line token cause

end ParseError

end Moderation
