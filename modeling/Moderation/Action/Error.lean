import Moderation.Author

namespace Moderation

inductive ParameterFault where
  | expectedNumber (found : String)
  | notFinite (found : String)
  | textAfterAmount (text : String)
  | negativeFine
  | expectedMessage
  | expectedNotice
  | expectedCommand
  | refused (text : String)
  deriving DecidableEq, Repr

def ParameterFault.message : ParameterFault → String
  | .expectedNumber found => s!"expected a number, found '{found}'"
  | .notFinite found => s!"'{found}' is not a finite number"
  | .textAfterAmount text => s!"unexpected text after amount: '{text}'"
  | .negativeFine => "fine amount must not be negative"
  | .expectedMessage => "expected a message"
  | .expectedNotice => "expected '<permission> <message>'"
  | .expectedCommand => "expected a command"
  | .refused text => text

inductive ActionError where
  | unknownToken (token : String)
  | invalidParameter (fault : ParameterFault)
  | capability (e : CapabilityError)
  | failed (reason : String)
  deriving DecidableEq, Repr

namespace ActionError

def message : ActionError → String
  | unknownToken token => s!"unknown action '{token}'"
  | invalidParameter fault => fault.message
  | capability e => e.message
  | failed reason => reason

def isUnsupported : ActionError → Bool
  | capability (.unsupported _) => true
  | _ => false

end ActionError

end Moderation
