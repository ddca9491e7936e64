import Moderation.Action.Registry
import Moderation.Decimal.Reading

namespace Moderation

def splitAmount (params : String) : Except ActionError (Float × String) :=
  let (head, rest) := Text.cutAtBlank (Text.trim params.toList)
  match Decimal.read head with
  | none => .error (.invalidParameter (.expectedNumber (String.ofList head)))
  | some amount =>
    if amount.isFinite then .ok (amount, String.ofList (Text.trim rest))
    else .error (.invalidParameter (.notFinite (String.ofList head)))

def requiredMessage (params : String) : Except ActionError String :=
  let text := params.trimBlanks
  if text.isEmpty then .error (.invalidParameter .expectedMessage) else .ok text

def optionalMessage (params : String) : Option String :=
  let text := params.trimBlanks
  if text.isEmpty then none else some text

def buildNotify (params : String) : Except ActionError Action :=
  let (permission, rest) := Text.cutAtBlank (Text.trim params.toList)
  let text := Text.trim rest
  if permission.isEmpty || text.isEmpty then .error (.invalidParameter .expectedNotice)
  else .ok (.notify (String.ofList permission) (String.ofList text))

def buildPoints (params : String) : Except ActionError Action := do
  let (amount, rest) ← splitAmount params
  if rest.isEmpty then return .points amount else .error (.invalidParameter (.textAfterAmount rest))

def buildFine (params : String) : Except ActionError Action := do
  let (amount, text) ← splitAmount params
  if amount < 0 then .error (.invalidParameter .negativeFine)
  else return .penalize (.fine amount) (optionalMessage text)

def buildCommand (params : String) : Except ActionError Action :=
  let command := params.trimBlanks.dropSlashes
  if command.isEmpty then .error (.invalidParameter .expectedCommand) else .ok (.command command)

def coreVocabulary : List (String × ActionBuilder) :=
  [ ("replace", fun p => .ok (.replace p)),
    ("rewrite", fun p => .ok (.restate p)),
    ("upper", fun _ => .ok (.changeCase true)),
    ("lower", fun _ => .ok (.changeCase false)),
    ("deny", fun _ => .ok .deny),
    ("abort", fun _ => .ok .abort),
    ("log", fun _ => .ok .log),
    ("console", fun p => (requiredMessage p).map .console),
    ("broadcast", fun p => (requiredMessage p).map .broadcast),
    ("notify", buildNotify),
    ("points", buildPoints) ]

def targetedVocabulary : List (String × ActionBuilder) :=
  [ ("warn", fun p => .ok (.penalize .warn (optionalMessage p))),
    ("kick", fun p => .ok (.penalize .kick (optionalMessage p))),
    ("kill", fun p => .ok (.penalize .kill (optionalMessage p))),
    ("fine", buildFine),
    ("cmd", buildCommand) ]

def Registry.standard : Registry :=
  let withCore := coreVocabulary.foldl (fun r e => r.register .core e.1 e.2) Registry.empty
  targetedVocabulary.foldl (fun r e => r.register .targeted e.1 e.2) withCore

end Moderation
