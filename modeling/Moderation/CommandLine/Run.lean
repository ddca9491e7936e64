import Moderation.Action.Vocabulary
import Moderation.CommandLine.Help
import Moderation.CommandLine.Report
import Moderation.Service.Chains
import Moderation.Service.Configuration
import Moderation.Service.Evaluation

namespace Moderation.CommandLine

structure Machine (m : Type → Type) where
  terminal : Bool
  openFile : String → m FileText
  readInput : m (Except String String)
  timed : {α : Type} → (Unit → α) → m (α × String)

structure Result where
  exitCode : Nat
  output : String := ""
  errors : String := ""
  deriving DecidableEq, Repr

namespace Result

def printed (text : String) : Result := { exitCode := 0, output := text ++ "\n" }

def refused (e : UsageError) : Result := { exitCode := 2, errors := e.message ++ "\n" }

def failed (e : FilterError) : Result := { exitCode := 1, errors := s!"error: {e.message}\n" }

end Result

/-- An author to whom everything can be done. The report shows what was. -/
def reportedAuthor (o : Options) : Author where
  id := o.author.asciiLower
  name := o.author
  may permission := o.permissions.contains permission
  answer _ _ := .ok ()

/-- A service with the standard vocabulary. Nobody is there to take announcements. -/
def freshService : Service :=
  .initial .standard .standard .log true

variable {m : Type → Type} [Monad m]

def configured (machine : Machine m) (o : Options) : m (Except FilterError Service) := do
  match o.config with
  | none => return .ok freshService
  | some path =>
    let file ← machine.openFile path
    return freshService.applyFile path file

def rulesPath (s : Service) (o : Options) : String :=
  o.rules.getD (Service.rulePath s.config o.chain)

/-- Evaluates messages one after another. Gives the lines of the report, which ends before a message
that has no outcome. -/
def evaluateEach (machine : Machine m) (p : Palette) (chain : String) (author : Author) :
    Service → List String → m (Service × List String)
  | s, [] => return (s, [])
  | s, message :: rest => do
    let (reply, duration) ← machine.timed fun _ => s.evaluate chain message author
    match reply with
    | none => return (s, [])
    | some reply =>
      let lines := outcomeLines p message duration reply.answer reply.effects
      let (s, others) ← evaluateEach machine p chain author reply.service rest
      return (s, lines ++ others)

def report (machine : Machine m) (o : Options) (messages : List String) : m Result := do
  match ← configured machine o with
  | .error e => return .failed e
  | .ok s =>
    let path := rulesPath s o
    let file ← machine.openFile path
    match s.loadFile o.chain path file with
    | (.error e, _) => return .failed e
    | (.ok chain, s) =>
      let p : Palette := ⟨o.color⟩
      let author := reportedAuthor o
      let (s, lines) ← evaluateEach machine p o.chain author s messages
      let score := if s.scores.enabled then scoreLines p o.author (s.points author.id) else []
      let all := chainLines p chain ++ lines ++ score
      return { exitCode := 0, output := String.join (all.map (· ++ "\n")) }

def messages (machine : Machine m) (o : Options) : m (Except UsageError (List String)) := do
  match o.message with
  | some message => return nonBlank [message]
  | none =>
    match ← machine.readInput with
    | .ok input => return nonBlank (messagesOfInput input)
    | .error reason => return .error (.unreadableInput reason)

def run (machine : Machine m) (arguments : List String) : m Result := do
  match Request.ofArguments machine.terminal arguments with
  | .error e => return .refused e
  | .ok .help => return .printed helpText
  | .ok .version => return .printed versionText
  | .ok (.run o) =>
    match ← messages machine o with
    | .error e => return .refused e
    | .ok messages => report machine o messages

end Moderation.CommandLine
