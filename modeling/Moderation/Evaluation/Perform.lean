import Moderation.Evaluation.Environment
import Moderation.Decimal.Printing

/-!
Performing actions. An action that fails leaves everything as it was. The points action may cross
thresholds, whose actions are performed in turn; an evaluation in which that goes deeper than allowed
has no result.
-/

namespace Moderation

structure Stage where
  context : Context
  world : World

inductive Status where
  | done
  | unsupported
  | failed
  deriving DecidableEq, Repr

def Status.ofError (e : ActionError) : Status := if e.isUnsupported then .unsupported else .failed

/-- Performs the actions of a threshold; `none` if it may not be done any deeper. -/
abbrev Firing := List Action → Stage → Option Stage

namespace Stage

def withContext (s : Stage) (c : Context) : Stage := { s with context := c }

def emit (s : Stage) (e : Effect) : Stage := { s with world := s.world.emit e }

def punish (s : Stage) (d : Deed) (note : String) : Except ActionError Stage :=
  match s.world.attempt s.context.author d with
  | .ok w => .ok ⟨s.context.note note, w⟩
  | .error e => .error (.capability e)

end Stage

def Environment.fill (env : Environment) (s : Stage) (text : String) : String :=
  env.tags.fill text s.context

def crossedLine (a : Author) (place : Nat) (t : Points.Threshold Float Action) (direction : Direction) :
    LogEvent :=
  .crossed a.id a.name place t.name t.points direction

def fireSet (fire : Firing) (table : ThresholdTable) (crossing : Points.Crossing) (s : Stage) :
    Option Stage :=
  let run (index : Nat) (direction : Direction) (set : Points.Threshold Float Action → List Action) :=
    match table.get? index with
    | none => some s
    | some t => fire (set t) (s.emit (.log (crossedLine s.context.author index t direction)))
  match crossing with
  | .up index => run index .ascending (·.ascending)
  | .down index => run index .descending (·.descending)

/-- A threshold passed on the way up acts on the message at hand, one passed on the way down on a blank
message of the same author. -/
def fireCrossing (fire : Firing) (table : ThresholdTable) (crossing : Points.Crossing) (s : Stage) :
    Option Stage :=
  match crossing with
  | .up _ => fireSet fire table crossing s
  | .down _ =>
    (fireSet fire table crossing (s.withContext (.blank s.context.author))).map fun after =>
      after.withContext s.context

def fireAll (fire : Firing) (table : ThresholdTable) : List Points.Crossing → Stage → Option Stage
  | [], s => some s
  | c :: rest, s => (fireCrossing fire table c s).bind (fireAll fire table rest)

/-- Adds points to the score of the message's author and performs what the thresholds ask for. Gives
the new score, which is zero while scoring is off. -/
def addPointsWith (fire : Firing) (now : Points.Time) (delta : Float) (s : Stage) :
    Option (Float × Stage) :=
  let scores := s.world.scores
  if scores.enabled then
    let (scores', crossed, total) := scores.add s.context.author delta now
    let s := { s with world := { s.world with scores := scores' } }
    (fireAll fire scores.settings.installed.table crossed s).map fun s => (total, s)
  else some (0, s)

def pointsNote (amount total : Float) (author : String) : String :=
  s!"points {Decimal.renderSigned amount} for {author} (now {Decimal.renderTo 2 total})"

def step (env : Environment) (fire : Firing) (a : Action) (s : Stage) :
    Option (Except ActionError Stage) :=
  let c := s.context
  match a with
  | .replace text =>
    let filled := (env.fill s text).toList
    some (.ok (s.withContext (c.replaceMatches fun _ => filled)))
  | .restate text =>
    some (.ok (s.withContext { c with modified := .ofString (env.fill s text) }))
  | .changeCase upper =>
    some (.ok (s.withContext (c.replaceMatches (if upper then Unicode.upper else Unicode.lower))))
  | .deny => some (.ok (s.withContext { c with cancelled := true }))
  | .abort => some (.ok (s.withContext { c with halted := true }))
  | .log => some (.ok (s.withContext { c with logging := true }))
  | .console text => some (.ok (s.emit (env.sink.deliver (.console (env.fill s text)))))
  | .broadcast text => some (.ok (s.emit (env.sink.deliver (.broadcast (env.fill s text)))))
  | .notify permission text =>
    some (.ok (s.emit (env.sink.deliver (.notify permission (env.fill s text)))))
  | .points amount =>
    if s.world.scores.enabled then
      (addPointsWith fire env.now amount s).map fun (total, s) =>
        .ok (s.withContext (s.context.note (pointsNote amount total s.context.author.name)))
    else some (.ok s)
  | .penalize penalty text =>
    let filled := env.fill s (text.getD (env.templates.message penalty.name))
    some (s.punish (penalty.deed filled) s!"{penalty.name} {c.author.name}: {filled}")
  | .command text =>
    let filled := env.fill s text
    some (s.punish (.command filled) s!"{c.author.name} ran /{filled}")
  | .host run =>
    match run c with
    | .ok c => some (.ok (s.withContext c))
    | .error e => some (.error e)

/-- An action and how it ended. A failure ends here: the stage is what it was before. -/
def contained (s : Stage) : Except ActionError Stage → Status × Stage
  | .ok s => (.done, s)
  | .error e => (.ofError e, s)

def performEach (perform : Action → Stage → Option (Except ActionError Stage)) : Firing
  | [], s => some s
  | a :: rest, s => (perform a s).bind fun r => performEach perform rest (contained s r).2

/-- Performs an action where thresholds may set off one another at most `nesting` deep. -/
def performWithin (env : Environment) : Nat → Action → Stage → Option (Except ActionError Stage)
  | 0 => step env fun _ _ => none
  | nesting + 1 => step env (performEach (performWithin env nesting))

def perform (env : Environment) (a : Action) (s : Stage) : Option (Except ActionError Stage) :=
  performWithin env env.nesting a s

def fire (env : Environment) : Firing := performEach (perform env)

def addPoints (env : Environment) (delta : Float) (s : Stage) : Option (Float × Stage) :=
  addPointsWith (fire env) env.now delta s

end Moderation
