import Moderation.Evaluation.Perform

/-!
Actions as work that is done bit by bit and may break off. What is written before it breaks off stays written;
that an action that fails leaves everything as it was is a fact about the order in which actions work.
-/

namespace Moderation

/-- Work on a stage. It has no result if thresholds set off one another deeper than allowed. -/
abbrev Work := ExceptT ActionError (StateT Stage Option)

namespace Work

variable {α β : Type}

def outcome (x : Work α) (s : Stage) : Option (Except ActionError α × Stage) := x.run.run s

def edit (f : Context → Context) : Work Unit := modify fun s => s.withContext (f s.context)

def note (text : String) : Work Unit := edit (·.note text)

def announce (env : Environment) (a : Announcement) : Work Unit :=
  modify (·.emit (env.sink.deliver a))

def fill (env : Environment) (text : String) : Work String := do return env.fill (← get) text

def ask (d : Deed) : Work Unit := do
  let s ← get
  match s.world.attempt s.context.author d with
  | .ok w => set { s with world := w }
  | .error e => throw (.capability e)

def score (fire : Firing) (now : Points.Time) (delta : Float) : Work Float :=
  fun s => (addPointsWith fire now delta s).map fun (total, s) => (.ok total, s)

theorem outcome_bind (x : Work α) (f : α → Work β) (s : Stage) :
    (x >>= f).outcome s = (x.outcome s).bind fun
      | (.ok a, s') => (f a).outcome s'
      | (.error e, s') => some (.error e, s') := by
  have hbind : (x >>= f).outcome s =
      (x.outcome s).bind fun r => (ExceptT.bindCont f r.1).run r.2 := rfl
  rw [hbind]
  refine Option.bind_congr fun r _ => ?_
  obtain ⟨r, s'⟩ := r
  cases r <;> rfl

theorem outcome_get (s : Stage) : outcome get s = some (.ok s, s) := rfl

theorem outcome_fill (env : Environment) (text : String) (s : Stage) :
    (fill env text).outcome s = some (.ok (env.fill s text), s) := rfl

theorem outcome_ask (d : Deed) (s : Stage) :
    (ask d).outcome s = some (match s.world.attempt s.context.author d with
      | .ok w => (.ok (), { s with world := w })
      | .error e => (.error (.capability e), s)) := by
  unfold ask
  rw [outcome_bind, outcome_get]
  dsimp only [Option.bind_some]
  split <;> rfl

theorem outcome_score (fire : Firing) (now : Points.Time) (delta : Float) (s : Stage) :
    (score fire now delta).outcome s =
      (addPointsWith fire now delta s).map fun (total, s) => (.ok total, s) := rfl

end Work

open Work

def work (env : Environment) (fire : Firing) : Action → Work Unit
  | .replace text => do
    let filled ← fill env text
    edit (·.replaceMatches fun _ => filled.toList)
  | .restate text => do
    let filled ← fill env text
    edit fun c => { c with modified := .ofString filled }
  | .changeCase upper => edit (·.replaceMatches (if upper then Unicode.upper else Unicode.lower))
  | .deny => edit fun c => { c with cancelled := true }
  | .abort => edit fun c => { c with halted := true }
  | .log => edit fun c => { c with logging := true }
  | .console text => do announce env (.console (← fill env text))
  | .broadcast text => do announce env (.broadcast (← fill env text))
  | .notify permission text => do announce env (.notify permission (← fill env text))
  | .points amount => do
    if (← get).world.scores.enabled then
      let total ← score fire env.now amount
      note (pointsNote amount total (← get).context.author.name)
  | .penalize penalty text => do
    let filled ← fill env (text.getD (env.templates.message penalty.name))
    ask (penalty.deed filled)
    note s!"{penalty.name} {(← get).context.author.name}: {filled}"
  | .command text => do
    let filled ← fill env text
    ask (.command filled)
    note s!"{(← get).context.author.name} ran /{filled}"
  | .host run => do
    match run (← get).context with
    | .ok c => edit fun _ => c
    | .error e => throw e

def workEach (work : Action → Work Unit) : Firing
  | [], s => some s
  | a :: rest, s => ((work a).outcome s).bind fun r => workEach work rest r.2

def workWithin (env : Environment) : Nat → Action → Work Unit
  | 0 => work env fun _ _ => none
  | nesting + 1 => work env (workEach (workWithin env nesting))

/-- How an action ends that fails or leaves a stage behind, if it has to leave the stage as it was where it
fails. -/
def settled (s : Stage) (r : Except ActionError Stage) : Except ActionError Unit × Stage :=
  (r.map fun _ => (), (contained s r).2)

theorem outcome_punish (d : Deed) (text : Author → String) (s : Stage) :
    (do ask d; note (text (← get).context.author) : Work Unit).outcome s =
      some (settled s (s.punish d (text s.context.author))) := by
  rw [outcome_bind, outcome_ask]
  unfold Stage.punish
  cases s.world.attempt s.context.author d with
  | error e => rfl
  | ok w => rfl

theorem outcome_work (env : Environment) (fire : Firing) (a : Action) (s : Stage) :
    (work env fire a).outcome s = (step env fire a s).map (settled s) := by
  cases a with
  | points amount =>
    rw [work, outcome_bind, outcome_get]
    dsimp only [Option.bind_some, step]
    split
    · rw [outcome_bind, outcome_score, Option.bind_map, Option.map_map]
      exact Option.map_eq_bind.symm
    · rfl
  | penalize penalty text =>
    rw [work, outcome_bind, outcome_fill]
    exact outcome_punish _ (fun author => s!"{penalty.name} {author.name}: {_}") s
  | command text =>
    rw [work, outcome_bind, outcome_fill]
    exact outcome_punish _ (fun author => s!"{author.name} ran /{_}") s
  | host run =>
    rw [work, outcome_bind, outcome_get]
    dsimp only [Option.bind_some, step]
    cases run s.context with
    | ok c => rfl
    | error e => rfl
  | _ => rfl

theorem workEach_eq {w : Action → Work Unit} {p : Action → Stage → Option (Except ActionError Stage)}
    (h : ∀ a s, (w a).outcome s = (p a s).map (settled s)) : workEach w = performEach p := by
  funext actions
  induction actions with
  | nil => rfl
  | cons a rest ih =>
    funext s
    rw [workEach, performEach, h, Option.bind_map, ih]
    rfl

theorem outcome_workWithin (env : Environment) (nesting : Nat) (a : Action) (s : Stage) :
    (workWithin env nesting a).outcome s = (performWithin env nesting a s).map (settled s) := by
  -- The induction is on how deep thresholds may set off one another.
  induction nesting generalizing a s with
  | zero => exact outcome_work env _ a s
  | succ nesting ih =>
    rw [workWithin, workEach_eq ih]
    exact outcome_work env _ a s

end Moderation
