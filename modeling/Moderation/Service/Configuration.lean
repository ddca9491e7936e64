import Moderation.Service.Basic
import Moderation.Config.Decoding

namespace Moderation

def buildActions (r : Registry) (threshold : String) (lines : List String) :
    Except ConfigError (List Action) :=
  lines.mapM fun line =>
    match r.constructLine line with
    | .ok a => .ok a
    | .error e => .error (.thresholdAction threshold e)

def buildThreshold (r : Registry) (t : ThresholdSettings) :
    Except ConfigError (Points.Threshold Float Action) := do
  let ascending ← buildActions r t.name t.ascending
  let descending ← buildActions r t.name t.descending
  return ⟨t.name, t.points, ascending, descending⟩

def ConfigFault.ofTable : Points.TableFault Float → ConfigFault
  | .notPositive name points => .thresholdPoints name points
  | .shared first second points => .sharedPoints first second points

/-- Builds all actions, then checks the values. -/
def buildTable (r : Registry) (ts : List ThresholdSettings) : Except ConfigError ThresholdTable := do
  let built ← ts.mapM (buildThreshold r)
  match Points.Table.ofList built with
  | .ok table => return table
  | .error fault => .error (.invalid (.ofTable fault))

def LeakSettings.rate (l : LeakSettings) : Points.LeakRate Float := ⟨l.points, l.intervalSecs * 1000⟩

namespace Service

def disableScoring (s : Service) : Service := { s with scores := s.scores.disable }

/-- Changes that are made to a service one after another. The first that fails is the last, and what was
changed before it stays changed. -/
abbrev Change := ExceptT ConfigError (StateM Service)

namespace Change

def require (condition : Bool) (e : ConfigError) : Change Unit :=
  if condition then pure () else throw e

def enableScoring (leak : Points.LeakRate Float) (table : ThresholdTable) : Change Unit := do
  require (← get).hasRuntime .noRuntime
  require (leak.interval != 0) (.invalid .zeroInterval)
  modify fun s => { s with scores := s.scores.enable leak table s.now }

def configure (c : Config) : Change Unit := do
  ofExcept (c.check.mapError .invalid)
  if c.points.enabled then
    let table ← ofExcept (buildTable (← get).registry c.points.thresholds)
    enableScoring c.points.leak.rate table
  else modify disableScoring
  modify fun s => s.setTemplates (Templates.standard.merge c.messages)
  modify fun s => { s with config := c }

def outcome {α : Type} (change : Change α) (s : Service) : Except ConfigError α × Service :=
  change.run.run s

end Change

def changed (s : Service) (change : Change Unit) : Except ConfigError Service :=
  match change.outcome s with
  | (.ok _, s) => .ok s
  | (.error e, _) => .error e

def enableScoring (s : Service) (leak : Points.LeakRate Float) (table : ThresholdTable) :
    Except ConfigError Service :=
  s.changed (Change.enableScoring leak table)

def applyConfig (s : Service) (c : Config) : Except ConfigError Service :=
  s.changed (Change.configure c)

def applyFile (s : Service) (path : String) (file : FileText) : Except FilterError Service := do
  let source ← textOf path file
  match Config.ofDocument source with
  | .error e => .error (.config e)
  | .ok c =>
    match s.applyConfig c with
    | .error e => .error (.config e)
    | .ok s => return s

end Service

end Moderation
