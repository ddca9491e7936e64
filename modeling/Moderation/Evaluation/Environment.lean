import Moderation.Effect
import Moderation.Tag
import Moderation.Template
import Moderation.Action.Basic
import Moderation.Points.Scoreboard

namespace Moderation

abbrev Scores := Points.Scoreboard Float Action

abbrev ThresholdTable := Points.Table Float Action

/-- What actions see and do not change. Actions at thresholds may add points and so set off others;
`nesting` bounds how deep that may go. -/
structure Environment where
  tags : Tags
  templates : Templates
  sink : Sink
  now : Points.Time
  nesting : Nat

structure World where
  scores : Scores
  effects : List Effect

namespace World

def emit (w : World) (e : Effect) : World := { w with effects := w.effects ++ [e] }

def deedsOn (w : World) (id : String) : List Deed := w.effects.filterMap (·.deedOn? id)

/-- Asks the host for a deed; only one that is done is an effect. -/
def attempt (w : World) (a : Author) (d : Deed) : Except CapabilityError World :=
  match a.answer (w.deedsOn a.id) d with
  | .ok _ => .ok (w.emit (.deed a.id d))
  | .error e => .error e

end World

end Moderation
