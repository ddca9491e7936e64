import Moderation.Evaluation.Perform

namespace Moderation

def fireSets (fire : Firing) (table : ThresholdTable) : List Points.Crossing → Stage → Option Stage
  | [], s => some s
  | c :: rest, s => (fireSet fire table c s).bind (fireSets fire table rest)

/-- Leaks one author's score and performs what the thresholds left behind ask for, all of it on one
blank message of the author. -/
def leakOne (env : Environment) (id : String) (w : World) : Option World :=
  let table := w.scores.settings.installed.table
  match w.scores.tick id env.now with
  | (scores, none) => some { w with scores := scores }
  | (scores, some (author, crossed)) =>
    (fireSets (fire env) table crossed ⟨.blank author, { w with scores := scores }⟩).map (·.world)

def leakEach (env : Environment) : List String → World → Option World
  | [], w => some w
  | id :: rest, w => (leakOne env id w).bind (leakEach env rest)

def leakAll (env : Environment) (w : World) : Option World :=
  if w.scores.enabled then leakEach env w.scores.ids w else some w

end Moderation
