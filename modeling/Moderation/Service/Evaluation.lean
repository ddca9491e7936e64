import Moderation.Service.Chains
import Moderation.Evaluation.Leak

namespace Moderation.Service

def logEffects (c : Context) : List Effect :=
  let chain := c.chain.getD "-"
  let name := c.author.name
  .log (.filtered chain name c.received.rawString c.modified.rawString c.matchedLines) ::
    c.notes.map fun note => .log (.noted chain name note)

/-- Runs a message through a chain; where there is none of that name, the message stays as it came.
There is no reply if actions at thresholds set off one another without end. -/
def evaluate (s : Service) (name text : String) (author : Author) : Option (Reply Outcome) :=
  match s.chain? name with
  | none => some ⟨.untouched text, s, []⟩
  | some chain =>
    (execute s.environment chain ⟨.ofString author text, s.world⟩).map fun (stage, metrics) =>
      let c := stage.context
      ⟨.ofContext c metrics, { s with scores := stage.world.scores },
        stage.world.effects ++ if c.logging then logEffects c else []⟩

def withWorld (s : Service) (answer : α) (w : World) : Reply α :=
  ⟨answer, { s with scores := w.scores }, w.effects⟩

def addPoints (s : Service) (author : Author) (text : String) (delta : Float) :
    Option (Reply (Float × Context)) :=
  (Moderation.addPoints s.environment delta ⟨.ofString author text, s.world⟩).map
    fun (score, stage) => s.withWorld (score, stage.context) stage.world

def leakAll (s : Service) : Option (Reply Unit) :=
  (Moderation.leakAll s.environment s.world).map fun w => s.withWorld () w

def releaseScore (s : Service) (id : String) : Bool × Service :=
  let (scores, dropped) := s.scores.release id s.now
  (dropped, { s with scores := scores })

def releaseAuthor (s : Service) (id : String) : Bool × Service :=
  releaseScore { s with lastMessages := s.lastMessages.filter (fun e => e.1 != id) } id

def points (s : Service) (id : String) : Float := s.scores.points id s.now

end Moderation.Service
