import Moderation.Action.Error
import Moderation.Context

namespace Moderation

inductive Penalty where
  | warn
  | kick
  | kill
  | fine (amount : Float)

def Penalty.name : Penalty → String
  | .warn => "warn"
  | .kick => "kick"
  | .kill => "kill"
  | .fine _ => "fine"

def Penalty.deed (p : Penalty) (text : String) : Deed :=
  match p with
  | .warn => .message text
  | .kick => .kick text
  | .kill => .kill text
  | .fine amount => .fine amount text

/-- An action with its parameters. Texts may hold tags, which are filled in when the action runs. An
action of the host gives the message it leaves behind or fails without changing it. -/
inductive Action where
  | replace (text : String)
  | restate (text : String)
  | changeCase (upper : Bool)
  | deny
  | abort
  | log
  | console (text : String)
  | broadcast (text : String)
  | notify (permission text : String)
  | points (amount : Float)
  | penalize (penalty : Penalty) (text : Option String)
  | command (text : String)
  | host (run : Context → Except ActionError Context)

end Moderation
