import Moderation.Action.Error
import Moderation.Points.Scalar
import Moderation.Decimal.Printing
import Moderation.Text.Blank

namespace Moderation

structure FilterToggles where
  chat : Bool := true
  command : Bool := false
  console : Bool := false
  deriving DecidableEq, Repr

/-- How command messages are routed. Names are compared without the slash before them and without
regard to ASCII case. -/
structure CommandLists where
  asChat : List String := []
  /-- If there are any, only these commands are filtered. -/
  whitelist : List String := []
  blacklist : List String := []
  spamFilter : Bool := false
  deriving DecidableEq, Repr

structure LeakSettings where
  points : Float := 1
  intervalSecs : Nat := 30

structure ThresholdSettings where
  name : String
  points : Float
  ascending : List String := []
  descending : List String := []

structure PointSettings where
  enabled : Bool := false
  leak : LeakSettings := {}
  thresholds : List ThresholdSettings := []

structure Config where
  ruleDirectory : String := "rules"
  decolor : Bool := false
  spamFilter : Bool := false
  filters : FilterToggles := {}
  commands : CommandLists := {}
  /-- Standard messages by name, in the order of the names. -/
  messages : List (String × String) := []
  points : PointSettings := {}

inductive ConfigFault where
  | leakPoints (points : Float)
  | leakInterval
  | commandName (name : String)
  | unnamedThreshold
  | thresholdPoints (name : String) (points : Float)
  | repeatedPoints (name : String) (points : Float)
  | sharedPoints (first second : String) (points : Float)
  | zeroInterval

def ConfigFault.message : ConfigFault → String
  | .leakPoints points => s!"leak.points must be zero or positive, found {Decimal.render points}"
  | .leakInterval => "leak.interval_secs must be positive"
  | .commandName name => s!"'{name}' is not a command name"
  | .unnamedThreshold => "threshold without a name"
  | .thresholdPoints name points =>
    s!"threshold '{name}' must have a positive point value, found {Decimal.render points}"
  | .repeatedPoints name points => s!"threshold '{name}' repeats the value {Decimal.render points}"
  | .sharedPoints first second points =>
    s!"thresholds '{first}' and '{second}' share the value {Decimal.render points}"
  | .zeroInterval => "leak interval must be positive"

inductive ConfigError where
  | malformed
  | invalid (fault : ConfigFault)
  | thresholdAction (threshold : String) (cause : ActionError)
  | noRuntime

def ConfigError.message : ConfigError → String
  | .malformed => "invalid configuration file"
  | .invalid fault => s!"invalid configuration: {fault.message}"
  | .thresholdAction threshold cause => s!"threshold '{threshold}': {cause.message}"
  | .noRuntime => "point leaking needs a tokio runtime, none is available"

namespace CommandLists

def listed (names : List String) (command : String) : Bool :=
  names.any fun name => name.dropSlashes.asciiLower == command.asciiLower

def isChat (c : CommandLists) (command : String) : Bool := listed c.asChat command

def isFiltered (c : CommandLists) (command : String) : Bool :=
  (c.whitelist.isEmpty || listed c.whitelist command) && !listed c.blacklist command

def names (c : CommandLists) : List String := c.asChat ++ c.whitelist ++ c.blacklist

end CommandLists

namespace Config

def isLeakable (points : Float) : Bool := points.isFinite && !(points < 0)

def checkLeak (l : LeakSettings) : Except ConfigFault Unit :=
  if !isLeakable l.points then .error (.leakPoints l.points)
  else if l.intervalSecs = 0 then .error .leakInterval
  else .ok ()

def checkCommands : List String → Except ConfigFault Unit
  | [] => .ok ()
  | name :: rest =>
    let word := name.dropSlashes
    if word.isEmpty || word.hasBlank then .error (.commandName word) else checkCommands rest

def checkThresholds (seen : List Float) : List ThresholdSettings → Except ConfigFault Unit
  | [] => .ok ()
  | t :: rest =>
    if t.name.trimBlanks.isEmpty then .error .unnamedThreshold
    else if !Points.isPositive t.points then .error (.thresholdPoints t.name t.points)
    else if seen.any (· == t.points) then .error (.repeatedPoints t.name t.points)
    else checkThresholds (t.points :: seen) rest

def check (c : Config) : Except ConfigFault Unit := do
  checkLeak c.points.leak
  checkCommands c.commands.names
  checkThresholds [] c.points.thresholds

end Config

end Moderation
