import Moderation.Evaluation.Perform
import Moderation.Rule.Basic

namespace Moderation

structure Metrics where
  /-- Rules that were looked at; none is once the chain is halted. -/
  evaluated : Nat := 0
  exempted : Nat := 0
  matched : Nat := 0
  /-- Actions that were begun, failed ones among them. -/
  executed : Nat := 0
  failed : Nat := 0
  unsupported : Nat := 0
  deriving DecidableEq, Repr

def Metrics.count (m : Metrics) : Status → Metrics
  | .done => { m with executed := m.executed + 1 }
  | .failed => { m with executed := m.executed + 1, failed := m.failed + 1 }
  | .unsupported => { m with executed := m.executed + 1, unsupported := m.unsupported + 1 }

def runActions (env : Environment) : List Invocation → Stage → Metrics → Option (Stage × Metrics)
  | [], s, m => some (s, m)
  | i :: rest, s, m =>
    (perform env i.action s).bind fun r =>
      let (status, s) := contained s r
      runActions env rest s (m.count status)

def runRule (env : Environment) (r : Rule) (s : Stage) (m : Metrics) : Option (Stage × Metrics) :=
  let entered := s.withContext (s.context.enterRule r.line r.matcher.pattern)
  (runActions env r.actions entered m).map fun (s, m) => (s.withContext s.context.leaveRule, m)

def runRules (env : Environment) : List Rule → Stage → Metrics → Option (Stage × Metrics)
  | [], s, m => some (s, m)
  | r :: rest, s, m =>
    if s.context.halted then some (s, m)
    else
      let m := { m with evaluated := m.evaluated + 1 }
      if r.exempts s.context.author then
        runRules env rest s { m with exempted := m.exempted + 1 }
      else if r.matcher.applies s.context.modified.glyphs then
        (runRule env r s { m with matched := m.matched + 1 }).bind fun (s, m) => runRules env rest s m
      else runRules env rest s m

def execute (env : Environment) (c : Chain) (s : Stage) : Option (Stage × Metrics) :=
  runRules env c.rules (s.withContext { s.context with chain := some c.name }) {}

end Moderation
