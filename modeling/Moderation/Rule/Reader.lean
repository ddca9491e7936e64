import Moderation.Rule.Logical
import Moderation.Rule.Segment
import Moderation.Action.Registry

/-!
Reading chains of rules. A chain is read as a whole: the first fault refuses all of it.
-/

namespace Moderation

namespace Invocation

def read (registry : Registry) (body : List Char) : Except RuleFault Invocation :=
  let (word, rest) := Text.cutAtBlank body
  let token := String.ofList word
  let params := String.ofList (Text.trim rest)
  if word.isEmpty then .error (.form .noAction)
  else
    match registry.construct token params with
    | .ok action => .ok ⟨token.asciiLower, params, action⟩
    | .error e => .error (.action token e)

end Invocation

namespace Rule

def addSegment (registry : Registry) (r : Rule) (s : Segment) : Except RuleFault Rule :=
  match s.keyword with
  | .andThen => do
    let i ← Invocation.read registry s.body
    return { r with actions := r.actions ++ [i] }
  | .exceptFor =>
    if s.body.isEmpty || s.body.any Text.isBlank then .error (.form .badExemption)
    else .ok { r with exemptions := r.exemptions ++ [String.ofList s.body] }

def readText (registry : Registry) (number : Nat) (text : List Char) : Except RuleFault Rule := do
  let (matcher, rest) ← Matcher.read text
  let segments ← Segment.split rest
  segments.foldlM (addSegment registry) ⟨number, matcher, [], []⟩

def read (registry : Registry) (l : LogicalLine) : Except ParseError Rule :=
  match readText registry l.number l.text with
  | .ok r => .ok r
  | .error fault => .error (fault.at l.number)

end Rule

namespace Chain

def ofLines (registry : Registry) (name : String) (lines : List (List Char)) :
    Except ParseError Chain := do
  let logical ← LogicalLine.ofLines lines
  let rules ← logical.mapM (Rule.read registry)
  return ⟨name, rules⟩

def ofSource (registry : Registry) (name source : String) : Except ParseError Chain :=
  ofLines registry name (Text.lines source.toList)

end Chain

end Moderation
