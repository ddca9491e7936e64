import Moderation.Action.Basic

namespace Moderation

structure Matcher where
  pattern : Pattern
  negated : Bool
  caseless : Bool

namespace Matcher

def applies (m : Matcher) (text : List Char) : Bool := m.pattern.isIn text != m.negated

def source (m : Matcher) : String := m.pattern.source

def display (m : Matcher) : String :=
  (if m.negated then "!" else "") ++ "/" ++ m.source ++ "/" ++ (if m.caseless then "i" else "")

end Matcher

structure Invocation where
  token : String
  params : String
  action : Action

structure Rule where
  line : Nat
  matcher : Matcher
  actions : List Invocation
  exemptions : List String

def Rule.exempts (r : Rule) (a : Author) : Bool := r.exemptions.any a.may

structure Chain where
  name : String
  rules : List Rule

end Moderation
