import Moderation.Regex.Reader
import Moderation.Regex.Weight
import Moderation.Regex.Search

namespace Moderation

structure Pattern where
  source : String
  code : Regex.Code

namespace Pattern

def compile (source : List Char) (caseless : Bool) : Except Regex.Fault Pattern := do
  let r ← Regex.ofText caseless source
  if Regex.weightLimit < r.weight then .error .tooLarge
  else return ⟨String.ofList source, Regex.compile r⟩

def isIn (p : Pattern) (text : List Char) : Bool := p.code.matches text.toArray

def spans (p : Pattern) (text : List Char) : List Regex.Span := p.code.findAll text.toArray

end Pattern

end Moderation
