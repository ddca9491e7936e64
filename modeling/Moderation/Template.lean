import Moderation.Text.Blank

namespace Moderation

/-- Messages by name; each name is held once. -/
structure Templates where
  entries : List (String × String)
  deriving DecidableEq, Repr

namespace Templates

def get? (t : Templates) (key : String) : Option String := t.entries.lookup key

def message (t : Templates) (key : String) : String := (t.get? key).getD ""

/-- Names are written small. -/
def set (t : Templates) (key text : String) : Templates :=
  let key := key.asciiLower
  ⟨(key, text) :: t.entries.filter (fun e => e.1 != key)⟩

def merge (t : Templates) (messages : List (String × String)) : Templates :=
  messages.foldl (fun t e => t.set e.1 e.2) t

def standard : Templates :=
  ⟨[ ("warn", "You have been warned."),
     ("kick", "You have been kicked for your language."),
     ("kill", "You have been struck down for your language."),
     ("fine", "You have been fined for your language."),
     ("spam", "Repeated message blocked by spam filter.") ]⟩

end Templates

end Moderation
