import Moderation.Service.Evaluation

namespace Moderation

inductive Route where
  /-- To the chain for chat, past the mute and perhaps past the memory for repeated messages. -/
  | chat (spamFilter : Bool)
  | chain (kind : FilterKind)
  deriving DecidableEq, Repr

def commandName (text : List Char) : List Char :=
  Text.firstWord (Text.trimStart ((Text.trimStart text).dropWhile (· == '/')))

def route (c : Config) (kind : FilterKind) (text : String) : Option Route :=
  match kind with
  | .chat => some (.chat c.spamFilter)
  | .console => some (.chain .console)
  | .command =>
    let name := String.ofList (commandName text.toList)
    if c.commands.isChat name then some (.chat c.commands.spamFilter)
    else if c.commands.isFiltered name then some (.chain .command)
    else none

def Route.target : Route → FilterKind
  | .chat _ => .chat
  | .chain kind => kind

namespace Service

/-- Remembers a message as its author's last one. Tells whether it repeats the one before. -/
def checkRepeat (s : Service) (id text : String) : Bool × Service :=
  if s.lastMessages.lookup id = some text then (true, s)
  else
    (false, { s with lastMessages := (id, text) :: s.lastMessages.filter (fun e => e.1 != id) })

def spamNotice (s : Service) (author : Author) : List Effect :=
  let notice : Deed := .message (s.templates.message "spam")
  match author.answer [] notice with
  | .ok _ => [.deed author.id notice]
  | .error _ => []

inductive Gate where
  | passed (s : Service)
  | stopped (s : Service) (effects : List Effect)

def gate (s : Service) (r : Route) (text : String) (author : Author) : Gate :=
  match r with
  | .chain _ => .passed s
  | .chat spamFilter =>
    if s.muted && !author.may muteBypass then .stopped s []
    else if spamFilter && !author.may spamBypass then
      match s.checkRepeat author.id text with
      | (true, s) => .stopped s (s.spamNotice author)
      | (false, s) => .passed s
    else .passed s

/-- A message with its codes taken away counts as modified. -/
def evaluateRouted (s : Service) (r : Route) (decolor : Bool) (text : String) (author : Author) :
    Option (Reply Outcome) :=
  let t := ColoredText.ofString text
  if decolor && t.hasCodes then
    (s.evaluate r.target.name t.decolor.rawString author).map fun reply =>
      { reply with answer := { reply.answer with modified := true } }
  else s.evaluate r.target.name text author

def cancelEmptied (kind : FilterKind) (o : Outcome) : Outcome :=
  if kind = .command && o.modified && o.display.trimBlanks.isEmpty then { o with cancelled := true }
  else o

def filter (s : Service) (kind : FilterKind) (text : String) (author : Author) :
    Option (Reply Outcome) :=
  if !s.config.enables kind || author.may kind.bypass then some ⟨.untouched text, s, []⟩
  else
    match route s.config kind text with
    | none => some ⟨.untouched text, s, []⟩
    | some r =>
      let decolor := s.config.decolor && !author.may colorPermission
      match s.gate r text author with
      | .stopped s effects => some ⟨.blocked text, s, effects⟩
      | .passed s =>
        (s.evaluateRouted r decolor text author).map fun reply =>
          { reply with answer := cancelEmptied kind reply.answer }

end Service

end Moderation
