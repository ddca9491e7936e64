import Moderation.Text.Blank
import Moderation.Text.Lines

namespace Moderation.CommandLine

/-- What the arguments ask for. Messages are joined from all arguments that are no options. -/
structure Options where
  rules : Option String := none
  config : Option String := none
  chain : String := "chat"
  author : String := "Steve"
  permissions : List String := []
  color : Bool := false
  message : Option String := none
  deriving DecidableEq, Repr

inductive UsageError where
  | missingValue (option : String)
  | unknownOption (argument : String)
  | noMessage
  | unreadableInput (reason : String)
  deriving DecidableEq, Repr

/-- How the reading of arguments ends. Help and version are shown as soon as they are met. -/
inductive Request where
  | help
  | version
  | run (o : Options)
  deriving DecidableEq, Repr

inductive ValueOption where
  | rules
  | config
  | chain
  | author
  | permission
  deriving DecidableEq, Repr

namespace ValueOption

def all : List ValueOption := [rules, config, chain, author, permission]

def longName : ValueOption → String
  | rules => "--rules"
  | config => "--config"
  | chain => "--chain"
  | author => "--author"
  | permission => "--permission"

def shortName? : ValueOption → Option String
  | rules => some "-r"
  | config => some "-c"
  | chain => none
  | author => some "-a"
  | permission => some "-p"

def ofName? (name : String) : Option ValueOption :=
  all.find? fun v => v.longName == name || v.shortName? == some name

/-- A later value takes the place of an earlier one; permissions are gathered. -/
def set (v : ValueOption) (o : Options) (value : String) : Options :=
  match v with
  | rules => { o with rules := some value }
  | config => { o with config := some value }
  | chain => { o with chain := value }
  | author => { o with author := value }
  | permission => { o with permissions := o.permissions ++ [value] }

end ValueOption

inductive Word where
  | help
  | version
  | color (on : Bool)
  | value (v : ValueOption)
  /-- All arguments behind it are the message. -/
  | message
  | unknown
  /-- No option: the message begins with it. -/
  | text
  deriving DecidableEq, Repr

/-- The name of an option and the value written behind an equals sign, which only long options have. -/
def splitInline (argument : String) : String × Option String :=
  let cs := argument.toList
  let name := cs.takeWhile (· != '=')
  match cs.dropWhile (· != '=') with
  | _ :: value =>
    if name.take 2 == ['-', '-'] then (String.ofList name, some (String.ofList value))
    else (argument, none)
  | [] => (argument, none)

def Word.ofName (name : String) : Word :=
  if name = "-h" ∨ name = "--help" then .help
  else if name = "-V" ∨ name = "--version" then .version
  else if name = "--color" then .color true
  else if name = "--no-color" then .color false
  else if name = "--" then .message
  else
    match ValueOption.ofName? name with
    | some v => .value v
    | none => if name.toList.head? = some '-' then .unknown else .text

/-- Reads arguments from left to right. A value that is written behind an option which takes none is
passed over. -/
def readArguments (o : Options) : List String → Except UsageError Request
  | [] => .ok (.run o)
  | argument :: rest =>
    let (name, inline) := splitInline argument
    match Word.ofName name with
    | .help => .ok .help
    | .version => .ok .version
    | .color on => readArguments { o with color := on } rest
    | .message => .ok (.run { o with message := some (" ".intercalate rest) })
    | .unknown => .error (.unknownOption argument)
    | .text => .ok (.run { o with message := some (" ".intercalate (argument :: rest)) })
    | .value v =>
      match inline, rest with
      | some value, rest => readArguments (v.set o value) rest
      | none, value :: rest => readArguments (v.set o value) rest
      | none, [] => .error (.missingValue v.longName)

/-- Reads arguments; `terminal` tells whether the report goes to one, which makes it colored. -/
def Request.ofArguments (terminal : Bool) (arguments : List String) : Except UsageError Request :=
  readArguments { color := terminal } arguments

def nonBlank (messages : List String) : Except UsageError (List String) :=
  let kept := messages.filter fun m => !m.trimBlanks.isEmpty
  if kept.isEmpty then .error .noMessage else .ok kept

def messagesOfInput (input : String) : List String := (Text.lines input.toList).map String.ofList

end Moderation.CommandLine
