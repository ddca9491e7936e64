import Moderation.Config.Basic
import Moderation.Evaluation.Chain
import Moderation.Rule.Reader

namespace Moderation

inductive FileFailure where
  | missing
  | notText
  deriving DecidableEq, Repr

def FileFailure.message : FileFailure → String
  | .missing => "No such file or directory (os error 2)"
  | .notText => "stream did not contain valid UTF-8"

abbrev FileText := Except FileFailure String

abbrev Files := String → FileText

/-- A path inside a directory, unless it begins at the root. -/
def joinPath (directory path : String) : String :=
  if directory.isEmpty || path.startsWith "/" then path
  else if directory.endsWith "/" then directory ++ path
  else directory ++ "/" ++ path

inductive FilterError where
  | file (path : String) (failure : FileFailure)
  | parse (chain : String) (e : ParseError)
  | config (e : ConfigError)

def FilterError.message : FilterError → String
  | .file path failure => s!"failed to read rules from {path}: {failure.message}"
  | .parse chain e => s!"chain '{chain}' {e.message}"
  | .config e => e.message

def textOf (path : String) : FileText → Except FilterError String
  | .ok text => .ok text
  | .error failure => .error (.file path failure)

inductive FilterKind where
  | chat
  | command
  | console
  deriving DecidableEq, Repr

namespace FilterKind

def all : List FilterKind := [chat, command, console]

def name : FilterKind → String
  | chat => "chat"
  | command => "command"
  | console => "console"

def bypass (k : FilterKind) : String := s!"chatwarden.bypass.{k.name}"

end FilterKind

def Config.enables (c : Config) : FilterKind → Bool
  | .chat => c.filters.chat
  | .command => c.filters.command
  | .console => c.filters.console

def colorPermission : String := "chatwarden.color"

def muteBypass : String := "chatwarden.bypass.mute"

def spamBypass : String := "chatwarden.bypass.spam"

structure Outcome where
  text : String
  display : String
  cancelled : Bool := false
  logged : Bool := false
  modified : Bool := false
  matchedLines : List Nat := []
  notes : List String := []
  metrics : Metrics := {}
  deriving DecidableEq, Repr

namespace Outcome

def untouched (text : String) : Outcome :=
  let t := ColoredText.ofString text
  { text := t.rawString, display := t.plainString }

def blocked (text : String) : Outcome := { untouched text with cancelled := true }

def ofContext (c : Context) (m : Metrics) : Outcome :=
  { text := c.modified.rawString
    display := c.modified.plainString
    cancelled := c.cancelled
    logged := c.logging
    modified := c.changed
    matchedLines := c.matchedLines
    notes := c.notes
    metrics := m }

end Outcome

structure Service where
  registry : Registry
  tags : Tags
  sink : Sink
  /-- Whether there is anything to run the leaking of scores on. -/
  hasRuntime : Bool
  nesting : Nat
  templates : Templates
  chains : List (String × Chain)
  config : Config
  scores : Scores
  muted : Bool
  /-- The last checked message of each author. -/
  lastMessages : List (String × String)
  now : Points.Time

structure Reply (α : Type) where
  answer : α
  service : Service
  effects : List Effect

namespace Service

def environment (s : Service) : Environment := ⟨s.tags, s.templates, s.sink, s.now, s.nesting⟩

def world (s : Service) : World := ⟨s.scores, []⟩

def initial (registry : Registry) (tags : Tags) (sink : Sink) (hasRuntime : Bool) : Service :=
  { registry := registry
    tags := tags
    sink := sink
    hasRuntime := hasRuntime
    nesting := 10000
    templates := .standard
    chains := []
    config := {}
    scores := .initial
    muted := false
    lastMessages := []
    now := 0 }

/-- Registers an action. Chains that are loaded keep the actions they were read with. -/
def registerAction (s : Service) (group : ActionGroup) (token : String) (build : ActionBuilder) :
    Option ActionGroup × Service :=
  (s.registry.group? token, { s with registry := s.registry.register group token build })

def setMuted (s : Service) (muted : Bool) : Service := { s with muted := muted }

def setTemplates (s : Service) (t : Templates) : Service := { s with templates := t }

end Service

end Moderation
