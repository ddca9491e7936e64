import Moderation.Service.Basic

/-!
The report of a run. Every function gives lines without their line feeds.
-/

namespace Moderation.CommandLine

inductive Style where
  | bold
  | dim
  | red
  | green
  | yellow
  | blue
  | cyan
  | gray
  deriving DecidableEq, Repr

def Style.number : Style → Nat
  | .bold => 1
  | .dim => 2
  | .red => 31
  | .green => 32
  | .yellow => 33
  | .blue => 34
  | .cyan => 36
  | .gray => 90

def controlSequence (number : Nat) : String := "\x1b[" ++ toString number ++ "m"

structure Palette where
  colored : Bool
  deriving DecidableEq, Repr

namespace Palette

def paint (p : Palette) (style : Style) (text : String) : String :=
  if p.colored then controlSequence style.number ++ text ++ controlSequence 0 else text

def dim (p : Palette) (text : String) : String := p.paint .dim text

def bold (p : Palette) (text : String) : String := p.paint .bold text

def flag (p : Palette) (label : String) (on : Bool) (style : Style) : String :=
  if on then p.paint style ("✓ " ++ label) else p.dim ("✗ " ++ label)

end Palette

def padLeft (width : Nat) (text : String) : String :=
  String.ofList (List.replicate (width - text.length) ' ') ++ text

def ruleLine (p : Palette) (r : Rule) : String :=
  let tokens := r.actions.map Invocation.token
  "  " ++ " ".intercalate
    [ p.paint .gray (padLeft 4 (toString r.line)),
      p.paint .blue r.matcher.display,
      p.dim "→",
      if tokens.isEmpty then p.dim "(no actions)" else ", ".intercalate tokens ]

def chainLines (p : Palette) (c : Chain) : List String :=
  let title := p.bold (p.paint .cyan s!"⚙  Chain \"{c.name}\"")
  let count := p.dim s!"({toString c.rules.length} rules)"
  ["", title ++ " " ++ count] ++ c.rules.map (ruleLine p)

def deedText : Deed → String
  | .message text => "message  " ++ text
  | .kick text => "kick     " ++ text
  | .kill text => "kill     " ++ text
  | .fine amount text => s!"fine {Decimal.render amount} {text}"
  | .command text => "command  /" ++ text

def deedTexts (effects : List Effect) : List String :=
  effects.filterMap fun
    | .deed _ d => some (deedText d)
    | _ => none

def metricsText (duration : String) (m : Metrics) : String :=
  let rules := s!"rules {m.matched}/{m.evaluated} matched"
  let actions := s!"actions {m.executed} ({m.failed} failed, {m.unsupported} unsupported)"
  "  │  ".intercalate [duration, rules, actions]

def outcomeLines (p : Palette) (input duration : String) (o : Outcome) (effects : List Effect) :
    List String :=
  let text := if o.modified then p.bold o.display else p.dim o.display
  let flags :=
    [ p.flag "cancelled" o.cancelled .red, p.flag "modified" o.modified .yellow,
      p.flag "logged" o.logged .green ]
  let matched := ", ".intercalate (o.matchedLines.map toString)
  ["", p.paint .gray s!"━━━ \"{input}\" ━━━", "  " ++ p.dim "result:" ++ " " ++ text,
    "  " ++ "  ".intercalate flags] ++
  (if o.matchedLines.isEmpty then [] else
    ["  " ++ p.dim "matched lines:" ++ " " ++ p.paint .blue matched]) ++
  (deedTexts effects).map (fun t => "  " ++ p.paint .yellow "⚑" ++ " " ++ t) ++
  o.notes.map (fun t => "  " ++ p.dim "log:" ++ " " ++ t) ++
  ["  " ++ p.dim (metricsText duration o.metrics)]

def scoreLines (p : Palette) (author : String) (score : Float) : List String :=
  ["", p.dim s!"score for {author}:" ++ " " ++ p.paint .green (Decimal.renderTo 2 score), ""]

end Moderation.CommandLine
