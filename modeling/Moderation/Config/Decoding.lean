import Moderation.Config.Basic
import Moderation.Toml.Document

/-!
Configurations from documents. A setting that is missing has its standard value, one that is not known
is passed over, and one of the wrong kind refuses the document. The settings of a group may also be
listed in order, in an array.
-/

namespace Moderation.Config

open Toml (Value)

/-- The settings of a group, by name or by place. -/
abbrev Fields := String → Nat → Option Value

def fields? : Value → Option Fields
  | .table entries => some fun name _ => entries.lookup name
  | .array items => some fun _ place => items[place]?
  | .datetime _ => some fun _ _ => none
  | _ => none

def text? : Value → Option String
  | .string s => some s
  | _ => none

def truth? : Value → Option Bool
  | .boolean b => some b
  | _ => none

/-- A whole number stands for a float too. -/
def float? : Value → Option Float
  | .float x => some x
  | .integer n => some (Decimal.toFloat (n < 0) n.natAbs 0)
  | _ => none

def count? : Value → Option Nat
  | .integer n => if 0 ≤ n then some n.toNat else none
  | _ => none

def items? (read : Value → Option α) : Value → Option (List α)
  | .array items => items.mapM read
  | _ => none

def field (f : Fields) (name : String) (place : Nat) (read : Value → Option α) (standard : α) :
    Option α :=
  match f name place with
  | some v => read v
  | none => some standard

def required (f : Fields) (name : String) (place : Nat) (read : Value → Option α) : Option α :=
  (f name place).bind read

def toggles? (v : Value) : Option FilterToggles := do
  let f ← fields? v
  let standard : FilterToggles := {}
  return {
    chat := ← field f "chat" 0 truth? standard.chat
    command := ← field f "command" 1 truth? standard.command
    console := ← field f "console" 2 truth? standard.console }

def commands? (v : Value) : Option CommandLists := do
  let f ← fields? v
  return {
    asChat := ← field f "as_chat" 0 (items? text?) []
    whitelist := ← field f "whitelist" 1 (items? text?) []
    blacklist := ← field f "blacklist" 2 (items? text?) []
    spamFilter := ← field f "spam_filter" 3 truth? false }

def leak? (v : Value) : Option LeakSettings := do
  let f ← fields? v
  let standard : LeakSettings := {}
  return {
    points := ← field f "points" 0 float? standard.points
    intervalSecs := ← field f "interval_secs" 1 count? standard.intervalSecs }

def threshold? (v : Value) : Option ThresholdSettings := do
  let f ← fields? v
  return {
    name := ← required f "name" 0 text?
    points := ← required f "points" 1 float?
    ascending := ← field f "ascending" 2 (items? text?) []
    descending := ← field f "descending" 3 (items? text?) [] }

def points? (v : Value) : Option PointSettings := do
  let f ← fields? v
  return {
    enabled := ← field f "enabled" 0 truth? false
    leak := ← field f "leak" 1 leak? {}
    thresholds := ← field f "thresholds" 2 (items? threshold?) [] }

/-- The key under which a date stands for a table. -/
def datetimeKey : String := "$__toml_private_datetime"

def messages? : Value → Option (List (String × String))
  | .table entries =>
    (entries.mapM fun (e : String × Value) => (text? e.2).map fun text => (e.1, text)).map fun es =>
      es.mergeSort (fun a b => decide (a.1 ≤ b.1))
  | .datetime s => some [(datetimeKey, s)]
  | _ => none

def ofValue? (v : Value) : Option Config := do
  let f ← fields? v
  let standard : Config := {}
  return {
    ruleDirectory := ← field f "rule_directory" 0 text? standard.ruleDirectory
    decolor := ← field f "decolor" 1 truth? standard.decolor
    spamFilter := ← field f "spam_filter" 2 truth? standard.spamFilter
    filters := ← field f "filters" 3 toggles? {}
    commands := ← field f "commands" 4 commands? {}
    messages := ← field f "messages" 5 messages? []
    points := ← field f "points" 6 points? {} }

def ofDocument (source : String) : Except ConfigError Config :=
  match (Toml.read source).bind ofValue? with
  | none => .error .malformed
  | some c =>
    match c.check with
    | .ok _ => .ok c
    | .error fault => .error (.invalid fault)

end Moderation.Config
