import Moderation.Action.Basic

namespace Moderation

inductive ActionGroup where
  | core
  | targeted
  | host (name : String)
  deriving DecidableEq, Repr

abbrev ActionBuilder := String → Except ActionError Action

structure RegistryEntry where
  group : ActionGroup
  build : ActionBuilder

/-- Words are written small, and each is held once. -/
structure Registry where
  entries : List (String × RegistryEntry)

namespace Registry

def empty : Registry := ⟨[]⟩

def find? (r : Registry) (token : String) : Option RegistryEntry := r.entries.lookup token.asciiLower

def group? (r : Registry) (token : String) : Option ActionGroup := (r.find? token).map (·.group)

def contains (r : Registry) (token : String) : Bool := (r.find? token).isSome

/-- A word that is registered again means the later action. -/
def register (r : Registry) (group : ActionGroup) (token : String) (build : ActionBuilder) : Registry :=
  let key := token.asciiLower
  ⟨(key, ⟨group, build⟩) :: r.entries.filter (fun e => e.1 != key)⟩

def construct (r : Registry) (token params : String) : Except ActionError Action :=
  match r.find? token with
  | some e => e.build params
  | none => .error (.unknownToken token)

def constructLine (r : Registry) (line : String) : Except ActionError Action :=
  let (token, params) := Text.cutAtBlank (Text.trim line.toList)
  r.construct (String.ofList token) (String.ofList (Text.trim params))

def tokens (r : Registry) (group : ActionGroup) : List String :=
  ((r.entries.filter fun e => e.2.group == group).map Prod.fst).mergeSort (fun a b => decide (a ≤ b))

def size (r : Registry) : Nat := r.entries.length

end Registry

end Moderation
