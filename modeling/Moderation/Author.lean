namespace Moderation

inductive Capability where
  | message
  | kick
  | kill
  | fine
  | command
  deriving DecidableEq, Repr

def Capability.name : Capability → String
  | .message => "message"
  | .kick => "kick"
  | .kill => "kill"
  | .fine => "fine"
  | .command => "command"

inductive Deed where
  | message (text : String)
  | kick (text : String)
  | kill (text : String)
  | fine (amount : Float) (text : String)
  | command (text : String)

def Deed.capability : Deed → Capability
  | .message _ => .message
  | .kick _ => .kick
  | .kill _ => .kill
  | .fine _ _ => .fine
  | .command _ => .command

/-- Why the host did not do what it was asked to. A capability that it lacks is no failure. -/
inductive CapabilityError where
  | unsupported (capability : String)
  | failed (reason : String)
  deriving DecidableEq, Repr

def CapabilityError.message : CapabilityError → String
  | .unsupported capability => s!"capability '{capability}' is not supported here"
  | .failed reason => s!"capability failed: {reason}"

/-- What the host answers when it is asked for a deed, given those that it has done to the same author so far. -/
abbrev Response := List Deed → Deed → Except CapabilityError Unit

/-- A host that does not look back. -/
instance : Coe (Deed → Except CapabilityError Unit) Response := ⟨fun answer _ => answer⟩

structure Author where
  id : String
  name : String
  may : String → Bool := fun _ => false
  answer : Response := fun _ d => .error (.unsupported d.capability.name)

end Moderation
