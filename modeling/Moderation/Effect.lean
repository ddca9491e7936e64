import Moderation.Author

namespace Moderation

inductive Direction where
  | ascending
  | descending
  deriving DecidableEq, Repr

inductive Announcement where
  | console (text : String)
  | broadcast (text : String)
  | notify (permission text : String)
  deriving DecidableEq, Repr

inductive LogEvent where
  | announced (a : Announcement)
  | filtered (chain author received modified : String) (lines : List Nat)
  | noted (chain author text : String)
  | crossed (authorId author : String) (place : Nat) (threshold : String) (points : Float)
    (direction : Direction)
  deriving DecidableEq, Repr

inductive Effect where
  | deed (authorId : String) (d : Deed)
  | announce (a : Announcement)
  | log (e : LogEvent)

def Effect.deedOn? (id : String) : Effect → Option Deed
  | .deed id' d => if id' = id then some d else none
  | _ => none

/-- Where announcements go: to the host, or to the log as long as the host takes none. -/
inductive Sink where
  | host
  | log
  deriving DecidableEq, Repr

def Sink.deliver (s : Sink) (a : Announcement) : Effect :=
  match s with
  | .host => .announce a
  | .log => .log (.announced a)

end Moderation
