import Moderation.Points.Leak
import Moderation.Points.Threshold

namespace Moderation.Points

/-- A table as it was installed. The stamp tells one installation from another. -/
structure Installed (α β : Type) where
  stamp : Nat
  table : Table α β

structure Settings (α β : Type) where
  leak : LeakRate α
  installed : Installed α β

inductive Crossing where
  | up (index : Nat)
  | down (index : Nat)
  deriving DecidableEq, Repr

/-- A score as of the time of its last change, and the number of thresholds it has reached. -/
structure Record (α β : Type) where
  points : α
  lastUpdate : Time
  level : Nat
  installed : Installed α β

def crossings (old new : Nat) : List Crossing :=
  if old < new then (List.range' old (new - old)).map .up
  else ((List.range' new (old - new)).map .down).reverse

namespace Record

variable {α β : Type} [Scalar α]

def fresh (installed : Installed α β) (now : Time) : Record α β := ⟨Scalar.zero, now, 0, installed⟩

/-- Carries the level over to another table without crossing anything. -/
def rebase (r : Record α β) (installed : Installed α β) : Record α β :=
  if r.installed.stamp = installed.stamp then r
  else { r with level := installed.table.level r.points, installed := installed }

def leaked (r : Record α β) (rate : LeakRate α) (now : Time) : α :=
  floored (Scalar.sub r.points (rate.amount (now - r.lastUpdate)))

def leak (r : Record α β) (rate : LeakRate α) (now : Time) : Record α β :=
  { r with points := r.leaked rate now, lastUpdate := now }

def settle (r : Record α β) (table : Table α β) : Record α β × List Crossing :=
  let level := table.level r.points
  ({ r with level := level }, crossings r.level level)

def tick (r : Record α β) (s : Settings α β) (now : Time) : Record α β × List Crossing :=
  ((r.rebase s.installed).leak s.leak now).settle s.installed.table

def update (r : Record α β) (delta : α) (s : Settings α β) (now : Time) :
    Record α β × List Crossing :=
  let (r, fallen) := r.tick s now
  let r := { r with points := floored (Scalar.add r.points delta) }
  let (r, risen) := r.settle s.installed.table
  (r, fallen ++ risen)

end Record

end Moderation.Points
