import Moderation.Points.Scalar

namespace Moderation.Points

structure LeakRate (α : Type) where
  points : α
  interval : Time
  deriving DecidableEq, Repr

variable {α : Type} [Scalar α]

def LeakRate.amount (r : LeakRate α) (elapsed : Time) : α :=
  if r.interval = 0 then Scalar.zero
  else floored (Scalar.div (Scalar.mul r.points (Scalar.seconds elapsed)) (Scalar.seconds r.interval))

def LeakRate.standard : LeakRate Float := ⟨1, 30000⟩

end Moderation.Points
