import Moderation.Points.Scalar

namespace Moderation.Points

structure Ticker where
  interval : Time
  due : Time
  deriving DecidableEq, Repr

namespace Ticker

def start (interval now : Time) : Ticker := ⟨interval, now + interval⟩

def countUpTo (t : Ticker) (time : Time) : Nat :=
  if time < t.due then 0 else (time - t.due) / t.interval + 1

def next (t : Ticker) : Ticker := { t with due := t.due + t.interval }

/-- The ticker after it was served late, at `now`: it keeps its rhythm and skips what it missed. -/
def resume (t : Ticker) (now : Time) : Ticker :=
  { t with due := now + t.interval - (now - t.due) % t.interval }

end Ticker

end Moderation.Points
