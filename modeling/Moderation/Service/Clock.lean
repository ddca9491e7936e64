import Moderation.Service.Evaluation

namespace Moderation.Service

open Points (Time)

def serveTick (s : Service) : Option (Reply Unit) :=
  match s.scores.ticker with
  | none => some ⟨(), s, []⟩
  | some ticker =>
    let due : Service := { s with now := ticker.due }
    due.leakAll.map fun reply =>
      { reply with
        service := { reply.service with
          scores := { reply.service.scores with ticker := some ticker.next } } }

def serveTicks : Nat → Service → Option (Reply Unit)
  | 0, s => some ⟨(), s, []⟩
  | n + 1, s => do
    let first ← s.serveTick
    let rest ← serveTicks n first.service
    return { rest with effects := first.effects ++ rest.effects }

def advance (s : Service) (length : Time) : Option (Reply Unit) :=
  let target := s.now + length
  let count := s.scores.ticker.elim 0 fun ticker => ticker.countUpTo target
  (serveTicks count s).map fun reply =>
    { reply with service := { reply.service with now := target } }

/-- Time passes at once: if the ticker was due meanwhile, it is served once, at the end. -/
def jump (s : Service) (length : Time) : Option (Reply Unit) :=
  let s : Service := { s with now := s.now + length }
  match s.scores.ticker with
  | none => some ⟨(), s, []⟩
  | some ticker =>
    if s.now < ticker.due then some ⟨(), s, []⟩
    else
      s.leakAll.map fun reply =>
        { reply with
          service := { reply.service with
            scores := { reply.service.scores with ticker := some (ticker.resume s.now) } } }

end Moderation.Service
