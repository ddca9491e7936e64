import Moderation.Author
import Moderation.Points.Record
import Moderation.Points.Ticker

namespace Moderation.Points

/-- An author's record, with the author as they were when it was made. -/
structure Entry (α β : Type) where
  author : Author
  record : Record α β

/-- Settings stay when scoring is turned off; records do not. -/
structure Scoreboard (α β : Type) where
  enabled : Bool
  settings : Settings α β
  entries : List (String × Entry α β)
  ticker : Option Ticker
  nextStamp : Nat

namespace Scoreboard

variable {α β : Type}

def find? (b : Scoreboard α β) (id : String) : Option (Entry α β) := b.entries.lookup id

/-- Puts a record in the place of the one with the same id, or behind all others. -/
def store (b : Scoreboard α β) (id : String) (e : Entry α β) : Scoreboard α β :=
  let entries :=
    if b.entries.any (fun x => x.1 == id) then
      b.entries.map fun x => if x.1 == id then (id, e) else x
    else b.entries ++ [(id, e)]
  { b with entries := entries }

def ids (b : Scoreboard α β) : List String := b.entries.map Prod.fst

def tracked (b : Scoreboard α β) : Nat := b.entries.length

def isLeaking (b : Scoreboard α β) : Bool := b.ticker.isSome

/-- Turns scoring on, or puts other settings in force. Scores stay, and no threshold is crossed: each
record moves to the new table the next time it is touched. -/
def enable (b : Scoreboard α β) (leak : LeakRate α) (table : Table α β) (now : Time) :
    Scoreboard α β :=
  { b with
    enabled := true
    settings := ⟨leak, ⟨b.nextStamp, table⟩⟩
    ticker := some (.start leak.interval now)
    nextStamp := b.nextStamp + 1 }

def disable (b : Scoreboard α β) : Scoreboard α β :=
  { b with enabled := false, entries := [], ticker := none }

variable [Scalar α]

def entryFor (b : Scoreboard α β) (author : Author) (now : Time) : Entry α β :=
  (b.find? author.id).getD ⟨author, .fresh b.settings.installed now⟩

def add (b : Scoreboard α β) (author : Author) (delta : α) (now : Time) :
    Scoreboard α β × List Crossing × α :=
  let e := b.entryFor author now
  let (r, crossed) := e.record.update delta b.settings now
  (b.store author.id { e with record := r }, crossed, r.points)

def tick (b : Scoreboard α β) (id : String) (now : Time) :
    Scoreboard α β × Option (Author × List Crossing) :=
  match b.find? id with
  | none => (b, none)
  | some e =>
    let (r, crossed) := e.record.tick b.settings now
    (b.store id { e with record := r }, some (e.author, crossed))

def points (b : Scoreboard α β) (id : String) (now : Time) : α :=
  (b.find? id).elim Scalar.zero fun e => e.record.leaked b.settings.leak now

/-- Forgets an author whose score has leaked to zero. Tells whether a record was dropped. -/
def release (b : Scoreboard α β) (id : String) (now : Time) : Scoreboard α β × Bool :=
  match b.find? id with
  | none => (b, false)
  | some e =>
    if Scalar.atMost (e.record.leaked b.settings.leak now) Scalar.zero then
      ({ b with entries := b.entries.filter (fun x => x.1 != id) }, true)
    else (b, false)

end Scoreboard

def Scoreboard.initial {β : Type} : Scoreboard Float β :=
  ⟨false, ⟨.standard, ⟨0, .empty⟩⟩, [], none, 1⟩

end Moderation.Points
