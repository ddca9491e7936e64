import Moderation.Proofs.Points.Scoreboard

/-!
Ledgers: a scoreboard together with every crossing that was met, in order. What is posted to a ledger is points
for an author or a tick, which leaks records one after another in some order.
-/

namespace Moderation.Points

namespace Record

variable {α β : Type} [Scalar α] {r : Record α β} {s : Settings α β}

theorem tick_eq (h : r.installed.stamp = s.installed.stamp) (now : Time) :
    r.tick s now =
      let score := r.leaked s.leak now
      let level := s.installed.table.level score
      (⟨score, now, level, r.installed⟩, crossings r.level level) := by
  rw [tick, rebase_of_stamp_eq h]
  rfl

theorem update_eq (h : r.installed.stamp = s.installed.stamp) (delta : α) (now : Time) :
    r.update delta s now =
      let score := r.leaked s.leak now
      let level := s.installed.table.level score
      let score' := floored (Scalar.add score delta)
      let level' := s.installed.table.level score'
      (⟨score', now, level', r.installed⟩, crossings r.level level ++ crossings level level') := by
  rw [update, tick_eq h]
  rfl

end Record

theorem Scoreboard.mem_ids_of_find? {α β : Type} {b : Scoreboard α β} {id : String} {e : Entry α β}
    (h : b.find? id = some e) : id ∈ b.ids := by
  obtain ⟨before, behind, hentries, -⟩ := List.lookup_eq_some_iff.1 h
  rw [ids, hentries]
  simp

inductive Posting (α : Type) where
  | add (author : Author) (delta : α)
  | tick (order : List String)

structure Ledger (α β : Type) where
  board : Scoreboard α β
  crossed : List (String × Crossing)

namespace Ledger

variable {α β : Type}

def opening (board : Scoreboard α β) : Ledger α β := ⟨board, []⟩

def crossedFor (l : Ledger α β) (id : String) : List Crossing :=
  l.crossed.filterMap fun x => if x.1 = id then some x.2 else none

def post (l : Ledger α β) (board : Scoreboard α β) (id : String) (cs : List Crossing) : Ledger α β :=
  ⟨board, l.crossed ++ cs.map fun c => (id, c)⟩

theorem crossedFor_post (l : Ledger α β) (board : Scoreboard α β) (id id' : String)
    (cs : List Crossing) :
    (l.post board id cs).crossedFor id' =
      if id' = id then l.crossedFor id' ++ cs else l.crossedFor id' := by
  rw [crossedFor, post, List.filterMap_append, List.filterMap_map]
  by_cases hid : id' = id
  · have hall : ((fun x : String × Crossing => if x.1 = id' then some x.2 else none) ∘
        fun c => (id, c)) = some := funext fun c => if_pos hid.symm
    rw [hall, List.filterMap_some, if_pos hid, crossedFor]
  · have hnone : ((fun x : String × Crossing => if x.1 = id' then some x.2 else none) ∘
        fun c => (id, c)) = fun _ => none := funext fun c => if_neg fun h => hid h.symm
    rw [hnone, if_neg hid, crossedFor]
    simp

variable [Scalar α]

def add (l : Ledger α β) (author : Author) (delta : α) (now : Time) : Ledger α β :=
  let (board, cs, _) := l.board.add author delta now
  l.post board author.id cs

def tickOne (now : Time) (l : Ledger α β) (id : String) : Ledger α β :=
  match l.board.tick id now with
  | (_, none) => l
  | (board, some (author, cs)) => l.post board author.id cs

def perform (now : Time) (l : Ledger α β) : Posting α → Ledger α β
  | .add author delta => l.add author delta now
  | .tick order => order.foldl (tickOne now) l

def run (l : Ledger α β) (postings : List (Time × Posting α)) : Ledger α β :=
  postings.foldl (fun l p => l.perform p.1 p.2) l

theorem run_append (l : Ledger α β) (ps qs : List (Time × Posting α)) :
    l.run (ps ++ qs) = (l.run ps).run qs := List.foldl_append

end Ledger

end Moderation.Points
