import Moderation.Points.Scalar

namespace Moderation.Points

structure Threshold (α β : Type) where
  name : String
  points : α
  ascending : List β
  descending : List β
  deriving Repr

structure Table (α β : Type) where
  sorted : List (Threshold α β)
  deriving Repr

inductive TableFault (α : Type) where
  | notPositive (name : String) (points : α)
  | shared (first second : String) (points : α)
  deriving DecidableEq, Repr

namespace Table

variable {α β : Type}

def empty : Table α β := ⟨[]⟩

def size (t : Table α β) : Nat := t.sorted.length

def get? (t : Table α β) (index : Nat) : Option (Threshold α β) := t.sorted[index]?

variable [Scalar α]

def sharing? : List (Threshold α β) → Option (Threshold α β × Threshold α β)
  | a :: b :: rest => if isSame a.points b.points then some (a, b) else sharing? (b :: rest)
  | _ => none

def ofList (ts : List (Threshold α β)) : Except (TableFault α) (Table α β) :=
  match ts.find? (fun t => !isPositive t.points) with
  | some bad => .error (.notPositive bad.name bad.points)
  | none =>
    let sorted := ts.mergeSort (fun a b => Scalar.atMost a.points b.points)
    match sharing? sorted with
    | some (a, b) => .error (.shared a.name b.name a.points)
    | none => .ok ⟨sorted⟩

def level (t : Table α β) (score : α) : Nat :=
  (t.sorted.takeWhile fun h => Scalar.atMost h.points score).length

end Table

end Moderation.Points
