import Mathlib.Order.Interval.Finset.Nat
import Moderation.Proofs.Points.Scoreboard

/-!
The time that is charged to a record. A call charges the time from the last change of the record to its own moment,
and that moment becomes the last change whatever came before. A call that comes late, with a moment before the last
change, therefore sets the record back, and the time it is set back over is charged once more by later calls.
-/

namespace Moderation.Points

variable {α β : Type}

inductive Touch (α β : Type) where
  | leak (rate : LeakRate α)
  | tick (s : Settings α β)
  | update (delta : α) (s : Settings α β)

theorem mem_Ico_balance (a b m : Nat) :
    (if m ∈ Finset.Ico a b then 1 else 0) + (if m < a then 1 else 0) =
      (if m ∈ Finset.Ico b a then 1 else 0) + if m < b then 1 else 0 := by
  simp only [Finset.mem_Ico]
  split_ifs <;> omega

theorem eq_mem_Ico_of_add {n a b m : Nat} (h : n + (if m < a then 1 else 0) = if m < b then 1 else 0) :
    n = if m ∈ Finset.Ico a b then 1 else 0 := by
  simp only [Finset.mem_Ico]
  split_ifs at h ⊢ <;> omega

def duration : List (Finset Time) → Nat
  | [] => 0
  | stretch :: stretches => stretch.card + duration stretches

namespace Record

def charged (r : Record α β) (now : Time) : Finset Time := Finset.Ico r.lastUpdate now

def setBack (r : Record α β) (now : Time) : Finset Time := Finset.Ico now r.lastUpdate

variable [Scalar α]

theorem leaked_eq_charged (r : Record α β) (rate : LeakRate α) (now : Time) :
    r.leaked rate now = floored (Scalar.sub r.points (rate.amount (r.charged now).card)) := by
  rw [charged, Nat.card_Ico, leaked]

def touch (r : Record α β) (now : Time) : Touch α β → Record α β
  | .leak rate => r.leak rate now
  | .tick s => (r.tick s now).1
  | .update delta s => (r.update delta s now).1

theorem lastUpdate_touch (r : Record α β) (now : Time) (c : Touch α β) : (r.touch now c).lastUpdate = now := by
  cases c <;> rfl

/-- A record after a sequence of calls, each with the moment at which its caller has read the clock. -/
def after (r : Record α β) : List (Time × Touch α β) → Record α β
  | [] => r
  | (now, c) :: calls => (r.touch now c).after calls

def states (r : Record α β) : List (Time × Touch α β) → List (Record α β)
  | [] => [r]
  | (now, c) :: calls => r :: (r.touch now c).states calls

def charges (r : Record α β) : List (Time × Touch α β) → List (Finset Time)
  | [] => []
  | (now, c) :: calls => r.charged now :: (r.touch now c).charges calls

def setBacks (r : Record α β) : List (Time × Touch α β) → List (Finset Time)
  | [] => []
  | (now, c) :: calls => r.setBack now :: (r.touch now c).setBacks calls

variable (r : Record α β) (calls : List (Time × Touch α β))

theorem lastUpdate_states :
    (r.states calls).map (·.lastUpdate) = r.lastUpdate :: calls.map Prod.fst := by
  induction calls generalizing r with
  | nil => rfl
  | cons call calls ih =>
    obtain ⟨now, c⟩ := call
    rw [states, List.map_cons, ih, lastUpdate_touch, List.map_cons]

theorem count_charges (m : Time) :
    (r.charges calls).countP (m ∈ ·) + (if m < r.lastUpdate then 1 else 0) =
      (r.setBacks calls).countP (m ∈ ·) + if m < (r.after calls).lastUpdate then 1 else 0 := by
  induction calls generalizing r with
  | nil => rfl
  | cons call calls ih =>
    obtain ⟨now, c⟩ := call
    have hcall := mem_Ico_balance r.lastUpdate now m
    have hrest := ih (r.touch now c)
    rw [lastUpdate_touch] at hrest
    rw [charges, setBacks, after, List.countP_cons, List.countP_cons, charged, setBack]
    simp only [decide_eq_true_iff]
    omega

theorem duration_charges :
    duration (r.charges calls) + r.lastUpdate = duration (r.setBacks calls) + (r.after calls).lastUpdate := by
  induction calls generalizing r with
  | nil => rfl
  | cons call calls ih =>
    obtain ⟨now, c⟩ := call
    have hrest := ih (r.touch now c)
    rw [lastUpdate_touch] at hrest
    simp only [charges, setBacks, after, duration, charged, setBack, Nat.card_Ico]
    omega

def InOrder : Prop := (r.lastUpdate :: calls.map Prod.fst).Pairwise (· ≤ ·)

theorem count_setBacks_of_inOrder (h : r.InOrder calls) (m : Time) :
    (r.setBacks calls).countP (m ∈ ·) = 0 := by
  induction calls generalizing r with
  | nil => rfl
  | cons call calls ih =>
    obtain ⟨now, c⟩ := call
    rw [InOrder, List.map_cons, List.pairwise_cons] at h
    have hempty : r.setBack now = ∅ := Finset.Ico_eq_empty_of_le (h.1 now List.mem_cons_self)
    have hrest := ih (r.touch now c) (by rw [InOrder, lastUpdate_touch]; exact h.2)
    rw [setBacks, hempty, List.countP_cons_of_neg (by simp), hrest]

theorem count_charges_of_inOrder (h : r.InOrder calls) (m : Time) :
    (r.charges calls).countP (m ∈ ·) = if m ∈ r.charged (r.after calls).lastUpdate then 1 else 0 := by
  have hcount := r.count_charges calls m
  rw [count_setBacks_of_inOrder r calls h, Nat.zero_add] at hcount
  exact eq_mem_Ico_of_add hcount

/-- The last change follows the moments of the calls, in whatever order they come. While they are in order each moment
is charged once. What is charged too often, moment by moment and altogether, is what the record was set back over. -/
theorem charges_and_setBacks :
    (∀ rate now, r.leaked rate now = floored (Scalar.sub r.points (rate.amount (r.charged now).card))) ∧
    (((r.states calls).map (·.lastUpdate)).Pairwise (· ≤ ·) ↔ r.InOrder calls) ∧
    (r.InOrder calls → ∀ m,
      (r.charges calls).countP (m ∈ ·) = if m ∈ r.charged (r.after calls).lastUpdate then 1 else 0) ∧
    (∀ m, (r.charges calls).countP (m ∈ ·) + (if m < r.lastUpdate then 1 else 0) =
      (r.setBacks calls).countP (m ∈ ·) + if m < (r.after calls).lastUpdate then 1 else 0) ∧
    duration (r.charges calls) + r.lastUpdate = duration (r.setBacks calls) + (r.after calls).lastUpdate := by
  refine ⟨r.leaked_eq_charged, ?_, r.count_charges_of_inOrder calls, r.count_charges calls,
    r.duration_charges calls⟩
  rw [lastUpdate_states]
  rfl

section Late

def steady : Settings Float Unit := ⟨⟨1, 1000⟩, ⟨1, .empty⟩⟩

/-- Twenty points at one point in a second, touched at ten seconds, then by a caller who has read five seconds, then
at ten seconds again: the five seconds in between are charged twice, and five points are left of ten. -/
theorem charges_and_setBacks_lateCaller :
    let r : Record Float Unit := ⟨20, 0, 0, ⟨1, .empty⟩⟩
    let calls := [(10000, .update 0 steady), (5000, .tick steady), (10000, .tick steady)]
    ¬((r.states calls).map (·.lastUpdate)).Pairwise (· ≤ ·) ∧
    (r.charges calls).countP (7000 ∈ ·) = 2 ∧
    (r.after calls).points = 5 ∧ r.leaked steady.leak 10000 = 10 := by
  intro r calls
  obtain ⟨-, horder, -, hcount, -⟩ := r.charges_and_setBacks calls
  refine ⟨?_, ?_, by decide +kernel, by decide +kernel⟩
  · rw [horder, InOrder]
    decide
  · have hback : (r.setBacks calls).countP (7000 ∈ ·) = 1 := by decide +kernel
    have hcount := hcount 7000
    rw [hback] at hcount
    simpa [r, calls, after, lastUpdate_touch] using hcount

end Late

end Record

end Moderation.Points
