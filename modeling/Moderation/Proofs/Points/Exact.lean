import Mathlib.Algebra.Order.Field.Rat
import Mathlib.Tactic.FieldSimp
import Mathlib.Tactic.Linarith
import Mathlib.Tactic.Ring
import Moderation.Proofs.Points.Scoreboard

namespace Moderation.Points

instance : Scalar ℚ where
  zero := 0
  add := (· + ·)
  sub := (· - ·)
  mul := (· * ·)
  div := (· / ·)
  atMost a b := decide (a ≤ b)
  isFinite _ := true
  seconds t := t / 1000

theorem rat_atMost {a b : ℚ} : Scalar.atMost a b = true ↔ a ≤ b := decide_eq_true_iff

instance : OrderedScalar ℚ where
  atMost_trans hab hbc := rat_atMost.2 ((rat_atMost.1 hab).trans (rat_atMost.1 hbc))
  atMost_total {a b} _ _ := by
    rw [rat_atMost, rat_atMost]
    exact le_total a b

theorem floored_eq_max (x : ℚ) : floored x = max 0 x := by
  unfold floored
  split
  · rename_i h
    exact (max_eq_right (rat_atMost.1 h)).symm
  · rename_i h
    rw [rat_atMost] at h
    exact (max_eq_left (le_of_not_ge h)).symm

namespace LeakRate

def speed (r : LeakRate ℚ) : ℚ := if r.interval = 0 then 0 else max 0 (r.points / r.interval)

theorem speed_nonneg (r : LeakRate ℚ) : 0 ≤ r.speed := by
  unfold speed
  split
  · exact le_rfl
  · exact le_max_left _ _

theorem amount_eq (r : LeakRate ℚ) (elapsed : Time) : r.amount elapsed = elapsed * r.speed := by
  unfold amount speed
  split
  · exact (mul_zero _).symm
  · rename_i hinterval
    have hne : (r.interval : ℚ) ≠ 0 := Nat.cast_ne_zero.2 hinterval
    have hratio : r.points * ((elapsed : ℚ) / 1000) / ((r.interval : ℚ) / 1000) =
        elapsed * (r.points / r.interval) := by
      field_simp
    change floored (r.points * ((elapsed : ℚ) / 1000) / ((r.interval : ℚ) / 1000)) = _
    rw [floored_eq_max, hratio, mul_max_of_nonneg _ _ (Nat.cast_nonneg elapsed), mul_zero]

theorem amount_nonneg (r : LeakRate ℚ) (elapsed : Time) : 0 ≤ r.amount elapsed := by
  rw [amount_eq]
  exact mul_nonneg (Nat.cast_nonneg elapsed) r.speed_nonneg

theorem amount_zero (r : LeakRate ℚ) : r.amount 0 = 0 := by
  rw [amount_eq, Nat.cast_zero, zero_mul]

theorem amount_add (r : LeakRate ℚ) (a b : Time) : r.amount (a + b) = r.amount a + r.amount b := by
  rw [amount_eq, amount_eq, amount_eq, Nat.cast_add, add_mul]

end LeakRate

namespace Record

variable {β : Type} (r : Record ℚ β) (rate : LeakRate ℚ)

theorem leaked_eq (now : Time) :
    r.leaked rate now = max 0 (r.points - rate.amount (now - r.lastUpdate)) :=
  floored_eq_max _

theorem leaked_later {t u : Time} (ht : r.lastUpdate ≤ t) (htu : t ≤ u) :
    r.leaked rate u = max 0 (r.leaked rate t - rate.amount (u - t)) := by
  have helapsed : u - r.lastUpdate = t - r.lastUpdate + (u - t) := by
    rw [Nat.add_comm, Nat.sub_add_sub_cancel htu ht]
  have hnonneg := rate.amount_nonneg (u - t)
  rw [leaked_eq, leaked_eq, helapsed, rate.amount_add]
  rcases le_total 0 (r.points - rate.amount (t - r.lastUpdate)) with h | h
  · rw [max_eq_right h]
    congr 1
    ring
  · -- Once the score is zero, nothing is left to be lost.
    rw [max_eq_left h, max_eq_left (by linarith), max_eq_left (by linarith)]

end Record

namespace Table

variable {β : Type}

theorem level_floored_le {t : Table ℚ β} (ht : t.Valid) {x y : ℚ} (hxy : x ≤ y) :
    t.level (max 0 x) ≤ t.level y := by
  rcases le_total 0 x with h | h
  · rw [max_eq_right h]
    exact level_le_level ht (rat_atMost.2 hxy)
  · have hzero : t.level 0 = 0 := level_zero ht
    rw [max_eq_left h, hzero]
    exact Nat.zero_le _

end Table

end Moderation.Points
