import Mathlib.Data.Prod.Lex
import Mathlib.Order.Compare
import Moderation.Points.Scalar

open Float.Model (UnpackedFloat)

namespace Moderation.Points

class OrderedScalar (α : Type) [Scalar α] : Prop where
  atMost_trans {a b c : α} : Scalar.atMost a b = true → Scalar.atMost b c = true →
    Scalar.atMost a c = true
  atMost_total {a b : α} : Scalar.isFinite a = true → Scalar.isFinite b = true →
    Scalar.atMost a b = true ∨ Scalar.atMost b a = true

/-- Where an unpacked number stands among all others; a value that is no number stands nowhere. -/
def place : UnpackedFloat → Option (ℤ ×ₗ ℤ ×ₗ ℤ)
  | .notANumber => none
  | .infinity .negative => some (toLex (-2, toLex (0, 0)))
  | .finite .negative m e _ => some (toLex (-1, toLex (-e, -m)))
  | .zero _ => some (toLex (0, toLex (0, 0)))
  | .finite .positive m e _ => some (toLex (1, toLex (e, m)))
  | .infinity .positive => some (toLex (2, toLex (0, 0)))

theorem isLE_compare_then (e e' : ℤ) (m m' : Nat) :
    ((compare e e').then (compare m m')).isLE = true ↔ e < e' ∨ e = e' ∧ m ≤ m' := by
  rw [Ordering.isLE_then_iff_or, compare_lt_iff_lt, compare_eq_iff_eq, Nat.isLE_compare]

theorem isGE_compare_then (e e' : ℤ) (m m' : Nat) :
    ((compare e e').then (compare m m')).isGE = true ↔ e' < e ∨ e = e' ∧ m' ≤ m := by
  rw [← Ordering.isLE_swap, Ordering.swap_then, Int.compare_swap, Nat.compare_swap,
    isLE_compare_then, eq_comm]

theorem unpacked_le_iff (a b : UnpackedFloat) :
    a.le b = true ↔ ∃ p ∈ place a, ∃ q ∈ place b, p ≤ q := by
  rcases a with (_ | _) | _ | _ | ⟨(_ | _), m, e, hm⟩ <;>
    rcases b with (_ | _) | _ | _ | ⟨(_ | _), m', e', hm'⟩ <;>
    dsimp only [UnpackedFloat.le, UnpackedFloat.compare, place] <;>
    simp [Prod.Lex.toLex_le_toLex, isLE_compare_then, isGE_compare_then]
  all_goals rfl

theorem unpacked_le_trans {a b c : UnpackedFloat} (hab : a.le b = true) (hbc : b.le c = true) :
    a.le c = true := by
  obtain ⟨p, hp, q, hq, hpq⟩ := (unpacked_le_iff a b).1 hab
  obtain ⟨q', hq', r, hr, hqr⟩ := (unpacked_le_iff b c).1 hbc
  obtain rfl : q = q' := Option.mem_unique hq hq'
  exact (unpacked_le_iff a c).2 ⟨p, hp, r, hr, hpq.trans hqr⟩

theorem exists_place {a : UnpackedFloat} (h : a.isFinite = true) : ∃ p, p ∈ place a := by
  rcases a with (_ | _) | _ | _ | ⟨(_ | _), m, e, hm⟩
  all_goals first
    | exact ⟨_, rfl⟩
    | cases h

theorem unpacked_le_total {a b : UnpackedFloat} (ha : a.isFinite = true) (hb : b.isFinite = true) :
    a.le b = true ∨ b.le a = true := by
  obtain ⟨p, hp⟩ := exists_place ha
  obtain ⟨q, hq⟩ := exists_place hb
  rcases le_total p q with hpq | hqp
  · exact .inl ((unpacked_le_iff a b).2 ⟨p, hp, q, hq, hpq⟩)
  · exact .inr ((unpacked_le_iff b a).2 ⟨q, hq, p, hp, hqp⟩)

theorem float_atMost (a b : Float) :
    Scalar.atMost a b = a.toModel.unpack.le b.toModel.unpack := by
  change decide (decide (a.toModel.unpack.le b.toModel.unpack = true) = true) = _
  rw [Bool.decide_eq_true, Bool.decide_eq_true]

instance : OrderedScalar Float where
  atMost_trans {a b c} hab hbc := by
    rw [float_atMost] at hab hbc ⊢
    exact unpacked_le_trans hab hbc
  atMost_total {a b} ha hb := by
    rw [float_atMost, float_atMost]
    exact unpacked_le_total ha hb

end Moderation.Points
