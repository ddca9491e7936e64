import Moderation.Points.Record
import Moderation.Proofs.Points.FloatOrder

/-!
Scores at a standstill. Over no time nothing leaks, at whatever rate: the loss is zero, and taking zero away
changes nothing but the sign of zero.
-/

open Float.Model (UnpackedFloat Format)

namespace Moderation.Points

def IsZero (x : Float) : Prop := ∃ sign, x.toModel.unpack = .zero sign

/-- What a product with zero may be: zero or no number. -/
def Vanishes (x : Float) : Prop := x.toModel.unpack = .notANumber ∨ IsZero x

theorem unpack_mul (x y : Float) : (Scalar.mul x y).toModel.unpack =
    (Float.Model.pack (.mul .binary64 x.toModel.unpack y.toModel.unpack)).unpack := rfl

theorem unpack_div (x y : Float) : (Scalar.div x y).toModel.unpack =
    (Float.Model.pack (.div .binary64 x.toModel.unpack y.toModel.unpack)).unpack := rfl

theorem sub_toModel (x y : Float) : (Scalar.sub x y).toModel =
    Float.Model.pack (.sub .binary64 x.toModel.unpack y.toModel.unpack) := rfl

theorem unpack_pack_zero (sign : UnpackedFloat.Sign) :
    (Float.Model.pack (.zero sign)).unpack = .zero sign := by
  cases sign <;> rfl

theorem unpack_pack_notANumber : (Float.Model.pack .notANumber).unpack = .notANumber := rfl

theorem vanishes_mul (x : Float) {y : Float} (hy : IsZero y) : Vanishes (Scalar.mul x y) := by
  obtain ⟨sign, hy⟩ := hy
  unfold Vanishes IsZero
  rw [unpack_mul, hy]
  cases x.toModel.unpack with
  | notANumber => exact .inl unpack_pack_notANumber
  | infinity => exact .inl unpack_pack_notANumber
  | zero => exact .inr ⟨_, unpack_pack_zero _⟩
  | finite => exact .inr ⟨_, unpack_pack_zero _⟩

theorem Vanishes.div {x : Float} (hx : Vanishes x) (y : Float) : Vanishes (Scalar.div x y) := by
  unfold Vanishes IsZero
  rw [unpack_div]
  rcases hx with hx | ⟨sign, hx⟩
  · rw [hx]
    exact .inl unpack_pack_notANumber
  · rw [hx]
    cases y.toModel.unpack with
    | notANumber => exact .inl unpack_pack_notANumber
    | infinity => exact .inr ⟨_, unpack_pack_zero _⟩
    | zero => exact .inl unpack_pack_notANumber
    | finite => exact .inr ⟨_, unpack_pack_zero _⟩

theorem isZero_zero : IsZero Scalar.zero := ⟨.positive, rfl⟩

theorem isZero_floored {x : Float} (hx : Vanishes x) : IsZero (floored x) := by
  unfold floored
  split
  case isTrue h =>
    refine hx.resolve_left fun hnan => ?_
    rw [float_atMost, hnan] at h
    cases h
  case isFalse => exact isZero_zero

theorem isZero_seconds : IsZero (Scalar.seconds 0) := ⟨.positive, rfl⟩

theorem isZero_amount (rate : LeakRate Float) : IsZero (rate.amount 0) := by
  unfold LeakRate.amount
  split
  · exact isZero_zero
  · exact isZero_floored ((vanishes_mul _ isZero_seconds).div _)

theorem isSame_of_isZero {x y : Float} (hx : IsZero x) (hy : IsZero y) : isSame x y = true := by
  obtain ⟨s, hx⟩ := hx
  obtain ⟨t, hy⟩ := hy
  rw [isSame, float_atMost, float_atMost, hx, hy]
  cases s <;> cases t <;> rfl

theorem floored_nonneg (x : Float) : Scalar.atMost Scalar.zero (floored x) = true := by
  unfold floored
  split
  · assumption
  · rfl

theorem placed_of_nonneg {x : Float} (hx : Scalar.atMost Scalar.zero x = true) :
    ∃ p, p ∈ place x.toModel.unpack := by
  obtain ⟨-, -, p, hp, -⟩ := (unpacked_le_iff _ _).1 (float_atMost _ _ ▸ hx)
  exact ⟨p, hp⟩

theorem isSame_refl_of_nonneg {x : Float} (hx : Scalar.atMost Scalar.zero x = true) :
    isSame x x = true := by
  obtain ⟨p, hp⟩ := placed_of_nonneg hx
  have hle : Scalar.atMost x x = true := by
    rw [float_atMost]
    exact (unpacked_le_iff _ _).2 ⟨p, hp, p, hp, le_rfl⟩
  rw [isSame, hle, Bool.and_self]

theorem unpacked_sub_zero (spec : Format) {u : UnpackedFloat} (hu : ∀ sign, u ≠ .zero sign)
    (sign : UnpackedFloat.Sign) : UnpackedFloat.sub spec u (.zero sign) = u := by
  cases u with
  | zero sign => exact absurd rfl (hu sign)
  | _ => rfl

theorem isZero_or_sub_eq (p : Float) {x y : Float} (hx : IsZero x) (hy : IsZero y) :
    IsZero (Scalar.sub p x) ∧ IsZero (Scalar.sub p y) ∨ Scalar.sub p x = Scalar.sub p y := by
  obtain ⟨s, hx⟩ := hx
  obtain ⟨t, hy⟩ := hy
  by_cases hp : IsZero p
  · obtain ⟨u, hp⟩ := hp
    refine .inl ⟨?_, ?_⟩
    · unfold IsZero
      rw [sub_toModel, hp, hx]
      cases u <;> cases s <;> exact ⟨_, rfl⟩
    · unfold IsZero
      rw [sub_toModel, hp, hy]
      cases u <;> cases t <;> exact ⟨_, rfl⟩
  · have hsub := unpacked_sub_zero .binary64 (u := p.toModel.unpack) fun sign h => hp ⟨sign, h⟩
    have hunpacked : UnpackedFloat.sub .binary64 p.toModel.unpack x.toModel.unpack =
        UnpackedFloat.sub .binary64 p.toModel.unpack y.toModel.unpack := by
      rw [hx, hy, hsub s, hsub t]
    exact .inr (congrArg (fun u => Float.ofModel (Float.Model.pack u)) hunpacked)

theorem Record.isSame_leaked {β : Type} (r : Record Float β) (rate rate' : LeakRate Float) :
    isSame (r.leaked rate r.lastUpdate) (r.leaked rate' r.lastUpdate) = true := by
  have hamount := fun rate : LeakRate Float => (Nat.sub_self r.lastUpdate).symm ▸ isZero_amount rate
  rcases isZero_or_sub_eq r.points (hamount rate) (hamount rate') with ⟨hx, hy⟩ | heq
  · exact isSame_of_isZero (isZero_floored (.inr hx)) (isZero_floored (.inr hy))
  · unfold Record.leaked
    rw [heq]
    exact isSame_refl_of_nonneg (floored_nonneg _)

end Moderation.Points
