import Moderation.Proofs.Points.Rounding

open Float.Model (UnpackedFloat Format)
open Float.Model.UnpackedFloat (Sign roundWithAccuracy decreaseExponent)

namespace Moderation.Points

section Negation

theorem unpack_pack_stored {u : UnpackedFloat} (hu : ∀ {s m e h}, u = .finite s m e h → Storable m e) :
    (Float.Model.pack u).unpack = u := by
  cases u with
  | notANumber => exact unpack_pack_notANumber
  | infinity s => exact unpack_pack_infinity s
  | zero s => exact unpack_pack_zero s
  | finite s m e h => exact unpack_pack (hu rfl) s h

theorem unpack_neg (x : Float) : (-x).toModel.unpack = x.toModel.unpack.neg := by
  refine unpack_pack_stored fun {s m e h} heq => ?_
  generalize hu : x.toModel.unpack = u at heq
  cases u with
  | finite s' m' e' h' =>
    obtain ⟨-, rfl, rfl⟩ := UnpackedFloat.finite.inj heq
    exact storable_of_unpack hu
  | _ => cases heq

theorem apply_neg (s : Sign) (x : ℤ) : (-s).apply x = -s.apply x := by
  cases s with
  | positive => rfl
  | negative => exact (neg_neg x).symm

theorem unpacked_add_eq_sub (spec : Format) (u v : UnpackedFloat) :
    UnpackedFloat.add spec u v = UnpackedFloat.sub spec u v.neg := by
  rcases u with (_ | _) | _ | (_ | _) | ⟨s, m, e, hm⟩ <;>
    rcases v with (_ | _) | _ | (_ | _) | ⟨s', m', e', hm'⟩ <;> try rfl
  all_goals simp only [UnpackedFloat.add, UnpackedFloat.sub, UnpackedFloat.neg, apply_neg, sub_neg_eq_add]
  all_goals cases s' <;> rfl

theorem add_eq_sub_neg (x y : Float) : Scalar.add x y = Scalar.sub x (-y) := by
  have hmodel : (Scalar.add x y).toModel = (Scalar.sub x (-y)).toModel := by
    rw [sub_toModel, unpack_neg, ← unpacked_add_eq_sub]
    rfl
  exact congrArg Float.ofModel hmodel

theorem zero_atMost_neg {x : Float} (h : Scalar.atMost x Scalar.zero = true) :
    Scalar.atMost Scalar.zero (-x) = true := by
  rw [float_atMost] at h ⊢
  rw [unpack_neg]
  generalize x.toModel.unpack = u at h ⊢
  rcases u with (_ | _) | _ | _ | ⟨(_ | _), m, e, hm⟩
  all_goals first
    | rfl
    | cases h

theorem floored_add_atMost {x y : Float} (hx : Scalar.atMost Scalar.zero x = true)
    (hy : Scalar.atMost y Scalar.zero = true) : Scalar.atMost (floored (Scalar.add x y)) x = true := by
  rw [add_eq_sub_neg]
  exact floored_sub_atMost hx (zero_atMost_neg hy)

end Negation

section Sums

/-- A mantissa as it is rounded, and an exponent that may be too high to be stored. -/
structure Rounded (m : Nat) (e : ℤ) : Prop where
  lt : m < 2 ^ 53
  low : -1074 ≤ e
  full : 2 ^ 52 ≤ m ∨ e = -1074

theorem unpack_pack_rounded {m : Nat} {e : ℤ} (h : Rounded m e) (hm : 0 < m) :
    (Float.Model.pack (.finite .positive m e hm)).unpack = .finite .positive m e hm ∨
      (Float.Model.pack (.finite .positive m e hm)).unpack = .infinity .positive := by
  by_cases hhigh : e ≤ 971
  · exact .inl (unpack_pack ⟨h.lt, h.low, hhigh, h.full⟩ .positive hm)
  · refine .inr ?_
    have hbiased : (e + (Format.binary64.exponentBias : ℤ) + (52 : Nat)).toNat = (e + 1075).toNat := by
      have hbias : (Format.binary64.exponentBias : ℤ) = 1023 := rfl
      omega
    have hover : 2 ^ 11 ≤ (e + 1075).toNat + 1 := by omega
    have hpack : UnpackedFloat.pack .binary64 (.finite .positive m e hm) =
        UnpackedFloat.packedInfinity .binary64 .positive := by
      rw [UnpackedFloat.pack]
      simp only [hbiased, hover, if_true]
    change UnpackedFloat.unpack .binary64 (UnpackedFloat.pack .binary64 (.finite .positive m e hm)) = _
    rw [hpack]
    exact unpack_pack_infinity .positive

def Beyond (m : Nat) (e : ℤ) (u : UnpackedFloat) : Prop :=
  ∃ m' e' h, u = .finite .positive m' e' h ∧ Rounded m' e' ∧ (e < e' ∨ e = e' ∧ m ≤ m')

theorem beyond_roundWithAccuracy {m m₁ n : Nat} {e t e₁ : ℤ} (h : Storable m₁ e₁) (hm₁ : 0 < m₁) (hm : 0 < m)
    (ht : t = max ((m.log2 : ℤ) + e - 52) (-1074)) (hn : e + n = t) (hle : e₁ ≤ t)
    (hbound : t = e₁ → m₁ * 2 ^ n ≤ m) : Beyond m₁ e₁ (roundWithAccuracy .binary64 .positive m e .exact) := by
  have hlow := h.low
  rcases roundWithAccuracy_cases .positive hm ht hn with ⟨q, hq, hlt, hfull, hround⟩ | ⟨-, hround⟩
  · have hequal : t = e₁ → m₁ ≤ q := fun heq => hq ▸ le_rounded (hbound heq)
    have hpos : q ≠ 0 := by
      rcases hle.lt_or_eq with habove | heq
      · have := hfull (by omega)
        omega
      · have := hequal heq.symm
        omega
    rw [hround, dif_neg hpos]
    refine ⟨_, _, _, rfl, ⟨hlt, by omega, by omega⟩, ?_⟩
    rcases hle.lt_or_eq with habove | heq
    · exact .inl habove
    · exact .inr ⟨heq, hequal heq.symm⟩
  · rw [hround]
    exact ⟨_, _, _, rfl, ⟨by decide, by omega, .inl le_rfl⟩, .inl (by omega)⟩

theorem beyond_round {m m₁ : Nat} {e e₁ : ℤ} (h : Storable m₁ e₁) (hm₁ : 0 < m₁) (he : e ≤ e₁)
    (hle : m₁ * 2 ^ (e₁ - e).toNat ≤ m) : Beyond m₁ e₁ (UnpackedFloat.round .binary64 .positive m e) := by
  have hm : 0 < m := (Nat.mul_pos hm₁ (Nat.two_pow_pos _)).trans_le hle
  obtain ⟨t, ht⟩ : ∃ t, t = max ((m.log2 : ℤ) + e - 52) (-1074) := ⟨_, rfl⟩
  obtain ⟨k, hk⟩ : ∃ k, k = (e - t).toNat := ⟨_, rfl⟩
  have hlog : 2 ^ 52 ≤ m₁ → 52 + e₁ ≤ (m.log2 : ℤ) + e := by
    intro hfull
    have hpow : 2 ^ (52 + (e₁ - e).toNat) ≤ m := by
      rw [pow_add]
      exact (Nat.mul_le_mul_right _ hfull).trans hle
    have := (Nat.le_log2 hm.ne').2 hpow
    omega
  have htarget : e₁ ≤ t := by
    rcases h.full with hfull | hlow
    · have := hlog hfull
      omega
    · omega
  rw [round_eq .positive ht hk]
  apply beyond_roundWithAccuracy (n := (t - (e - k)).toNat) (t := t) h hm₁ (Nat.mul_pos hm (Nat.two_pow_pos k))
  · exact ht.trans (target_mul_two_pow hm e k)
  · omega
  · exact htarget
  · intro hequal
    have hzero : k = 0 := by omega
    subst hzero
    rw [show (t - (e - (0 : Nat))).toNat = (e₁ - e).toNat by omega]
    simpa using hle

theorem stored_sum {m₁ m₂ : Nat} {e₁ e₂ : ℤ} (h₁ : Storable m₁ e₁) (hm₁ : 0 < m₁) (hm₂ : 0 < m₂) :
    UnpackedFloat.le (.finite .positive m₁ e₁ hm₁)
      (Float.Model.pack (UnpackedFloat.add .binary64 (.finite .positive m₁ e₁ hm₁)
        (.finite .positive m₂ e₂ hm₂))).unpack = true := by
  simp only [UnpackedFloat.add, decreaseExponent, Sign.apply, UnpackedFloat.normalize, Nat.shiftLeft_eq]
  obtain ⟨e, he⟩ : ∃ e, e = min e₁ e₂ := ⟨_, rfl⟩
  rw [← he]
  obtain ⟨d, hd⟩ : ∃ d : ℤ, d = ((m₁ * 2 ^ (e₁ - e).toNat : Nat) : ℤ) + (m₂ * 2 ^ (e₂ - e).toNat : Nat) :=
    ⟨_, rfl⟩
  have hfirst : 0 < m₁ * 2 ^ (e₁ - e).toNat := Nat.mul_pos hm₁ (Nat.two_pow_pos _)
  have hpos : compare d 0 = .gt := compare_gt_iff_gt.2 (by omega)
  rw [← hd, hpos]
  obtain ⟨m', e', hm', hround, hrounded, hle⟩ :=
    beyond_round (m := d.toNat) (e := e) h₁ hm₁ (by omega) (by omega)
  rw [hround]
  rcases unpack_pack_rounded hrounded hm' with hstored | hinfinite
  · rw [hstored]
    exact finite_le_finite (by omega)
  · rw [hinfinite]
    rfl

theorem le_stored_infinity {u : UnpackedFloat} (h : UnpackedFloat.le (.zero .positive) u = true) :
    u.le (Float.Model.pack (.infinity .positive)).unpack = true := by
  rw [unpack_pack_infinity]
  rcases cases_of_zero_le h with rfl | ⟨sign, rfl⟩ | ⟨m, e, hm, rfl⟩ <;> rfl

theorem atMost_add {x y : Float} (hx : Scalar.atMost Scalar.zero x = true)
    (hy : Scalar.atMost Scalar.zero y = true) : Scalar.atMost x (Scalar.add x y) = true := by
  rw [float_atMost] at hx hy ⊢
  change UnpackedFloat.le _ (Float.Model.pack (.add .binary64 x.toModel.unpack y.toModel.unpack)).unpack = true
  generalize hu : x.toModel.unpack = u at *
  generalize hv : y.toModel.unpack = v at *
  rcases cases_of_zero_le hx with rfl | ⟨sign, rfl⟩ | ⟨m₁, e₁, hm₁, rfl⟩ <;>
    rcases cases_of_zero_le hy with rfl | ⟨sign', rfl⟩ | ⟨m₂, e₂, hm₂, rfl⟩
  · exact le_stored_infinity hx
  · exact le_stored_infinity hx
  · exact le_stored_infinity hx
  · exact le_stored_infinity hx
  · cases sign <;> cases sign' <;> rfl
  · change UnpackedFloat.le _ (Float.Model.pack (.finite .positive m₂ e₂ hm₂)).unpack = true
    rw [unpack_pack (storable_of_unpack hv)]
    rfl
  · exact le_stored_infinity hx
  · change UnpackedFloat.le _ (Float.Model.pack (.finite .positive m₁ e₁ hm₁)).unpack = true
    rw [unpack_pack (storable_of_unpack hu)]
    exact finite_le_finite (.inr ⟨rfl, le_rfl⟩)
  · exact stored_sum (storable_of_unpack hu) hm₁ hm₂

theorem atMost_floored_add {x y : Float} (hx : Scalar.atMost Scalar.zero x = true)
    (hy : Scalar.atMost Scalar.zero y = true) : Scalar.atMost x (floored (Scalar.add x y)) = true := by
  have hsum := atMost_add hx hy
  rw [floored, if_pos (OrderedScalar.atMost_trans hx hsum)]
  exact hsum

end Sums

end Moderation.Points
