import Mathlib
import Moderation.Proofs.Points.Standstill

/-!
Rounding. A result is never rounded past a number that can be stored; so a score does not grow when something that
is not below zero is taken from it.
-/

open Float.Model (UnpackedFloat Format totalExponent)
open Float.Model.UnpackedFloat (ExtendedMantissa Sign shiftToTargetExponent roundWithAccuracy decreaseExponent)

namespace Moderation.Points

structure Storable (m : Nat) (e : ℤ) : Prop where
  lt : m < 2 ^ 53
  low : -1074 ≤ e
  high : e ≤ 971
  full : 2 ^ 52 ≤ m ∨ e = -1074

section Mantissas

def shifted (m n : Nat) : ExtendedMantissa := ExtendedMantissa.ofMantissaAndAccuracy m .exact >>> n

theorem shifted_succ (m n : Nat) : shifted m (n + 1) = (shifted m n).shiftRightOne := rfl

theorem mantissa_shifted (m n : Nat) : (shifted m n).mantissa = m / 2 ^ n := by
  induction n with
  | zero => exact (Nat.div_one m).symm
  | succ n ih =>
    rw [shifted_succ, pow_succ, ← Nat.div_div_eq_div_mul, ← ih]
    rfl

theorem residue_shifted {m n : Nat} (h : (shifted m n).roundBit = true ∨ (shifted m n).stickyBit = true) :
    m % 2 ^ n ≠ 0 := by
  induction n with
  | zero => rcases h with h | h <;> cases h
  | succ n ih =>
    have hmod : m % 2 ^ (n + 1) = m % 2 ^ n + 2 ^ n * (m / 2 ^ n % 2) := Nat.mod_pow_succ
    rw [shifted_succ] at h
    rcases h with h | h
    · have hbit : m / 2 ^ n % 2 ≠ 0 := by
        rw [← mantissa_shifted]
        simpa [ExtendedMantissa.shiftRightOne] using h
      have := Nat.mul_pos (Nat.two_pow_pos n) (Nat.pos_of_ne_zero hbit)
      omega
    · have hrest : m % 2 ^ n ≠ 0 := ih (by simpa [ExtendedMantissa.shiftRightOne] using h)
      omega

theorem rounded_le {m n k : Nat} (h : m ≤ k * 2 ^ n) : (shifted m n).roundedMantissa ≤ k := by
  have hle : m / 2 ^ n ≤ k := Nat.div_le_of_le_mul (by rwa [Nat.mul_comm])
  have hresidue := residue_shifted (m := m) (n := n)
  have hmantissa := mantissa_shifted m n
  -- Where something was cut off, the mantissa is below the bound, and one more is not above it.
  have hlt : m % 2 ^ n ≠ 0 → m / 2 ^ n < k := by
    intro hne
    by_contra hge
    have heq : k = m / 2 ^ n := le_antisymm (Nat.le_of_not_lt hge) hle
    have := Nat.div_add_mod m (2 ^ n)
    rw [heq, Nat.mul_comm] at h
    omega
  generalize shifted m n = em at hresidue hmantissa
  obtain ⟨q, round, sticky⟩ := em
  subst hmantissa
  cases round <;> cases sticky <;>
    simp [ExtendedMantissa.roundedMantissa, ExtendedMantissa.accuracy,
      UnpackedFloat.Accuracy.roundToNearestEven] at hresidue ⊢ <;> omega

theorem le_rounded {m n k : Nat} (h : k * 2 ^ n ≤ m) : k ≤ (shifted m n).roundedMantissa := by
  have hle : k ≤ m / 2 ^ n := (Nat.le_div_iff_mul_le (Nat.two_pow_pos n)).2 h
  rw [← mantissa_shifted] at hle
  generalize shifted m n = em at hle
  obtain ⟨q, round, sticky⟩ := em
  cases round <;> cases sticky <;>
    simp [ExtendedMantissa.roundedMantissa, ExtendedMantissa.accuracy,
      UnpackedFloat.Accuracy.roundToNearestEven] at hle ⊢ <;> omega

end Mantissas

section Targets

theorem target_eq (m : Nat) (e : ℤ) :
    Format.binary64.targetExponent (totalExponent m e) = max (m.log2 + e - 52) (-1074) := by
  have hmin : Format.binary64.minExponent = -1074 := rfl
  have hbits : (Format.binary64.mantissaBits : ℤ) = 53 := rfl
  rw [Format.targetExponent, hmin, hbits, totalExponent]
  congr 1
  ring

theorem shiftToTarget_eq (m : Nat) (e : ℤ) :
    shiftToTargetExponent .binary64 m e .exact =
      let n := (max ((m.log2 : ℤ) + e - 52) (-1074) - e).toNat
      (shifted m n, e + n) := by
  rw [← target_eq]
  rfl

theorem shiftToTarget_of_lt {m : Nat} {e : ℤ} (hm : m < 2 ^ 53) (he : -1074 ≤ e) :
    shiftToTargetExponent .binary64 m e .exact = (shifted m 0, e) := by
  have hlog : m.log2 ≤ 52 := by
    by_cases hzero : m = 0
    · rw [hzero]
      decide
    · exact Nat.le_of_lt_succ ((Nat.log2_lt hzero).2 hm)
  have hn : (max ((m.log2 : ℤ) + e - 52) (-1074) - e).toNat = 0 := by omega
  rw [shiftToTarget_eq, hn]
  simp

theorem shiftToTarget_of_full {e : ℤ} (he : -1074 ≤ e) :
    shiftToTargetExponent .binary64 (2 ^ 53) e .exact = (shifted (2 ^ 53) 1, e + 1) := by
  have hn : (max (((2 ^ 53 : Nat).log2 : ℤ) + e - 52) (-1074) - e).toNat = 1 := by
    rw [Nat.log2_two_pow]
    omega
  rw [shiftToTarget_eq, hn]
  rfl

theorem roundWithAccuracy_of_lt {m : Nat} {e t : ℤ} {n : Nat} (sign : Sign)
    (hshift : shiftToTargetExponent .binary64 m e .exact = (shifted m n, t)) (ht : -1074 ≤ t)
    (hlt : (shifted m n).roundedMantissa < 2 ^ 53) :
    roundWithAccuracy .binary64 sign m e .exact =
      if h : (shifted m n).roundedMantissa = 0 then .zero sign
      else .finite sign (shifted m n).roundedMantissa t (Nat.pos_of_ne_zero h) := by
  rw [roundWithAccuracy, hshift]
  dsimp only
  rw [shiftToTarget_of_lt hlt ht]
  rfl

theorem roundWithAccuracy_of_full {m : Nat} {e t : ℤ} {n : Nat} (sign : Sign)
    (hshift : shiftToTargetExponent .binary64 m e .exact = (shifted m n, t)) (ht : -1074 ≤ t)
    (hfull : (shifted m n).roundedMantissa = 2 ^ 53) :
    roundWithAccuracy .binary64 sign m e .exact =
      .finite sign (2 ^ 52) (t + 1) (Nat.two_pow_pos 52) := by
  rw [roundWithAccuracy, hshift]
  dsimp only
  rw [hfull, shiftToTarget_of_full ht]
  rfl

end Targets

def Within (sign : Sign) (m : Nat) (e : ℤ) (u : UnpackedFloat) : Prop :=
  u = .zero sign ∨ ∃ m' e' h, u = .finite sign m' e' h ∧ Storable m' e' ∧ (e' < e ∨ e' = e ∧ m' ≤ m)

theorem log2_mul_two_pow {m : Nat} (hm : 0 < m) (k : Nat) : (m * 2 ^ k).log2 = m.log2 + k := by
  induction k with
  | zero => simp
  | succ k ih =>
    have hne : m * 2 ^ k ≠ 0 := Nat.ne_of_gt (Nat.mul_pos hm (Nat.two_pow_pos k))
    rw [show m * 2 ^ (k + 1) = 2 * (m * 2 ^ k) by ring, Nat.log2_two_mul hne, ih]
    omega

/-- A rounded mantissa is either short enough or one digit too long, and then the exponent is one more. -/
theorem roundWithAccuracy_cases (sign : Sign) {m n : Nat} {e t : ℤ} (hm : 0 < m)
    (ht : t = max ((m.log2 : ℤ) + e - 52) (-1074)) (hn : e + n = t) :
    (∃ q, q = (shifted m n).roundedMantissa ∧ q < 2 ^ 53 ∧ (-1074 < t → 2 ^ 52 ≤ q) ∧
      roundWithAccuracy .binary64 sign m e .exact =
        if h : q = 0 then .zero sign else .finite sign q t (Nat.pos_of_ne_zero h)) ∨
    (shifted m n).roundedMantissa = 2 ^ 53 ∧
      roundWithAccuracy .binary64 sign m e .exact = .finite sign (2 ^ 52) (t + 1) (Nat.two_pow_pos 52) := by
  have hshift : shiftToTargetExponent .binary64 m e .exact = (shifted m n, t) := by
    rw [shiftToTarget_eq, ← ht]
    simp [show (t - e).toNat = n by omega, hn]
  have hlow : -1074 ≤ t := by omega
  have htop : (shifted m n).roundedMantissa ≤ 2 ^ 53 := by
    apply rounded_le
    rw [← pow_add]
    exact ((Nat.log2_lt hm.ne').1 (by omega)).le
  have hfull : -1074 < t → 2 ^ 52 ≤ (shifted m n).roundedMantissa := by
    intro hnormal
    apply le_rounded
    rw [← pow_add, show 52 + n = m.log2 by omega]
    exact Nat.log2_self_le hm.ne'
  rcases htop.lt_or_eq with hlt | heq
  · exact .inl ⟨_, rfl, hlt, hfull, roundWithAccuracy_of_lt sign hshift hlow hlt⟩
  · exact .inr ⟨heq, roundWithAccuracy_of_full sign hshift hlow heq⟩

theorem within_roundWithAccuracy (sign : Sign) {m m₁ n : Nat} {e t e₁ : ℤ} (h : Storable m₁ e₁) (hm : 0 < m)
    (ht : t = max ((m.log2 : ℤ) + e - 52) (-1074)) (hn : e + n = t) (hle : t ≤ e₁)
    (hbound : t = e₁ → m ≤ m₁ * 2 ^ n) : Within sign m₁ e₁ (roundWithAccuracy .binary64 sign m e .exact) := by
  obtain ⟨hlt₁, hlow₁, hhigh₁, hfull₁⟩ := h
  rcases roundWithAccuracy_cases sign hm ht hn with ⟨q, rfl, hlt, hfull, hround⟩ | ⟨heq, hround⟩
  · rw [hround]
    split
    · exact .inl rfl
    · refine .inr ⟨_, _, _, rfl, ⟨hlt, by omega, by omega, by omega⟩, ?_⟩
      rcases hle.lt_or_eq with hbelow | hequal
      · exact .inl hbelow
      · exact .inr ⟨hequal, rounded_le (hbound hequal)⟩
  · rw [hround]
    have hbelow : t < e₁ := by
      refine lt_of_le_of_ne hle fun hequal => ?_
      have := rounded_le (hbound hequal)
      omega
    refine .inr ⟨_, _, _, rfl, ⟨by decide, by omega, by omega, .inl le_rfl⟩, ?_⟩
    omega

theorem round_eq (sign : Sign) {m k : Nat} {e t : ℤ} (ht : t = max ((m.log2 : ℤ) + e - 52) (-1074))
    (hk : k = (e - t).toNat) :
    UnpackedFloat.round .binary64 sign m e = roundWithAccuracy .binary64 sign (m * 2 ^ k) (e - k) .exact := by
  rw [UnpackedFloat.round, target_eq, ← ht, decreaseExponent, ← hk, Nat.shiftLeft_eq]

/-- The exponent that rounding aims at does not depend on how many zeros a mantissa ends in. -/
theorem target_mul_two_pow {m : Nat} (hm : 0 < m) (e : ℤ) (k : Nat) :
    max ((m.log2 : ℤ) + e - 52) (-1074) = max (((m * 2 ^ k).log2 : ℤ) + (e - k) - 52) (-1074) := by
  rw [log2_mul_two_pow hm]
  push_cast
  congr 1
  ring

/-- Rounding stays within every storable number that the exact value is within. -/
theorem within_round (sign : Sign) {m m₁ : Nat} {e e₁ : ℤ} (h : Storable m₁ e₁) (hm : 0 < m) (he : e ≤ e₁)
    (hle : m ≤ m₁ * 2 ^ (e₁ - e).toNat) : Within sign m₁ e₁ (UnpackedFloat.round .binary64 sign m e) := by
  obtain ⟨t, ht⟩ : ∃ t, t = max ((m.log2 : ℤ) + e - 52) (-1074) := ⟨_, rfl⟩
  obtain ⟨k, hk⟩ : ∃ k, k = (e - t).toNat := ⟨_, rfl⟩
  have hlog : (m.log2 : ℤ) + e ≤ 52 + e₁ := by
    have hlt : m < 2 ^ (53 + (e₁ - e).toNat) := by
      rw [pow_add]
      exact hle.trans_lt (Nat.mul_lt_mul_of_pos_right h.lt (Nat.two_pow_pos _))
    have := (Nat.log2_lt hm.ne').2 hlt
    omega
  have hlow := h.low
  rw [round_eq sign ht hk]
  apply within_roundWithAccuracy (n := (t - (e - k)).toNat) (t := t) sign h (Nat.mul_pos hm (Nat.two_pow_pos k))
  · exact ht.trans (target_mul_two_pow hm e k)
  · omega
  · omega
  · intro hequal
    have hzero : k = 0 := by omega
    subst hzero
    rw [show (t - (e - (0 : Nat))).toNat = (e₁ - e).toNat by omega]
    simpa using hle

section Storing

theorem toNat_implicit (m : BitVec 52) : (1#1 ++ m).toNat = 2 ^ 52 + m.toNat := by
  rw [BitVec.toNat_append, ← Nat.shiftLeft_add_eq_or_of_lt m.isLt]
  rfl

def ofParts (sign : Sign) (e : BitVec 11) (m : BitVec 52) : UnpackedFloat :=
  if e = -1#11 then if m = 0#52 then .infinity sign else .notANumber
  else if e = 0#11 then
    if h : m = 0#52 then .zero sign
    else .finite sign m.toNat (-1074) (by simpa [BitVec.toNat_pos, BitVec.pos_iff_ne_zero])
  else .finite sign (1#1 ++ m).toNat (e.toNat - 1075) (by rw [toNat_implicit]; omega)

theorem unpack_eq_ofParts (b : BitVec 64) : UnpackedFloat.unpack .binary64 b =
    ofParts (Sign.ofBitVec (@UnpackedFloat.unpackSign .binary64 b))
      (@UnpackedFloat.unpackExponent .binary64 b)
      (@UnpackedFloat.unpackMantissa .binary64 b) := by
  rw [UnpackedFloat.unpack, ofParts]
  split_ifs with h h' h' <;> try rfl
  all_goals rw [UnpackedFloat.finite.injEq]
  all_goals refine ⟨rfl, rfl, ?_⟩
  all_goals rw [h']
  all_goals rfl

theorem unpack_packComponents (sign : Sign) (e : BitVec 11) (m : BitVec 52) :
    UnpackedFloat.unpack .binary64 (UnpackedFloat.packComponents .binary64 sign e m) = ofParts sign e m := by
  rw [unpack_eq_ofParts, UnpackedFloat.unpackSign_packComponents, Sign.ofBitVec_toBitVec,
    UnpackedFloat.unpackExponent_packComponents, UnpackedFloat.unpackMantissa_packComponents]

theorem pack_finite {m : Nat} {e : ℤ} (h : Storable m e) (sign : Sign) (hm : 0 < m) :
    UnpackedFloat.pack .binary64 (.finite sign m e hm) =
      if 2 ^ 52 ≤ m then
        UnpackedFloat.packComponents .binary64 sign (BitVec.ofNat 11 (e + 1075).toNat) (BitVec.ofNat 52 m)
      else UnpackedFloat.packComponents .binary64 sign 0#11 (BitVec.ofNat 52 m) := by
  obtain ⟨hlt, hlow, hhigh, hfull⟩ := h
  have hbiased : (e + (Format.binary64.exponentBias : ℤ) + (52 : Nat)).toNat = (e + 1075).toNat := by
    have hbias : (Format.binary64.exponentBias : ℤ) = 1023 := rfl
    omega
  have hbits : Format.binary64.mantissaBits = 53 := rfl
  have hrange : ¬2 ^ 11 ≤ (e + 1075).toNat + 1 := by omega
  have hlog : m.log2 + 1 = 53 ↔ 2 ^ 52 ≤ m := by
    rw [← Nat.le_log2 hm.ne']
    have := (Nat.log2_lt hm.ne').2 hlt
    omega
  rw [UnpackedFloat.pack]
  simp only [hbiased, hbits, hlog, hrange, if_false]

theorem unpack_pack {m : Nat} {e : ℤ} (h : Storable m e) (sign : Sign) (hm : 0 < m) :
    (Float.Model.pack (.finite sign m e hm)).unpack = .finite sign m e hm := by
  change UnpackedFloat.unpack .binary64 (UnpackedFloat.pack .binary64 (.finite sign m e hm)) = _
  rw [pack_finite h]
  obtain ⟨hlt, hlow, hhigh, hfull⟩ := h
  split
  case isTrue hnormal =>
    have hexponent : (BitVec.ofNat 11 (e + 1075).toNat).toNat = (e + 1075).toNat := by
      rw [BitVec.toNat_ofNat, Nat.mod_eq_of_lt (by omega)]
    have hmantissa : (1#1 ++ BitVec.ofNat 52 m).toNat = m := by
      rw [toNat_implicit, BitVec.toNat_ofNat]
      omega
    have hspecial : BitVec.ofNat 11 (e + 1075).toNat ≠ -1#11 := by
      intro heq
      have : (e + 1075).toNat = 2047 := hexponent.symm.trans (congrArg BitVec.toNat heq)
      omega
    have hzero : BitVec.ofNat 11 (e + 1075).toNat ≠ 0#11 := by
      intro heq
      have : (e + 1075).toNat = 0 := hexponent.symm.trans (congrArg BitVec.toNat heq)
      omega
    rw [unpack_packComponents, ofParts, if_neg hspecial, if_neg hzero]
    congr 1
    omega
  case isFalse hsubnormal =>
    have hmantissa : (BitVec.ofNat 52 m).toNat = m := by
      rw [BitVec.toNat_ofNat]
      omega
    have hzero : BitVec.ofNat 52 m ≠ 0#52 := by
      intro heq
      have : m = 0 := hmantissa.symm.trans (congrArg BitVec.toNat heq)
      omega
    rw [unpack_packComponents, ofParts, if_neg (by decide), if_pos rfl, dif_neg hzero]
    congr 1
    exact (hfull.resolve_left hsubnormal).symm

theorem storable_of_unpack {x : Float.Model} {sign : Sign} {m : Nat} {e : ℤ} {hm : 0 < m}
    (h : x.unpack = .finite sign m e hm) : Storable m e := by
  rw [Float.Model.unpack, unpack_eq_ofParts] at h
  generalize Sign.ofBitVec (@UnpackedFloat.unpackSign .binary64 x.toBits.toBitVec) = s at h
  generalize @UnpackedFloat.unpackExponent .binary64 x.toBits.toBitVec = exponent at h
  generalize @UnpackedFloat.unpackMantissa .binary64 x.toBits.toBitVec = mantissa at h
  have hmantissa : mantissa.toNat < 2 ^ 52 := mantissa.isLt
  have hexponent : exponent.toNat < 2 ^ 11 := exponent.isLt
  rw [ofParts] at h
  split_ifs at h with hspecial hinfinite hzero
  · obtain ⟨-, rfl, rfl⟩ := UnpackedFloat.finite.inj h
    exact ⟨by omega, le_rfl, by decide, .inr rfl⟩
  · obtain ⟨-, rfl, rfl⟩ := UnpackedFloat.finite.inj h
    have hlow : exponent.toNat ≠ 0 := fun heq => hzero (BitVec.eq_of_toNat_eq heq)
    have hhigh : exponent.toNat ≠ 2047 := fun heq => hspecial (BitVec.eq_of_toNat_eq heq)
    rw [toNat_implicit]
    exact ⟨by omega, by omega, by omega, .inl (by omega)⟩

end Storing

section Differences

theorem cases_of_zero_le {u : UnpackedFloat} (h : UnpackedFloat.le (.zero .positive) u = true) :
    u = .infinity .positive ∨ (∃ sign, u = .zero sign) ∨ ∃ m e hm, u = .finite .positive m e hm := by
  match u, h with
  | .infinity .positive, _ => exact .inl rfl
  | .zero sign, _ => exact .inr (.inl ⟨sign, rfl⟩)
  | .finite .positive m e hm, _ => exact .inr (.inr ⟨m, e, hm, rfl⟩)

theorem unpack_pack_infinity (sign : Sign) :
    (Float.Model.pack (.infinity sign)).unpack = .infinity sign := by
  cases sign <;> rfl

theorem finite_le_finite {m m' : Nat} {e e' : ℤ} {hm : 0 < m} {hm' : 0 < m'}
    (h : e' < e ∨ e' = e ∧ m' ≤ m) :
    UnpackedFloat.le (.finite .positive m' e' hm') (.finite .positive m e hm) = true :=
  (isLE_compare_then e' e m' m).2 h

theorem stored_normalize {m₁ m₂ : Nat} {e₁ e₂ : ℤ} (h₁ : Storable m₁ e₁) (h₂ : Storable m₂ e₂) (hm₁ : 0 < m₁)
    (hm₂ : 0 < m₂) {w : UnpackedFloat}
    (hw : w = (Float.Model.pack (UnpackedFloat.sub .binary64 (.finite .positive m₁ e₁ hm₁)
      (.finite .positive m₂ e₂ hm₂))).unpack) (hnonneg : UnpackedFloat.le (.zero .positive) w = true) :
    w.le (.finite .positive m₁ e₁ hm₁) = true := by
  have hzero : ∀ sign, UnpackedFloat.le (.zero sign) (.finite .positive m₁ e₁ hm₁) = true := fun _ => rfl
  simp only [UnpackedFloat.sub, decreaseExponent, Sign.apply, UnpackedFloat.normalize, Nat.shiftLeft_eq] at hw
  obtain ⟨e, he⟩ : ∃ e, e = min e₁ e₂ := ⟨_, rfl⟩
  rw [← he] at hw
  obtain ⟨d, hd⟩ : ∃ d : ℤ, d = ((m₁ * 2 ^ (e₁ - e).toNat : Nat) : ℤ) - (m₂ * 2 ^ (e₂ - e).toNat : Nat) :=
    ⟨_, rfl⟩
  rw [← hd] at hw
  split at hw
  case h_1 hlt =>
    -- The difference is below zero, and what is rounded of it is so too, or it is zero.
    have hneg : d < 0 := compare_lt_iff_lt.1 hlt
    have hwithin := within_round .negative (m := (-d).toNat) (e := e) h₂ (by omega) (by omega) (by omega)
    rcases hwithin with hround | ⟨m', e', hm', hround, hstorable, -⟩
    · rw [hw, hround, unpack_pack_zero]
      exact hzero _
    · rw [hw, hround, unpack_pack hstorable] at hnonneg
      cases hnonneg
  case h_2 =>
    rw [hw, unpack_pack_zero]
    exact hzero _
  case h_3 hgt =>
    have hpos : 0 < d := compare_gt_iff_gt.1 hgt
    have hwithin := within_round .positive (m := d.toNat) (e := e) h₁ (by omega) (by omega) (by omega)
    rcases hwithin with hround | ⟨m', e', hm', hround, hstorable, hle⟩
    · rw [hw, hround, unpack_pack_zero]
      exact hzero _
    · rw [hw, hround, unpack_pack hstorable]
      exact finite_le_finite hle

theorem sub_atMost {x y : Float} (hx : Scalar.atMost Scalar.zero x = true)
    (hy : Scalar.atMost Scalar.zero y = true) (h : Scalar.atMost Scalar.zero (Scalar.sub x y) = true) :
    Scalar.atMost (Scalar.sub x y) x = true := by
  rw [float_atMost] at hx hy h ⊢
  rw [sub_toModel] at h ⊢
  generalize hu : x.toModel.unpack = u at *
  generalize hv : y.toModel.unpack = v at *
  rcases cases_of_zero_le hx with rfl | ⟨sign, rfl⟩ | ⟨m₁, e₁, hm₁, rfl⟩ <;>
    rcases cases_of_zero_le hy with rfl | ⟨sign', rfl⟩ | ⟨m₂, e₂, hm₂, rfl⟩
  · cases h
  · change UnpackedFloat.le (Float.Model.pack (.infinity .positive)).unpack _ = true
    rw [unpack_pack_infinity]
    rfl
  · change UnpackedFloat.le (Float.Model.pack (.infinity .positive)).unpack _ = true
    rw [unpack_pack_infinity]
    rfl
  · change UnpackedFloat.le (.zero .positive) (Float.Model.pack (.infinity .negative)).unpack = true at h
    rw [unpack_pack_infinity] at h
    cases h
  · cases sign <;> cases sign' <;> rfl
  · change UnpackedFloat.le (.zero .positive) (Float.Model.pack (.finite .negative m₂ e₂ hm₂)).unpack = true at h
    rw [unpack_pack (storable_of_unpack hv)] at h
    cases h
  · change UnpackedFloat.le (.zero .positive) (Float.Model.pack (.infinity .negative)).unpack = true at h
    rw [unpack_pack_infinity] at h
    cases h
  · change UnpackedFloat.le (Float.Model.pack (.finite .positive m₁ e₁ hm₁)).unpack _ = true
    rw [unpack_pack (storable_of_unpack hu)]
    exact finite_le_finite (.inr ⟨rfl, le_rfl⟩)
  · exact stored_normalize (storable_of_unpack hu) (storable_of_unpack hv) hm₁ hm₂ rfl h

theorem floored_sub_atMost {x y : Float} (hx : Scalar.atMost Scalar.zero x = true)
    (hy : Scalar.atMost Scalar.zero y = true) : Scalar.atMost (floored (Scalar.sub x y)) x = true := by
  unfold floored
  split
  case isTrue h => exact sub_atMost hx hy h
  case isFalse => exact hx

end Differences

end Moderation.Points
