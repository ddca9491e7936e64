import Moderation.Proofs.Points.Crossings

open Float.Model (UnpackedFloat)

namespace Moderation.Points

section Values

theorem unpacked_beq_iff (a b : UnpackedFloat) : a.beq b = true ↔ ∃ p ∈ place b, p ∈ place a := by
  rcases a with (_ | _) | _ | _ | ⟨(_ | _), m, e, hm⟩ <;>
    rcases b with (_ | _) | _ | _ | ⟨(_ | _), m', e', hm'⟩ <;>
    dsimp only [UnpackedFloat.beq, UnpackedFloat.compare, place] <;>
    simp
  all_goals rfl

theorem isSame_eq_beq (x y : Float) : isSame x y = (x == y) := by
  change _ = x.toModel.unpack.beq y.toModel.unpack
  rw [isSame, float_atMost, float_atMost, Bool.eq_iff_iff, Bool.and_eq_true, unpacked_le_iff, unpacked_le_iff,
    unpacked_beq_iff]
  constructor
  · rintro ⟨⟨p, hp, q, hq, hle⟩, q', hq', p', hp', hge⟩
    obtain rfl := Option.mem_unique hp hp'
    obtain rfl := Option.mem_unique hq hq'
    exact ⟨q, hq, le_antisymm hle hge ▸ hp⟩
  · rintro ⟨p, hq, hp⟩
    exact ⟨⟨p, hp, p, hq, le_rfl⟩, p, hq, p, hp, le_rfl⟩

theorem isPositive_iff (x : Float) : isPositive x = true ↔ x.isFinite = true ∧ 0 < x := by
  rw [isPositive, Bool.and_eq_true, Bool.not_eq_true', ← Bool.not_eq_true]
  refine and_congr_right fun hfinite => ?_
  exact (lt_iff_not_atMost ⟨_, rfl⟩ (exists_place hfinite)).symm

theorem exists_finite_of_isPositive {x : Float} (h : isPositive x = true) :
    ∃ m e hm, x.toModel.unpack = .finite .positive m e hm := by
  obtain ⟨hfinite, hpos⟩ := (isPositive_iff x).1 h
  rw [float_lt] at hpos
  change x.toModel.unpack.isFinite = true at hfinite
  change UnpackedFloat.lt (.zero .positive) x.toModel.unpack = true at hpos
  match x.toModel.unpack, hfinite, hpos with
  | .finite .positive m e hm, _, _ => exact ⟨m, e, hm, rfl⟩

end Values

section Bits

/-- Where the bits of a number stand in the total order of all bit patterns. -/
def totalKey (x : Float) : ℤ :=
  if x.toBits.toNat < 2 ^ 63 then x.toBits.toNat else 2 ^ 63 - 1 - x.toBits.toNat

theorem ofParts_eq_finite {sign sign' : UnpackedFloat.Sign} {exponent : BitVec 11} {mantissa : BitVec 52} {m : Nat}
    {e : ℤ} {hm : 0 < m} (h : ofParts sign exponent mantissa = .finite sign' m e hm) :
    sign = sign' ∧ (e + 1074) * 2 ^ 52 + m = exponent.toNat * 2 ^ 52 + mantissa.toNat := by
  rw [ofParts] at h
  split_ifs at h with hspecial hinfinite hzero
  · obtain ⟨rfl, rfl, rfl⟩ := UnpackedFloat.finite.inj h
    exact ⟨rfl, by simp [hzero]⟩
  · obtain ⟨rfl, rfl, rfl⟩ := UnpackedFloat.finite.inj h
    rw [toNat_implicit]
    exact ⟨rfl, by omega⟩

theorem toNat_unpackSign (b : BitVec 64) : (@UnpackedFloat.unpackSign .binary64 b).toNat = b.toNat / 2 ^ 63 % 2 := by
  simp [UnpackedFloat.unpackSign, BitVec.extractLsb_toNat, Nat.shiftRight_eq_div_pow]

theorem toNat_unpackExponent (b : BitVec 64) :
    (@UnpackedFloat.unpackExponent .binary64 b).toNat = b.toNat / 2 ^ 52 % 2 ^ 11 := by
  simp [UnpackedFloat.unpackExponent, BitVec.extractLsb_toNat, Nat.shiftRight_eq_div_pow]

theorem toNat_unpackMantissa (b : BitVec 64) :
    (@UnpackedFloat.unpackMantissa .binary64 b).toNat = b.toNat % 2 ^ 52 := by
  simp [UnpackedFloat.unpackMantissa, BitVec.extractLsb_toNat, Nat.shiftRight_eq_div_pow]

theorem totalKey_of_unpack {x : Float} {m : Nat} {e : ℤ} {hm : 0 < m}
    (h : x.toModel.unpack = .finite .positive m e hm) : totalKey x = (e + 1074) * 2 ^ 52 + m := by
  rw [totalKey]
  change (if x.toModel.toBits.toBitVec.toNat < 2 ^ 63 then (x.toModel.toBits.toBitVec.toNat : ℤ)
    else 2 ^ 63 - 1 - x.toModel.toBits.toBitVec.toNat) = _
  rw [Float.Model.unpack, unpack_eq_ofParts] at h
  generalize x.toModel.toBits.toBitVec = b at h ⊢
  obtain ⟨hpositive, hkey⟩ := ofParts_eq_finite h
  have hclear : (@UnpackedFloat.unpackSign .binary64 b).toNat = 0 := by
    rw [UnpackedFloat.Sign.ofBitVec, ite_eq_left_iff] at hpositive
    exact congrArg BitVec.toNat (not_not.1 fun hne => UnpackedFloat.Sign.noConfusion (hpositive hne))
  have hbits : b.toNat < 2 ^ 64 := b.isLt
  rw [toNat_unpackSign] at hclear
  rw [hkey, toNat_unpackExponent, toNat_unpackMantissa]
  omega

theorem totalKey_le_iff {x y : Float} (hx : isPositive x = true) (hy : isPositive y = true) :
    totalKey x ≤ totalKey y ↔ Scalar.atMost x y = true := by
  obtain ⟨m, e, hm, hux⟩ := exists_finite_of_isPositive hx
  obtain ⟨m', e', hm', huy⟩ := exists_finite_of_isPositive hy
  have hs := storable_of_unpack hux
  have hs' := storable_of_unpack huy
  rw [totalKey_of_unpack hux, totalKey_of_unpack huy, float_atMost, hux, huy]
  change _ ↔ ((compare e e').then (compare m m')).isLE = true
  rw [isLE_compare_then]
  obtain ⟨hlt, hlow, hhigh, hfull⟩ := hs
  obtain ⟨hlt', hlow', hhigh', hfull'⟩ := hs'
  omega

end Bits

section Search

def bisect (holds : Nat → Bool) (low high : Nat) : Nat :=
  if low < high then
    let middle := (low + high) / 2
    if holds middle then bisect holds (middle + 1) high else bisect holds low middle
  else low
termination_by high - low

/-- The places below `n`, which lies between the ends, are the ones that hold; this is kept by every step. -/
theorem bisect_eq {holds : Nat → Bool} {low high n : Nat} (h : ∀ i < high, holds i = true ↔ i < n)
    (hlow : low ≤ n) (hhigh : n ≤ high) : bisect holds low high = n := by
  fun_induction bisect holds low high with
  | case1 low high hlt middle hholds ih =>
    have := (h middle (by omega)).1 hholds
    exact ih h (by omega) hhigh
  | case2 low high hlt middle hholds ih =>
    have := (h middle (by omega)).not.1 hholds
    exact ih (fun i hi => h i (by omega)) hlow (by omega)
  | case3 low high hge => omega

end Search

namespace Table

variable {β : Type}

theorem lt_of_precedes {a b : Threshold Float β} (h : Precedes a b) : a.points < b.points := by
  have hle := h.1
  rw [float_atMost, unpacked_le_iff] at hle
  obtain ⟨p, hp, q, hq, -⟩ := hle
  exact (lt_iff_not_atMost ⟨p, hp⟩ ⟨q, hq⟩).2 (Bool.eq_false_iff.1 h.2)

theorem mergeSort_totalKey {ts : List (Threshold Float β)} (hpos : ∀ h ∈ ts, isPositive h.points = true) :
    ts.mergeSort (fun a b => totalKey a.points ≤ totalKey b.points) =
      ts.mergeSort fun a b => Scalar.atMost a.points b.points := by
  have hsame := List.map_mergeSort (f := id) (l := ts) (r := fun a b => totalKey a.points ≤ totalKey b.points)
    (s := fun a b => Scalar.atMost a.points b.points) fun a ha b hb => by
      rw [Bool.eq_iff_iff, decide_eq_true_eq]
      exact totalKey_le_iff (hpos a ha) (hpos b hb)
  simpa using hsame

theorem level_eq_bisect {t : Table Float β} (ht : t.Valid) (score : Float) :
    t.level score = bisect (fun i => (t.get? i).any fun h => h.points ≤ score) 0 t.size := by
  refine (bisect_eq (fun i hi => ?_) (Nat.zero_le _) (t.level_le_size score)).symm
  have hget : t.get? i = some t.sorted[i] := List.getElem?_eq_getElem hi
  rw [lt_level_of_get? ht score hget, hget]
  rfl

/-- A table is made exactly when all values are finite and positive and no two are the same. It holds the thresholds
from the lowest to the highest, in whatever order they come and whether values are compared as numbers or by their
bits; and the level of a score, which grows with the score, is how many values are at most the score, as it is found
by counting or by halving the table. -/
theorem ofList_order_free (ts : List (Threshold Float β)) :
    ((∃ t, ofList ts = .ok t) ↔ (∀ h ∈ ts, h.points.isFinite = true ∧ 0 < h.points) ∧
      ts.Pairwise fun a b => (a.points == b.points) = false) ∧
    ∀ t, ofList ts = .ok t →
      t.sorted.Perm ts ∧ (t.sorted.Pairwise fun a b => a.points < b.points) ∧
      t.sorted = ts.mergeSort (fun a b => totalKey a.points ≤ totalKey b.points) ∧
      (∀ ts', ts'.Perm ts → ofList ts' = .ok t) ∧
      (∀ score, t.level score = ts.countP (fun h => h.points ≤ score) ∧
        t.level score = bisect (fun i => (t.get? i).any fun h => h.points ≤ score) 0 t.size) ∧
      ∀ x y, x ≤ y → t.level x ≤ t.level y := by
  refine ⟨?_, fun t ht => ?_⟩
  · simp only [exists_ofList_iff, isPositive_iff, isSame_eq_beq]
  · obtain ⟨hpos, hperm, hrow⟩ := ofList_eq_ok_iff.1 ht
    have hvalid := valid_of_ofList ht
    refine ⟨hperm, hrow.imp lt_of_precedes, ?_, fun ts' hts' => ?_,
      fun score => ⟨?_, level_eq_bisect hvalid score⟩, fun x y hxy => ?_⟩
    · rw [mergeSort_totalKey hpos, mergeSort_eq_of_precedes hpos hperm hrow]
    · exact ofList_eq_ok_iff.2 ⟨fun h hh => hpos h (hts'.mem_iff.1 hh), hperm.trans hts'.symm, hrow⟩
    · exact (level_eq_countP hvalid score).trans (hperm.countP_eq _)
    · exact level_le_level hvalid (decide_eq_true hxy)

theorem ofList_order_free_mixed :
    let low : Threshold Float Unit := ⟨"low", 5, [], []⟩
    let mid : Threshold Float Unit := ⟨"mid", 10, [], []⟩
    let high : Threshold Float Unit := ⟨"high", 20, [], []⟩
    ofList [high, low, mid] = .ok ⟨[low, mid, high]⟩ ∧
      [4.99, 5, 19, 500, 0 / 0].map (Table.level ⟨[low, mid, high]⟩) = [0, 1, 2, 3, 0] ∧
      Table.level ⟨[low, mid, high]⟩ 9.5 ≤ Table.level ⟨[low, mid, high]⟩ 10 ∧
      ¬∃ t, ofList [mid, low, { mid with name := "again" }] = .ok t := by
  intro low mid high
  have hrow : ofList [low, mid, high] = .ok ⟨[low, mid, high]⟩ :=
    ofList_of_ascending (by decide +kernel) (by decide +kernel) (by decide +kernel)
  obtain ⟨-, -, -, hany, hlevel, hmono⟩ := (ofList_order_free [low, mid, high]).2 _ hrow
  refine ⟨hany _ ?_, ?_, hmono 9.5 10 (by decide +kernel), ?_⟩
  · exact (List.Perm.swap low high [mid]).trans ((List.Perm.swap mid high []).cons low)
  · simp only [List.map_cons, List.map_nil, (hlevel _).1]
    decide +kernel
  · rw [(ofList_order_free _).1]
    decide +kernel

end Table

end Moderation.Points
