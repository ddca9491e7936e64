import Mathlib.Data.List.Intervals
import Moderation.Proofs.Points.Bookkeeping
import Moderation.Proofs.Points.Ledger
import Moderation.Proofs.Points.Rounding

open Float.Model (UnpackedFloat)

namespace Moderation.Points

section Comparison

theorem lt_compare_then (e e' : ℤ) (m m' : Nat) :
    (compare e e').then (compare m m') = .lt ↔ e < e' ∨ e = e' ∧ m < m' := by
  rw [Ordering.then_eq_lt, compare_lt_iff_lt, compare_eq_iff_eq, Nat.compare_eq_lt]

theorem gt_compare_then (e e' : ℤ) (m m' : Nat) :
    (compare e e').then (compare m m') = .gt ↔ e' < e ∨ e = e' ∧ m' < m := by
  rw [Ordering.then_eq_gt, compare_gt_iff_gt, compare_eq_iff_eq, Nat.compare_eq_gt]

theorem unpacked_lt_iff (a b : UnpackedFloat) :
    a.lt b = true ↔ ∃ p ∈ place a, ∃ q ∈ place b, p < q := by
  rcases a with (_ | _) | _ | _ | ⟨(_ | _), m, e, hm⟩ <;>
    rcases b with (_ | _) | _ | _ | ⟨(_ | _), m', e', hm'⟩ <;>
    dsimp only [UnpackedFloat.lt, UnpackedFloat.compare, place] <;>
    simp [Prod.Lex.toLex_lt_toLex, lt_compare_then, gt_compare_then]
  rfl

theorem lt_iff_not_atMost {a b : Float} (ha : ∃ p, p ∈ place a.toModel.unpack)
    (hb : ∃ q, q ∈ place b.toModel.unpack) : a < b ↔ ¬Scalar.atMost b a = true := by
  obtain ⟨p, hp⟩ := ha
  obtain ⟨q, hq⟩ := hb
  rw [float_lt, float_atMost, unpacked_lt_iff, unpacked_le_iff]
  constructor
  · rintro ⟨p', hp', q', hq', hlt⟩ ⟨q'', hq'', p'', hp'', hle⟩
    obtain rfl := Option.mem_unique hp' hp''
    obtain rfl := Option.mem_unique hq' hq''
    exact not_le_of_gt hlt hle
  · intro hle
    exact ⟨p, hp, q, hq, lt_of_not_ge fun hqp => hle ⟨q, hq, p, hp, hqp⟩⟩

theorem atMost_of_not {a b : Float} (ha : ∃ p, p ∈ place a.toModel.unpack)
    (hb : ∃ q, q ∈ place b.toModel.unpack) (h : ¬Scalar.atMost a b = true) : Scalar.atMost b a = true := by
  have hlt := (lt_iff_not_atMost hb ha).2 h
  rw [float_lt, unpacked_lt_iff] at hlt
  obtain ⟨p, hp, q, hq, hpq⟩ := hlt
  rw [float_atMost, unpacked_le_iff]
  exact ⟨p, hp, q, hq, le_of_lt hpq⟩

end Comparison

namespace Table

variable {β : Type} {t : Table Float β}

def between (t : Table Float β) (low high : Float) : List Nat :=
  (List.range t.size).filter fun i => (t.get? i).any fun h => low < h.points && h.points ≤ high

def rises (t : Table Float β) (low high : Float) : List Crossing := (t.between low high).map .up

def falls (t : Table Float β) (high low : Float) : List Crossing := (t.between low high).reverse.map .down

theorem range'_level (ht : t.Valid) {low : Float} (hlow : Scalar.atMost Scalar.zero low = true) (high : Float) :
    List.range' (t.level low) (t.level high - t.level low) = t.between low high := by
  have hbetween : t.between low high =
      (List.range t.size).filter fun i => t.level low ≤ i && i < t.level high := by
    refine List.filter_congr fun i hi => ?_
    obtain ⟨h, hget⟩ : ∃ h, t.get? i = some h := ⟨_, List.getElem?_eq_getElem (List.mem_range.1 hi)⟩
    have hplace : ∃ p, p ∈ place h.points.toModel.unpack :=
      exists_place (isFinite_of_isPositive (ht.positive h (List.mem_of_getElem? hget)))
    have hlt := lt_iff_not_atMost (placed_of_nonneg hlow) hplace
    rw [← lt_level_of_get? ht low hget, not_lt] at hlt
    have hle := lt_level_of_get? ht high hget
    rw [hget, Option.any_some]
    rw [Bool.eq_iff_iff, Bool.and_eq_true, Bool.and_eq_true, decide_eq_true_iff, decide_eq_true_iff,
      decide_eq_true_iff, decide_eq_true_iff, hlt, hle]
    exact and_congr_right fun _ => decide_eq_true_iff.symm
  have hsize : min t.size (t.level high) = t.level high := min_eq_right (level_le_size t high)
  rw [hbetween, ← List.Ico.zero_bot, ← List.filter_filter, List.Ico.filter_lt, hsize, List.Ico.filter_le,
    Nat.zero_max]
  rfl

theorem crossings_rising (ht : t.Valid) {low high : Float} (hlow : Scalar.atMost Scalar.zero low = true)
    (h : Scalar.atMost low high = true) : crossings (t.level low) (t.level high) = t.rises low high := by
  have hlevel := level_le_level ht h
  rw [rises, ← range'_level ht hlow]
  unfold crossings
  split
  case isTrue => rfl
  case isFalse hlt =>
    have hequal : t.level low = t.level high := le_antisymm hlevel (not_lt.1 hlt)
    rw [hequal, Nat.sub_self]
    rfl

theorem crossings_descending (ht : t.Valid) {low high : Float} (hlow : Scalar.atMost Scalar.zero low = true)
    (h : t.level low ≤ t.level high) : crossings (t.level high) (t.level low) = t.falls high low := by
  rw [crossings, if_neg (not_lt.2 h), falls, ← range'_level ht hlow, List.map_reverse]

theorem crossings_falling (ht : t.Valid) {low high : Float} (hlow : Scalar.atMost Scalar.zero low = true)
    (h : Scalar.atMost low high = true) : crossings (t.level high) (t.level low) = t.falls high low :=
  crossings_descending ht hlow (level_le_level ht h)

theorem crossings_level (ht : t.Valid) {x y : Float} (hx : Scalar.atMost Scalar.zero x = true)
    (hy : Scalar.atMost Scalar.zero y = true) :
    crossings (t.level x) (t.level y) = if x ≤ y then t.rises x y else t.falls x y := by
  split
  case isTrue h => exact crossings_rising ht hx (decide_eq_true h)
  case isFalse h =>
    have hle := atMost_of_not (placed_of_nonneg hx) (placed_of_nonneg hy) fun hle => h (of_decide_eq_true hle)
    exact crossings_falling ht hy hle

theorem get?_of_mem_between {low high : Float} {i : Nat} (h : i ∈ t.between low high) :
    ∃ threshold, t.get? i = some threshold ∧ low < threshold.points ∧ threshold.points ≤ high := by
  obtain ⟨-, hvalue⟩ := List.mem_filter.1 h
  simpa [Option.any_eq_true] using hvalue

theorem direction_of_mem_falls {high low : Float} {c : Crossing} (h : c ∈ t.falls high low) :
    c.direction = .descending := by
  obtain ⟨i, -, rfl⟩ := List.mem_map.1 h
  rfl

theorem get?_of_mem_falls {high low : Float} {c : Crossing} (h : c ∈ t.falls high low) :
    ∃ threshold, t.get? c.index = some threshold := by
  obtain ⟨i, hi, rfl⟩ := List.mem_map.1 h
  obtain ⟨threshold, hget, -⟩ := get?_of_mem_between (List.mem_reverse.1 hi)
  exact ⟨threshold, hget⟩

theorem get?_of_mem_rises {low high : Float} {c : Crossing} (h : c ∈ t.rises low high) :
    ∃ threshold, t.get? c.index = some threshold := by
  obtain ⟨i, hi, rfl⟩ := List.mem_map.1 h
  obtain ⟨threshold, hget, -⟩ := get?_of_mem_between hi
  exact ⟨threshold, hget⟩

end Table

theorem LeakRate.zero_atMost_amount (rate : LeakRate Float) (elapsed : Time) :
    Scalar.atMost Scalar.zero (rate.amount elapsed) = true := by
  unfold amount
  split
  · exact zero_atMost_zero
  · exact floored_nonneg _

namespace Record

variable {β : Type} {r : Record Float β} {s : Settings Float β}

theorem leaked_atMost (hr : r.Sound) (rate : LeakRate Float) (now : Time) :
    Scalar.atMost (r.leaked rate now) r.points = true :=
  floored_sub_atMost hr.score (rate.zero_atMost_amount _)

theorem crossed_by_tick (hr : r.Sound) (hcurrent : r.installed = s.installed) (now : Time) :
    (r.tick s now).2 = s.installed.table.falls r.points (r.leaked s.leak now) := by
  rw [tick_eq (hcurrent ▸ rfl), hr.level, hcurrent]
  exact Table.crossings_falling (hcurrent ▸ hr.valid) (floored_nonneg _) (leaked_atMost hr _ _)

theorem crossed_by_update (hr : r.Sound) (hcurrent : r.installed = s.installed) (delta : Float) (now : Time) :
    (r.update delta s now).2 = s.installed.table.falls r.points (r.leaked s.leak now) ++
      if r.leaked s.leak now ≤ floored (Scalar.add (r.leaked s.leak now) delta) then
        s.installed.table.rises (r.leaked s.leak now) (floored (Scalar.add (r.leaked s.leak now) delta))
      else s.installed.table.falls (r.leaked s.leak now) (floored (Scalar.add (r.leaked s.leak now) delta)) := by
  have hstamp : r.installed.stamp = s.installed.stamp := hcurrent ▸ rfl
  rw [← crossed_by_tick hr hcurrent, update_eq hstamp, tick_eq hstamp]
  exact congrArg _ (Table.crossings_level (hcurrent ▸ hr.valid) (floored_nonneg _) (floored_nonneg _))

/-- A record in the table in force passes the thresholds between its old and its leaked score, and then those
between that and the score with the points added. -/
theorem crosses_thresholds_between (hr : r.Sound) (hcurrent : r.installed = s.installed) (delta : Float)
    (now : Time) :
    let table := s.installed.table
    let leaked := r.leaked s.leak now
    let added := floored (Scalar.add leaked delta)
    (r.tick s now).1.points = leaked ∧
    (r.update delta s now).1.points = added ∧
    (r.tick s now).2 = table.falls r.points leaked ∧
    (r.update delta s now).2 = table.falls r.points leaked ++
      (if leaked ≤ added then table.rises leaked added else table.falls leaked added) ∧
    (∀ c ∈ (r.tick s now).2, c.direction = .descending) ∧
    ∀ c ∈ (r.update delta s now).2, ∃ threshold, table.get? c.index = some threshold := by
  intro table leaked added
  have hstamp : r.installed.stamp = s.installed.stamp := hcurrent ▸ rfl
  have htick := crossed_by_tick hr hcurrent now
  have hupdate := crossed_by_update hr hcurrent delta now
  refine ⟨by rw [tick_eq hstamp], by rw [update_eq hstamp], htick, hupdate, ?_, ?_⟩
  · intro c hc
    rw [htick] at hc
    exact Table.direction_of_mem_falls hc
  · intro c hc
    rw [hupdate, List.mem_append] at hc
    rcases hc with hc | hc
    · exact Table.get?_of_mem_falls hc
    · split at hc
      · exact Table.get?_of_mem_rises hc
      · exact Table.get?_of_mem_falls hc

def threeSteps : List (Threshold Float Unit) := [⟨"five", 5, [], []⟩, ⟨"ten", 10, [], []⟩, ⟨"fifteen", 15, [], []⟩]

theorem ofList_threeSteps : Table.ofList threeSteps = .ok ⟨threeSteps⟩ :=
  Table.ofList_of_ascending (by decide +kernel) (by decide +kernel) (by decide +kernel)

theorem crosses_thresholds_between_threeSteps :
    let i : Installed Float Unit := ⟨1, ⟨threeSteps⟩⟩
    let r : Record Float Unit := ⟨15, 0, 3, i⟩
    r.Sound ∧ (r.update 10 ⟨⟨1, 1000⟩, i⟩ 10000).2 = [.down 2, .down 1, .up 1, .up 2] := by
  intro i r
  have hr : r.Sound := ⟨Table.valid_of_ofList ofList_threeSteps, by decide +kernel, by decide +kernel⟩
  obtain ⟨-, -, -, hupdate, -, -⟩ := crosses_thresholds_between hr (s := ⟨⟨1, 1000⟩, i⟩) rfl 10 10000
  exact ⟨hr, hupdate.trans (by decide +kernel)⟩

end Record

end Moderation.Points
