import Moderation.Proofs.Points.Crossings
import Moderation.Proofs.Points.Summation

/-!
Which way points move a score. What is crossed when points are added follows from three scores: the stored one, what
has not leaked of it, and the new one. While no time passes, points that are not below zero lead up only and points
that are not above zero down only, and each crossing takes one away from the thresholds that are left on that way.
-/

namespace Moderation

def Direction.Admits : Direction → Float → Prop
  | .ascending, delta => 0 ≤ delta
  | .descending, delta => delta ≤ 0

instance (d : Direction) (delta : Float) : Decidable (d.Admits delta) :=
  match d with
  | .ascending => inferInstanceAs (Decidable (0 ≤ delta))
  | .descending => inferInstanceAs (Decidable (delta ≤ 0))

namespace Points

variable {β : Type}

section Levels

theorem descending_of_mem_crossings {l m : Nat} (h : m ≤ l) {c : Crossing} (hc : c ∈ crossings l m) :
    c.direction = .descending := by
  rw [crossings, if_neg (not_lt.2 h)] at hc
  obtain ⟨i, -, rfl⟩ := List.mem_map.1 (List.mem_reverse.1 hc)
  rfl

theorem ascending_of_mem_crossings {l m : Nat} (h : l ≤ m) {c : Crossing} (hc : c ∈ crossings l m) :
    c.direction = .ascending := by
  rcases h.lt_or_eq with hlt | rfl
  · rw [crossings, if_pos hlt] at hc
    obtain ⟨i, -, rfl⟩ := List.mem_map.1 hc
    rfl
  · rw [crossings_self] at hc
    cases hc

theorem up_mem_crossings {l m i : Nat} : .up i ∈ crossings l m ↔ l ≤ i ∧ i < m := by
  unfold crossings
  split
  case isTrue hlt =>
    rw [List.mem_map_of_injective fun _ _ => Crossing.up.inj, List.mem_range'_1, Nat.add_sub_cancel' hlt.le]
  case isFalse hlt =>
    constructor
    · intro h
      obtain ⟨_, -, heq⟩ := List.mem_map.1 (List.mem_reverse.1 h)
      cases heq
    · intro h
      omega

theorem length_crossings (l m : Nat) : (crossings l m).length = (m - l) + (l - m) := by
  unfold crossings
  split <;> simp <;> omega

theorem Table.between_eq_nil_iff {t : Table Float β} {low high : Float} :
    t.between low high = [] ↔ ∀ h ∈ t.sorted, low < h.points → ¬h.points ≤ high := by
  rw [Table.between, List.filter_eq_nil_iff]
  constructor
  · intro hnone h hmem hlow hhigh
    obtain ⟨i, hi, rfl⟩ := List.getElem_of_mem hmem
    exact hnone i (List.mem_range.2 hi) (by simp [Table.get?, hi, hlow, hhigh])
  · intro hnone i hi
    rw [Table.get?, List.getElem?_eq_getElem (List.mem_range.1 hi), Option.any_some]
    simpa using hnone _ (List.getElem_mem _)

theorem Record.leaked_rebase (r : Record Float β) (i : Installed Float β) (rate : LeakRate Float) (now : Time) :
    (r.rebase i).leaked rate now = r.leaked rate now := by
  unfold Record.rebase
  split <;> rfl

end Levels

section Standing

theorem Record.leaked_fresh (i : Installed Float β) (rate : LeakRate Float) (now : Time) :
    (Record.fresh i now).leaked rate now = Scalar.zero := by
  have hamount : IsZero (rate.amount (now - now)) := (Nat.sub_self now).symm ▸ isZero_amount rate
  obtain ⟨sign, hamount⟩ := hamount
  have hzero : Scalar.sub (Scalar.zero : Float) (rate.amount (now - now)) = Scalar.zero := by
    have hmodel := sub_toModel Scalar.zero (rate.amount (now - now))
    rw [hamount] at hmodel
    cases sign <;> exact congrArg Float.ofModel hmodel
  change floored (Scalar.sub Scalar.zero (rate.amount (now - now))) = _
  rw [hzero]
  rfl

theorem Record.isSame_leaked_points {r : Record Float β} (hscore : Scalar.atMost Scalar.zero r.points = true)
    (rate : LeakRate Float) {now : Time} (h : now ≤ r.lastUpdate) : isSame (r.leaked rate now) r.points = true := by
  have hamount : IsZero (rate.amount (now - r.lastUpdate)) :=
    (Nat.sub_eq_zero_of_le h).symm ▸ isZero_amount rate
  unfold Record.leaked
  generalize rate.amount (now - r.lastUpdate) = amount at hamount
  by_cases hzero : IsZero r.points
  · have hsub : IsZero (Scalar.sub r.points amount) := by
      obtain ⟨u, hp⟩ := hzero
      obtain ⟨v, ha⟩ := hamount
      unfold IsZero
      rw [sub_toModel, hp, ha]
      cases u <;> cases v <;> exact ⟨_, rfl⟩
    exact isSame_of_isZero (isZero_floored (.inr hsub)) hzero
  · -- Taking zero away leaves the number as it is stored.
    have hsub : (Scalar.sub r.points amount).toModel.unpack = r.points.toModel.unpack := by
      obtain ⟨sign, ha⟩ := hamount
      rw [sub_toModel, ha, unpacked_sub_zero _ fun sign h => hzero ⟨sign, h⟩]
      exact unpack_pack_stored storable_of_unpack
    have hsame := isSame_refl_of_nonneg hscore
    rw [isSame, float_atMost] at hsame
    rw [float_atMost] at hscore
    rw [floored, float_atMost, hsub, if_pos hscore, isSame, float_atMost, float_atMost, hsub]
    exact hsame

end Standing

namespace Scoreboard

def standing (b : Scoreboard Float β) (id : String) : Nat := b.table.level (b.stored id)

theorem lt_standing_iff {b : Scoreboard Float β} (hb : b.table.Valid) (id : String) {place : Nat}
    {h : Threshold Float β} (hp : b.table.get? place = some h) :
    place < b.standing id ↔ h.points ≤ b.stored id := by
  rw [standing, Table.lt_level_of_get? hb _ hp]
  exact decide_eq_true_iff

theorem standing_of_other {b b' : Scoreboard Float β} {id : String} (htable : b'.table = b.table)
    (hrecord : b'.find? id = b.find? id) : b'.standing id = b.standing id := by
  rw [standing, standing, stored, stored, htable, hrecord]

def ahead (b : Scoreboard Float β) (id : String) : Direction → Nat
  | .ascending => b.table.size - b.table.level (b.stored id)
  | .descending => b.table.level (b.stored id)

theorem ahead_le_size (b : Scoreboard Float β) (id : String) (d : Direction) : b.ahead id d ≤ b.table.size := by
  cases d with
  | ascending => exact Nat.sub_le _ _
  | descending => exact Table.level_le_size _ _

def StandsStill (b : Scoreboard Float β) (id : String) (now : Time) : Prop :=
  ∀ e, b.find? id = some e → now ≤ e.record.lastUpdate

theorem find?_add (b : Scoreboard Float β) (a : Author) (delta : Float) (now : Time) :
    (b.add a delta now).1.find? a.id =
      some { b.entryFor a now with record := ((b.entryFor a now).record.update delta b.settings now).1 } :=
  (find?_store b a.id a.id _).trans (if_pos rfl)

theorem standsStill_add (b : Scoreboard Float β) (a : Author) (delta : Float) (now : Time) :
    (b.add a delta now).1.StandsStill a.id now := by
  intro e he
  obtain rfl := Option.some.inj ((b.find?_add a delta now).symm.trans he)
  exact le_rfl

theorem standsStill_tick (b : Scoreboard Float β) (id : String) (now : Time) :
    (b.tick id now).1.StandsStill id now := by
  intro e he
  unfold tick at he
  cases hfind : b.find? id with
  | none => simp [hfind] at he
  | some e' =>
    simp only [hfind, find?_store, if_true] at he
    obtain rfl := Option.some.inj he
    exact le_rfl

theorem stored_add (b : Scoreboard Float β) (a : Author) (delta : Float) (now : Time) :
    (b.add a delta now).1.stored a.id = (b.add a delta now).2.2 := by
  rw [stored, find?_add]
  rfl

theorem points_nonneg (b : Scoreboard Float β) (id : String) (now : Time) :
    Scalar.atMost Scalar.zero (b.points id now) = true := by
  unfold points
  cases b.find? id with
  | none => exact zero_atMost_zero
  | some e => exact floored_nonneg _

theorem standing_tick {b : Scoreboard Float β} {id : String} {e : Entry Float β} (he : b.find? id = some e)
    (now : Time) : (b.tick id now).1.standing id = b.table.level (b.points id now) := by
  have hleaked := Record.leaked_rebase e.record b.settings.installed b.settings.leak now
  simp only [standing, stored, points, tick, he, find?_store, if_true, Record.tick, Record.settle, Record.leak,
    hleaked, Option.elim_some]
  rfl

theorem find?_tick_other (b : Scoreboard Float β) {id id' : String} (h : id' ≠ id) (now : Time) :
    (b.tick id now).1.find? id' = b.find? id' := by
  unfold tick
  split
  · rfl
  · exact (find?_store ..).trans (if_neg h)

theorem update_entryFor (b : Scoreboard Float β) (a : Author) (delta : Float) (now : Time) :
    (b.add a delta now).2 =
      let r := ((b.entryFor a now).record.rebase b.settings.installed).update delta b.settings now
      (r.2, r.1.points) := by
  rw [Record.update_rebase]
  rfl

namespace WellKept

variable {b : Scoreboard Float β} (hb : b.WellKept)

include hb

theorem points_atMost_stored (id : String) (now : Time) :
    Scalar.atMost (b.points id now) (b.stored id) = true := by
  unfold points stored
  cases he : b.find? id with
  | none => exact zero_atMost_zero
  | some e => exact Record.leaked_atMost (hb.files id e he).sound _ _

theorem add_eq (a : Author) (delta : Float) (now : Time) :
    (b.add a delta now).2 =
      let total := floored (Scalar.add (b.points a.id now) delta)
      (crossings (b.table.level (b.stored a.id)) (b.table.level (b.points a.id now)) ++
        crossings (b.table.level (b.points a.id now)) (b.table.level total), total) := by
  have hfiles := hb.files_entryFor a now
  have hsound := hfiles.sound.rebase hfiles.dated hb.valid
  have hinstalled := Record.installed_rebase hfiles.dated
  rw [update_entryFor, Record.update_eq (congrArg _ hinstalled), hsound.level, hinstalled]
  have hstored : ((b.entryFor a now).record.rebase b.settings.installed).points = b.stored a.id := by
    rw [Record.points_rebase]
    unfold entryFor stored
    cases b.find? a.id <;> rfl
  have hleaked : ((b.entryFor a now).record.rebase b.settings.installed).leaked b.settings.leak now =
      b.points a.id now := by
    rw [Record.leaked_rebase]
    unfold entryFor points
    cases b.find? a.id with
    | none => exact Record.leaked_fresh _ _ _
    | some e => rfl
  rw [hstored, hleaked]
  rfl

theorem index_lt_of_mem_add {a : Author} {delta : Float} {now : Time} {c : Crossing}
    (hc : c ∈ (b.add a delta now).2.1) : c.index < b.table.size := by
  rw [hb.add_eq] at hc
  rcases List.mem_append.1 hc with hc | hc <;>
    exact (index_lt_of_mem_crossings hc).trans_le
      (max_le (Table.level_le_size _ _) (Table.level_le_size _ _))

theorem walk_add (a : Author) (delta : Float) (now : Time) :
    Walk (b.standing a.id) (b.add a delta now).2.1 ((b.add a delta now).1.standing a.id) := by
  have htable : (b.add a delta now).1.table = b.table := rfl
  rw [standing, standing, stored_add, htable, hb.add_eq]
  exact (Walk.of_crossings _ _).append (Walk.of_crossings _ _)

theorem tick_eq {id : String} {e : Entry Float β} (he : b.find? id = some e) (now : Time) :
    (b.tick id now).2 = some (e.author, crossings (b.standing id) (b.table.level (b.points id now))) := by
  have hfiles := hb.files id e he
  have hlevel := (hfiles.sound.rebase hfiles.dated hb.valid).level
  rw [Record.installed_rebase hfiles.dated, Record.points_rebase] at hlevel
  have hleaked := Record.leaked_rebase e.record b.settings.installed b.settings.leak now
  simp only [Scoreboard.tick, he, Record.tick, Record.settle, Record.leak, hlevel, hleaked, standing, stored,
    points, Option.elim_some]
  rfl

theorem walk_tick {id : String} {a : Author} {cs : List Crossing} {now : Time}
    (h : (b.tick id now).2 = some (a, cs)) :
    Walk (b.standing id) cs ((b.tick id now).1.standing id) ∧ ∀ c ∈ cs, c.index < b.table.size := by
  cases he : b.find? id with
  | none => simp [Scoreboard.tick, he] at h
  | some e =>
    rw [hb.tick_eq he] at h
    obtain ⟨-, rfl⟩ := Prod.mk.inj (Option.some.inj h)
    rw [standing_tick he]
    refine ⟨Walk.of_crossings _ _, fun c hc => ?_⟩
    exact (index_lt_of_mem_crossings hc).trans_le
      (max_le (Table.level_le_size _ _) (Table.level_le_size _ _))

theorem not_up_iff_level (a : Author) (delta : Float) (now : Time) :
    (∀ i, .up i ∉ (b.add a delta now).2.1) ↔
      b.table.level (b.add a delta now).2.2 ≤ b.table.level (b.points a.id now) := by
  have hleaked := Table.level_le_level hb.valid (hb.points_atMost_stored a.id now)
  simp only [hb.add_eq, List.mem_append, up_mem_crossings, not_or, not_and, not_lt]
  constructor
  · intro h
    by_contra hlt
    exact hlt ((h _).2 le_rfl)
  · intro h i
    omega

theorem not_up_iff (a : Author) (delta : Float) (now : Time) :
    (∀ i, .up i ∉ (b.add a delta now).2.1) ↔
      ∀ t ∈ b.table.sorted, b.points a.id now < t.points → ¬t.points ≤ (b.add a delta now).2.2 := by
  rw [hb.not_up_iff_level, ← Table.between_eq_nil_iff,
    ← Table.range'_level hb.valid (b.points_nonneg a.id now), List.range'_eq_nil_iff, Nat.sub_eq_zero_iff_le]

theorem not_up_of_nonpos (a : Author) {delta : Float} (hdelta : delta ≤ 0) (now : Time) (i : Nat) :
    .up i ∉ (b.add a delta now).2.1 := by
  refine (hb.not_up_iff_level a delta now).2 ?_ i
  rw [hb.add_eq]
  exact Table.level_le_level hb.valid (floored_add_atMost (b.points_nonneg a.id now) (decide_eq_true hdelta))

theorem crossed_eq_falls {a : Author} {delta : Float} {now : Time} (h : ∀ i, .up i ∉ (b.add a delta now).2.1) :
    (b.add a delta now).2.1 = b.table.falls (b.stored a.id) (b.add a delta now).2.2 := by
  have hleaked := Table.level_le_level hb.valid (hb.points_atMost_stored a.id now)
  have hfallen := (hb.not_up_iff_level a delta now).1 h
  have htotal : Scalar.atMost Scalar.zero (b.add a delta now).2.2 = true := floored_nonneg _
  rw [← Table.crossings_descending hb.valid htotal (hfallen.trans hleaked), ← crossings_append hleaked hfallen,
    hb.add_eq]

theorem level_points {id : String} {now : Time} (hstill : b.StandsStill id now) :
    b.table.level (b.points id now) = b.table.level (b.stored id) := by
  have hsame : isSame (b.points id now) (b.stored id) = true := by
    unfold points stored
    cases he : b.find? id with
    | none => exact isSame_refl_of_nonneg zero_atMost_zero
    | some e => exact Record.isSame_leaked_points (hb.files id e he).sound.score _ (hstill e he)
  obtain ⟨hle, hge⟩ := (Bool.and_eq_true _ _).mp hsame
  exact le_antisymm (Table.level_le_level hb.valid hle) (Table.level_le_level hb.valid hge)

theorem add_course {d : Direction} {a : Author} {now : Time} {delta : Float} (hstill : b.StandsStill a.id now)
    (hdelta : d.Admits delta) :
    (∀ c ∈ (b.add a delta now).2.1, c.direction = d) ∧
      (b.add a delta now).1.ahead a.id d + (b.add a delta now).2.1.length = b.ahead a.id d := by
  have hscore := b.points_nonneg a.id now
  have hlevel := hb.level_points hstill
  have hcrossed : (b.add a delta now).2.1 =
      crossings (b.table.level (b.stored a.id)) (b.table.level (b.add a delta now).2.2) := by
    rw [hb.add_eq]
    dsimp only
    rw [hlevel, crossings_self, List.nil_append]
  have hsize := b.table.level_le_size (b.add a delta now).2.2
  have htable : (b.add a delta now).1.table = b.table := rfl
  have hahead : (b.add a delta now).1.ahead a.id d = match d with
      | .ascending => b.table.size - b.table.level (b.add a delta now).2.2
      | .descending => b.table.level (b.add a delta now).2.2 := by
    rw [← stored_add]
    cases d <;> rfl
  have htotal : (b.add a delta now).2.2 = floored (Scalar.add (b.points a.id now) delta) := by rw [hb.add_eq]
  rw [hcrossed, hahead, length_crossings]
  cases d with
  | ascending =>
    have hrise := Table.level_le_level hb.valid (atMost_floored_add hscore (decide_eq_true hdelta))
    rw [hlevel, ← htotal] at hrise
    refine ⟨fun c hc => ascending_of_mem_crossings hrise hc, ?_⟩
    dsimp only [ahead]
    omega
  | descending =>
    have hfall := Table.level_le_level hb.valid (floored_add_atMost hscore (decide_eq_true hdelta))
    rw [hlevel, ← htotal] at hfall
    refine ⟨fun c hc => descending_of_mem_crossings hfall hc, ?_⟩
    dsimp only [ahead]
    omega

end WellKept

end Scoreboard

end Points

end Moderation
