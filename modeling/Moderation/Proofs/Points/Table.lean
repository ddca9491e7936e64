import Mathlib.Data.List.Pairwise
import Mathlib.Data.List.TakeWhile
import Moderation.Points.Threshold
import Moderation.Proofs.Points.FloatOrder

namespace Moderation.Points.Table

variable {α β : Type} [Scalar α]

structure Valid (t : Table α β) : Prop where
  ascending : t.sorted.Pairwise fun a b => Scalar.atMost a.points b.points = true
  positive : ∀ h ∈ t.sorted, isPositive h.points = true

theorem isFinite_of_isPositive {x : α} (h : isPositive x = true) : Scalar.isFinite x = true := by
  rw [isPositive, Bool.and_eq_true] at h
  exact h.1

theorem not_atMost_zero_of_isPositive {x : α} (h : isPositive x = true) :
    Scalar.atMost x Scalar.zero = false := by
  rw [isPositive, Bool.and_eq_true, Bool.not_eq_true'] at h
  exact h.2

theorem pairwise_mergeSort_of_isPositive [OrderedScalar α] (ts : List (Threshold α β))
    (h : ∀ t ∈ ts, isPositive t.points = true) :
    (ts.mergeSort fun a b => Scalar.atMost a.points b.points).Pairwise
      fun a b => Scalar.atMost a.points b.points = true := by
  -- The order is total on positive values alone, so the sort is moved to the subtype of these.
  let us : List { t : Threshold α β // isPositive t.points = true } := ts.attachWith _ h
  have hus : us.map Subtype.val = ts := by simp [us]
  have hsort := @List.pairwise_mergeSort _
    (fun a b : { t : Threshold α β // isPositive t.points = true } =>
      Scalar.atMost a.1.points b.1.points)
    (fun _ _ _ => OrderedScalar.atMost_trans)
    (fun a b => by
      rw [Bool.or_eq_true]
      exact OrderedScalar.atMost_total (isFinite_of_isPositive a.2) (isFinite_of_isPositive b.2)) us
  have hmap := List.map_mergeSort (f := Subtype.val)
    (r := fun a b : { t : Threshold α β // isPositive t.points = true } =>
      Scalar.atMost a.1.points b.1.points)
    (s := fun a b => Scalar.atMost a.points b.points) (l := us) fun _ _ _ _ => rfl
  rw [← hus, ← hmap, List.pairwise_map]
  exact hsort

def Precedes (a b : Threshold α β) : Prop :=
  Scalar.atMost a.points b.points = true ∧ Scalar.atMost b.points a.points = false

theorem precedes_iff {a b : Threshold α β} :
    Precedes a b ↔ Scalar.atMost a.points b.points = true ∧ isSame a.points b.points = false := by
  rw [Precedes, isSame, Bool.and_eq_false_iff]
  refine and_congr_right fun hle => ?_
  rw [hle]
  simp

theorem isSame_symm {a b : Threshold α β} (h : isSame a.points b.points = false) :
    isSame b.points a.points = false := (Bool.and_comm _ _).trans h

theorem sharing?_of_pairwise {ts : List (Threshold α β)}
    (h : ts.Pairwise fun a b => isSame a.points b.points = false) : sharing? ts = none := by
  induction ts with
  | nil => rfl
  | cons a ts ih =>
    rw [List.pairwise_cons] at h
    cases ts with
    | nil => rfl
    | cons b ts =>
      rw [sharing?, h.1 b (by simp)]
      exact ih h.2

theorem pairwise_precedes [OrderedScalar α] {ts : List (Threshold α β)}
    (hasc : ts.Pairwise fun a b => Scalar.atMost a.points b.points = true) (hnone : sharing? ts = none) :
    ts.Pairwise Precedes := by
  induction ts with
  | nil => exact .nil
  | cons a ts ih =>
    rw [List.pairwise_cons] at hasc
    cases ts with
    | nil => exact List.pairwise_singleton _ _
    | cons b ts =>
      cases hsame : isSame a.points b.points with
      | true => simp [sharing?, hsame] at hnone
      | false =>
        rw [sharing?, hsame] at hnone
        have hab := precedes_iff.2 ⟨hasc.1 b List.mem_cons_self, hsame⟩
        refine List.pairwise_cons.2 ⟨fun x hx => ⟨hasc.1 x hx, ?_⟩, ih hasc.2 hnone⟩
        rcases List.mem_cons.1 hx with rfl | hx'
        · exact hab.2
        · have hbx := (List.pairwise_cons.1 hasc.2).1 x hx'
          exact Bool.eq_false_iff.2 fun hxa => Bool.eq_false_iff.1 hab.2 (OrderedScalar.atMost_trans hbx hxa)

theorem mergeSort_eq_of_precedes [OrderedScalar α] {ts row : List (Threshold α β)}
    (hpos : ∀ h ∈ ts, isPositive h.points = true) (hperm : row.Perm ts) (hrow : row.Pairwise Precedes) :
    ts.mergeSort (fun a b => Scalar.atMost a.points b.points) = row := by
  have hsort := List.mergeSort_perm ts fun a b => Scalar.atMost a.points b.points
  have hdistinct : row.Pairwise fun a b => isSame a.points b.points = false :=
    hrow.imp fun h => (precedes_iff.1 h).2
  have : Std.Symm fun a b : Threshold α β => isSame a.points b.points = false := ⟨fun _ _ => isSame_symm⟩
  refine List.Perm.eq_of_pairwise (fun a b ha hb hab hba => ?_) (pairwise_mergeSort_of_isPositive ts hpos)
    (hrow.imp And.left) (hsort.trans hperm.symm)
  by_contra hne
  have hsame := hdistinct.forall (hperm.mem_iff.2 (hsort.mem_iff.1 ha)) hb hne
  rw [isSame, hab, hba] at hsame
  exact Bool.noConfusion hsame

theorem ofList_eq_ok_iff [OrderedScalar α] {ts : List (Threshold α β)} {t : Table α β} :
    ofList ts = .ok t ↔
      (∀ h ∈ ts, isPositive h.points = true) ∧ t.sorted.Perm ts ∧ t.sorted.Pairwise Precedes := by
  constructor
  · intro h
    unfold ofList at h
    split at h
    · cases h
    · rename_i hnone
      have hpos : ∀ x ∈ ts, isPositive x.points = true := by
        simpa only [List.find?_eq_none, Bool.not_eq_true', Bool.not_eq_false] using hnone
      dsimp only at h
      split at h
      · cases h
      · rename_i hdistinct
        obtain rfl := Except.ok.inj h
        exact ⟨hpos, List.mergeSort_perm _ _,
          pairwise_precedes (pairwise_mergeSort_of_isPositive ts hpos) hdistinct⟩
  · rintro ⟨hpos, hperm, hrow⟩
    have hnone : ts.find? (fun t => !isPositive t.points) = none := by
      rw [List.find?_eq_none]
      intro t ht
      simp [hpos t ht]
    simp only [ofList, hnone, mergeSort_eq_of_precedes hpos hperm hrow,
      sharing?_of_pairwise (hrow.imp fun h => (precedes_iff.1 h).2)]

theorem valid_of_ofList [OrderedScalar α] {ts : List (Threshold α β)} {t : Table α β}
    (h : ofList ts = .ok t) : t.Valid := by
  obtain ⟨hpos, hperm, hrow⟩ := ofList_eq_ok_iff.1 h
  exact ⟨hrow.imp And.left, fun x hx => hpos x (hperm.mem_iff.1 hx)⟩

theorem exists_ofList_iff [OrderedScalar α] {ts : List (Threshold α β)} :
    (∃ t, ofList ts = .ok t) ↔ (∀ h ∈ ts, isPositive h.points = true) ∧
      ts.Pairwise fun a b => isSame a.points b.points = false := by
  constructor
  · rintro ⟨t, ht⟩
    obtain ⟨hpos, hperm, hrow⟩ := ofList_eq_ok_iff.1 ht
    exact ⟨hpos, (hperm.pairwise_iff isSame_symm).1 (hrow.imp fun h => (precedes_iff.1 h).2)⟩
  · rintro ⟨hpos, hdistinct⟩
    have hperm := List.mergeSort_perm ts fun a b => Scalar.atMost a.points b.points
    refine ⟨⟨_⟩, ofList_eq_ok_iff.2 ⟨hpos, hperm, ?_⟩⟩
    exact ((pairwise_mergeSort_of_isPositive ts hpos).and ((hperm.pairwise_iff isSame_symm).2 hdistinct)).imp
      precedes_iff.2

theorem ofList_of_ascending [OrderedScalar α] {ts : List (Threshold α β)}
    (hpos : ∀ t ∈ ts, isPositive t.points = true)
    (hasc : ts.Pairwise fun a b => Scalar.atMost a.points b.points = true)
    (hne : ts.Pairwise fun a b => isSame a.points b.points = false) : ofList ts = .ok ⟨ts⟩ :=
  ofList_eq_ok_iff.2 ⟨hpos, .refl ts, (hasc.and hne).imp precedes_iff.2⟩

theorem lt_level_iff [OrderedScalar α] {t : Table α β} (ht : t.Valid) (score : α) (i : Nat) :
    i < t.level score ↔ ∃ h, t.get? i = some h ∧ Scalar.atMost h.points score = true := by
  have hasc := ht.ascending
  unfold level get?
  generalize t.sorted = hs at hasc
  induction hs generalizing i with
  | nil => simp
  | cons h hs ih =>
    rw [List.pairwise_cons] at hasc
    cases hreach : Scalar.atMost h.points score with
    | true =>
      cases i with
      | zero => simp [hreach]
      | succ i => simpa [hreach] using ih i hasc.2
    | false =>
      -- Nothing behind a threshold that is not reached is reached either.
      have hnone : ∀ x ∈ hs, Scalar.atMost x.points score ≠ true := by
        intro x hx hxs
        rw [OrderedScalar.atMost_trans (hasc.1 x hx) hxs] at hreach
        exact Bool.noConfusion hreach
      cases i with
      | zero => simp [hreach]
      | succ i =>
        simp only [List.takeWhile_cons, hreach, Bool.false_eq_true, if_false, List.length_nil,
          Nat.not_lt_zero, List.getElem?_cons_succ, false_iff, not_exists, not_and]
        exact fun x hx => hnone x (List.mem_of_getElem? hx)

theorem lt_level_of_get? [OrderedScalar α] {t : Table α β} (ht : t.Valid) (score : α) {i : Nat}
    {h : Threshold α β} (hi : t.get? i = some h) :
    i < t.level score ↔ Scalar.atMost h.points score = true := by
  rw [lt_level_iff ht, hi]
  simp

theorem level_le_level [OrderedScalar α] {t : Table α β} (ht : t.Valid) {x y : α}
    (h : Scalar.atMost x y = true) : t.level x ≤ t.level y := by
  by_contra hlt
  obtain ⟨threshold, hget, hx⟩ := (lt_level_iff ht x _).1 (not_le.1 hlt)
  exact lt_irrefl _ ((lt_level_iff ht y _).2 ⟨threshold, hget, OrderedScalar.atMost_trans hx h⟩)

theorem level_le_size (t : Table α β) (score : α) : t.level score ≤ t.size :=
  (List.takeWhile_sublist _).length_le

theorem level_zero {t : Table α β} (ht : t.Valid) : t.level Scalar.zero = 0 := by
  unfold level
  cases hs : t.sorted with
  | nil => rfl
  | cons h hs' =>
    have := not_atMost_zero_of_isPositive (ht.positive h (by simp [hs]))
    simp [this]

end Moderation.Points.Table
