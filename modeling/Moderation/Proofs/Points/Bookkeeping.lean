import Moderation.Proofs.Points.Scoreboard
import Moderation.Proofs.Points.Standstill

/-!
Records in order. A record may be on a table that is no longer in force, until it is touched the next time; what
its score and its level are to each other is a matter of the table that it is on.
-/

open Float.Model (UnpackedFloat)

namespace Moderation.Points

structure IsScore (x : Float) : Prop where
  number : x.isNaN = false
  nonneg : ¬x < 0

theorem float_lt (a b : Float) : a < b ↔ a.toModel.unpack.lt b.toModel.unpack = true := by
  change decide (a.toModel.unpack.lt b.toModel.unpack = true) = true ↔ _
  rw [Bool.decide_eq_true]

theorem unpacked_of_zero_le {u : UnpackedFloat} (h : UnpackedFloat.le (.zero .positive) u = true) :
    u.isNaN = false ∧ u.lt (.zero .positive) = false := by
  rcases u with (_ | _) | _ | _ | ⟨(_ | _), m, e, hm⟩
  all_goals first
    | exact ⟨rfl, rfl⟩
    | cases h

theorem isScore_of_atMost {x : Float} (h : Scalar.atMost Scalar.zero x = true) : IsScore x := by
  rw [float_atMost] at h
  obtain ⟨hnumber, hnonneg⟩ := unpacked_of_zero_le h
  exact ⟨hnumber, fun hlt => Bool.false_ne_true (hnonneg.symm.trans ((float_lt x 0).1 hlt))⟩

theorem isScore_floored (x : Float) : IsScore (floored x) := isScore_of_atMost (floored_nonneg x)

theorem zero_atMost_zero : Scalar.atMost (Scalar.zero : Float) Scalar.zero = true := rfl

theorem isScore_zero : IsScore Scalar.zero := isScore_of_atMost zero_atMost_zero

namespace Table

theorem length_takeWhile_eq_countP {γ : Type} {p : γ → Bool} {l : List γ}
    (h : l.Pairwise fun x y => p y = true → p x = true) : (l.takeWhile p).length = l.countP p := by
  induction l with
  | nil => rfl
  | cons x l ih =>
    rw [List.pairwise_cons] at h
    by_cases hx : p x = true
    · rw [List.takeWhile_cons_of_pos hx, List.countP_cons_of_pos hx, List.length_cons, ih h.2]
    · -- Nothing behind an element that fails holds.
      have hnone : l.countP p = 0 := List.countP_eq_zero.2 fun y hy hpy => hx (h.1 y hy hpy)
      rw [List.takeWhile_cons_of_neg hx, List.countP_cons_of_neg hx, hnone, List.length_nil]

theorem level_eq_countP {α β : Type} [Scalar α] [OrderedScalar α] {t : Table α β} (ht : t.Valid) (score : α) :
    t.level score = t.sorted.countP fun h => Scalar.atMost h.points score :=
  length_takeWhile_eq_countP (ht.ascending.imp fun hxy hy => OrderedScalar.atMost_trans hxy hy)

end Table

variable {β : Type}

namespace Record

variable {r : Record Float β} {s : Settings Float β} {now : Time}

structure Sound (r : Record Float β) : Prop where
  valid : r.installed.table.Valid
  score : Scalar.atMost Scalar.zero r.points = true
  level : r.level = r.installed.table.level r.points

theorem sound_fresh {i : Installed Float β} (hi : i.table.Valid) (now : Time) : (fresh i now).Sound :=
  ⟨hi, zero_atMost_zero, (Table.level_zero hi).symm⟩

/-- One stamp is not given to two tables. -/
def Dated (r : Record Float β) (i : Installed Float β) : Prop :=
  r.installed.stamp = i.stamp → r.installed = i

theorem installed_rebase {i : Installed Float β} (h : r.Dated i) : (r.rebase i).installed = i := by
  unfold rebase
  split
  case isTrue hstamp => exact h hstamp
  case isFalse => rfl

theorem points_rebase (r : Record Float β) (i : Installed Float β) : (r.rebase i).points = r.points := by
  unfold rebase
  split <;> rfl

theorem Sound.rebase {i : Installed Float β} (hr : r.Sound) (h : r.Dated i) (hi : i.table.Valid) :
    (r.rebase i).Sound where
  valid := (installed_rebase h).symm ▸ hi
  score := (points_rebase r i).symm ▸ hr.score
  level := by
    unfold Record.rebase
    split
    · exact hr.level
    · rfl

theorem installed_tick (h : r.Dated s.installed) (now : Time) : (r.tick s now).1.installed = s.installed :=
  installed_rebase h

theorem sound_tick (h : r.Dated s.installed) (hs : s.installed.table.Valid) : (r.tick s now).1.Sound where
  valid := (installed_tick h now).symm ▸ hs
  score := floored_nonneg _
  level := (installed_tick h now).symm ▸ rfl

theorem installed_update (h : r.Dated s.installed) (delta : Float) (now : Time) :
    (r.update delta s now).1.installed = s.installed :=
  installed_rebase h

theorem sound_update (h : r.Dated s.installed) (hs : s.installed.table.Valid) (delta : Float) :
    (r.update delta s now).1.Sound where
  valid := (installed_update h delta now).symm ▸ hs
  score := floored_nonneg _
  level := (installed_update h delta now).symm ▸ rfl

end Record

namespace Scoreboard

structure Files (b : Scoreboard Float β) (id : String) (e : Entry Float β) : Prop where
  author : e.author.id = id
  sound : e.record.Sound
  dated : e.record.Dated b.settings.installed
  stamp : e.record.installed.stamp < b.nextStamp

structure WellKept (b : Scoreboard Float β) : Prop where
  valid : b.table.Valid
  stamp : b.settings.installed.stamp < b.nextStamp
  files : ∀ id e, b.find? id = some e → b.Files id e

theorem wellKept_initial : (initial (β := β)).WellKept where
  valid := ⟨.nil, fun _ h => by cases h⟩
  stamp := Nat.zero_lt_one
  files _ _ h := by cases h

namespace WellKept

variable {b : Scoreboard Float β} (hb : b.WellKept)

include hb

theorem enable {table : Table Float β} (ht : table.Valid) (leak : LeakRate Float) (now : Time) :
    (b.enable leak table now).WellKept where
  valid := ht
  stamp := Nat.lt_succ_self _
  files id e he :=
    have hfiles := hb.files id e he
    -- No record has the stamp that is given out now.
    { author := hfiles.author
      sound := hfiles.sound
      dated := fun hstamp => absurd hstamp (Nat.ne_of_lt hfiles.stamp)
      stamp := Nat.lt_succ_of_lt hfiles.stamp }

theorem disable : b.disable.WellKept where
  valid := hb.valid
  stamp := hb.stamp
  files _ _ h := by cases h

theorem drop (id : String) : (b.drop id).WellKept where
  valid := hb.valid
  stamp := hb.stamp
  files id' e he := by
    rw [find?_drop] at he
    split at he
    · cases he
    · have hfiles := hb.files id' e he
      exact ⟨hfiles.author, hfiles.sound, hfiles.dated, hfiles.stamp⟩

theorem store {id : String} {e : Entry Float β} (he : b.Files id e) : (b.store id e).WellKept where
  valid := hb.valid
  stamp := hb.stamp
  files id' e' h := by
    rw [find?_store] at h
    split at h
    case isTrue hid =>
      subst hid
      obtain rfl := Option.some.inj h
      exact ⟨he.author, he.sound, he.dated, he.stamp⟩
    case isFalse =>
      have hfiles := hb.files id' e' h
      exact ⟨hfiles.author, hfiles.sound, hfiles.dated, hfiles.stamp⟩

theorem files_of_installed {id : String} {e : Entry Float β} (hauthor : e.author.id = id)
    (hsound : e.record.Sound) (hinstalled : e.record.installed = b.settings.installed) : b.Files id e where
  author := hauthor
  sound := hsound
  dated _ := hinstalled
  stamp := hinstalled ▸ hb.stamp

theorem files_entryFor (a : Author) (now : Time) : b.Files a.id (b.entryFor a now) := by
  unfold entryFor
  cases h : b.find? a.id with
  | none => exact hb.files_of_installed rfl (Record.sound_fresh hb.valid now) rfl
  | some e => exact hb.files a.id e h

theorem add (a : Author) (delta : Float) (now : Time) : (b.add a delta now).1.WellKept := by
  have hfiles := hb.files_entryFor a now
  exact hb.store (hb.files_of_installed hfiles.author (Record.sound_update hfiles.dated hb.valid delta)
    (Record.installed_update hfiles.dated delta now))

theorem tick (id : String) (now : Time) : (b.tick id now).1.WellKept := by
  unfold Scoreboard.tick
  split
  · exact hb
  · rename_i e he
    have hfiles := hb.files id e he
    exact hb.store (hb.files_of_installed hfiles.author (Record.sound_tick hfiles.dated hb.valid)
      (Record.installed_tick hfiles.dated now))

theorem author_tick {id : String} {now : Time} {a : Author} {cs : List Crossing}
    (h : (b.tick id now).2 = some (a, cs)) : a.id = id := by
  unfold Scoreboard.tick at h
  split at h
  · cases h
  · rename_i e he
    obtain ⟨rfl, -⟩ := Prod.mk.inj (Option.some.inj h)
    exact (hb.files id e he).author

end WellKept

theorem isScore_add (b : Scoreboard Float β) (a : Author) (delta : Float) (now : Time) :
    IsScore (b.add a delta now).2.2 :=
  isScore_floored _

theorem isScore_points (b : Scoreboard Float β) (id : String) (now : Time) : IsScore (b.points id now) := by
  unfold points
  cases b.find? id with
  | none => exact isScore_zero
  | some e => exact isScore_floored _

end Scoreboard

end Moderation.Points
