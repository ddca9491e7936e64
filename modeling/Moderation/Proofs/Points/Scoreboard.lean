import Moderation.Points.Scoreboard
import Moderation.Proofs.Points.Table
import Moderation.Proofs.Points.Walk

namespace Moderation.Points

variable {α β : Type}

namespace Record

variable [Scalar α]

theorem rebase_of_stamp_eq {r : Record α β} {i : Installed α β} (h : r.installed.stamp = i.stamp) :
    r.rebase i = r :=
  if_pos h

theorem stamp_rebase (r : Record α β) (i : Installed α β) :
    (r.rebase i).installed.stamp = i.stamp := by
  unfold rebase
  split
  · assumption
  · rfl

theorem rebase_rebase (r : Record α β) (i : Installed α β) : (r.rebase i).rebase i = r.rebase i :=
  rebase_of_stamp_eq (stamp_rebase r i)

theorem tick_rebase (r : Record α β) (s : Settings α β) (now : Time) :
    (r.rebase s.installed).tick s now = r.tick s now := by
  rw [tick, rebase_rebase, tick]

theorem update_rebase (r : Record α β) (delta : α) (s : Settings α β) (now : Time) :
    (r.rebase s.installed).update delta s now = r.update delta s now := by
  rw [update, tick_rebase, update]

theorem settle_walk (r : Record α β) (t : Table α β) :
    Walk r.level (r.settle t).2 (r.settle t).1.level :=
  Walk.of_crossings _ _

theorem tick_index_lt {r : Record α β} {s : Settings α β} {now : Time} {c : Crossing}
    (hr : (r.rebase s.installed).level ≤ s.installed.table.size) (hc : c ∈ (r.tick s now).2) :
    c.index < s.installed.table.size :=
  lt_of_lt_of_le (index_lt_of_mem_crossings hc) (max_le hr (Table.level_le_size _ _))

theorem tick_stamp (r : Record α β) (s : Settings α β) (now : Time) :
    (r.tick s now).1.installed.stamp = s.installed.stamp :=
  stamp_rebase r s.installed

theorem tick_walk (r : Record α β) (s : Settings α β) (now : Time) :
    Walk (r.rebase s.installed).level (r.tick s now).2 (r.tick s now).1.level :=
  settle_walk ((r.rebase s.installed).leak s.leak now) s.installed.table

theorem update_index_lt {r : Record α β} {delta : α} {s : Settings α β} {now : Time}
    {c : Crossing} (hr : (r.rebase s.installed).level ≤ s.installed.table.size)
    (hc : c ∈ (r.update delta s now).2) : c.index < s.installed.table.size := by
  rcases List.mem_append.1 hc with hc | hc
  · exact tick_index_lt hr hc
  · exact lt_of_lt_of_le (index_lt_of_mem_crossings hc)
      (max_le (Table.level_le_size _ _) (Table.level_le_size _ _))

theorem update_stamp (r : Record α β) (delta : α) (s : Settings α β) (now : Time) :
    (r.update delta s now).1.installed.stamp = s.installed.stamp :=
  tick_stamp r s now

theorem update_walk (r : Record α β) (delta : α) (s : Settings α β) (now : Time) :
    Walk (r.rebase s.installed).level (r.update delta s now).2 (r.update delta s now).1.level :=
  (tick_walk r s now).append (settle_walk
    { (r.tick s now).1 with points := floored (Scalar.add (r.tick s now).1.points delta) }
    s.installed.table)

end Record

namespace Scoreboard

theorem lookup_cons_eq_ite {γ : Type} (k id : String) (e : γ) (entries : List (String × γ)) :
    ((k, e) :: entries).lookup id = if id = k then some e else entries.lookup id := by
  by_cases h : id = k
  · simp [h]
  · simp [List.lookup_cons, beq_eq_false_iff_ne.2 h, h]

theorem lookup_replace (id id' : String) (e : Entry α β) (entries : List (String × Entry α β)) :
    (entries.map fun x => if x.1 == id then (id, e) else x).lookup id' =
      if id' = id then (entries.lookup id').map fun _ => e else entries.lookup id' := by
  induction entries with
  | nil => simp
  | cons x xs ih =>
    obtain ⟨k, v⟩ := x
    by_cases hk : k = id
    · by_cases hid : id' = k <;> simp_all [lookup_cons_eq_ite]
    · have hk' : id ≠ k := fun h => hk h.symm
      by_cases hid : id' = k <;> simp_all [lookup_cons_eq_ite]

theorem find?_store (b : Scoreboard α β) (id id' : String) (e : Entry α β) :
    (b.store id e).find? id' = if id' = id then some e else b.find? id' := by
  unfold store find?
  dsimp only
  split
  case isTrue h =>
    rw [lookup_replace]
    by_cases hid : id' = id
    · obtain ⟨x, hx, hxid⟩ := List.any_eq_true.1 h
      obtain ⟨v, hv⟩ : ∃ v, b.entries.lookup id = some v :=
        Option.isSome_iff_exists.1
          (List.lookup_isSome_iff.2 ⟨x, hx, beq_iff_eq.2 (eq_of_beq hxid).symm⟩)
      rw [hid, hv]
      rfl
    · simp only [hid, if_false]
  case isFalse h =>
    rw [List.lookup_append, lookup_cons_eq_ite, List.lookup_nil]
    by_cases hid : id' = id
    · have hnone : b.entries.lookup id = none := by
        rw [List.lookup_eq_none_iff]
        intro x hx
        rw [bne_iff_ne]
        intro heq
        exact h (List.any_eq_true.2 ⟨x, hx, beq_iff_eq.2 heq.symm⟩)
      rw [hid, hnone, if_pos rfl]
      rfl
    · rw [if_neg hid, if_neg hid, Option.or_none]

theorem lookup_filter_ne {γ : Type} (id id' : String) (entries : List (String × γ)) :
    (entries.filter fun x => x.1 != id).lookup id' =
      if id' = id then none else entries.lookup id' := by
  induction entries with
  | nil => simp
  | cons x xs ih =>
    obtain ⟨k, v⟩ := x
    by_cases hk : k = id
    · rw [List.filter_cons_of_neg (by simp [hk]), ih, lookup_cons_eq_ite, hk]
      split <;> rfl
    · rw [List.filter_cons_of_pos (by simp [hk]), lookup_cons_eq_ite, ih, lookup_cons_eq_ite]
      by_cases hid : id' = k
      · rw [if_pos hid, if_pos hid, if_neg (hid ▸ hk)]
      · rw [if_neg hid, if_neg hid]

theorem lookup_cons_filter {γ : Type} (id id' : String) (e : γ) (entries : List (String × γ)) :
    ((id, e) :: entries.filter fun x => x.1 != id).lookup id' =
      if id' = id then some e else entries.lookup id' := by
  rw [lookup_cons_eq_ite, lookup_filter_ne]
  split <;> rfl

def table (b : Scoreboard α β) : Table α β := b.settings.installed.table

def level (b : Scoreboard α β) (id : String) : Nat := (b.find? id).elim 0 (·.record.level)

variable [Scalar α]

def stored (b : Scoreboard α β) (id : String) : α :=
  (b.find? id).elim Scalar.zero (·.record.points)

structure Settled (b : Scoreboard α β) (id : String) (e : Entry α β) : Prop where
  author : e.author.id = id
  stamp : e.record.installed.stamp = b.settings.installed.stamp
  level : e.record.level = b.table.level e.record.points

structure Consistent (b : Scoreboard α β) : Prop where
  valid : b.table.Valid
  settled : ∀ id e, b.find? id = some e → b.Settled id e

theorem Consistent.level_eq {b : Scoreboard α β} (hb : b.Consistent) (id : String) :
    b.level id = b.table.level (b.stored id) := by
  unfold Scoreboard.level stored
  cases h : b.find? id with
  | none => exact (Table.level_zero hb.valid).symm
  | some e => exact (hb.settled id e h).level

theorem Consistent.level_le {b : Scoreboard α β} (hb : b.Consistent) (id : String) :
    b.level id ≤ b.table.size := by
  rw [hb.level_eq]
  exact Table.level_le_size _ _

structure Moves (b : Scoreboard α β) (id : String) (cs : List Crossing) (b' : Scoreboard α β) :
    Prop where
  enabled : b'.enabled = b.enabled
  settings : b'.settings = b.settings
  others : ∀ id', id' ≠ id → b'.find? id' = b.find? id'
  walk : Walk (b.level id) cs (b'.level id)

namespace Moves

omit [Scalar α] in
theorem refl (b : Scoreboard α β) (id : String) : b.Moves id [] b :=
  ⟨rfl, rfl, fun _ _ => rfl, .stay _⟩

omit [Scalar α] in
theorem trans {b c d : Scoreboard α β} {id : String} {cs ds : List Crossing}
    (hc : b.Moves id cs c) (hd : c.Moves id ds d) : b.Moves id (cs ++ ds) d where
  enabled := hd.enabled.trans hc.enabled
  settings := hd.settings.trans hc.settings
  others id' h := (hd.others id' h).trans (hc.others id' h)
  walk := hc.walk.append hd.walk

end Moves

omit [Scalar α] in
theorem moves_store {b : Scoreboard α β} {id : String} {e : Entry α β} {cs : List Crossing}
    (h : Walk (b.level id) cs e.record.level) : b.Moves id cs (b.store id e) where
  enabled := rfl
  settings := rfl
  others id' hid := by rw [find?_store, if_neg hid]
  walk := by
    have hlevel : (b.store id e).level id = e.record.level := by
      rw [Scoreboard.level, find?_store, if_pos rfl]
      rfl
    rwa [hlevel]

theorem consistent_store {b : Scoreboard α β} (hb : b.Consistent) {id : String} {e : Entry α β}
    (he : b.Settled id e) : (b.store id e).Consistent where
  valid := hb.valid
  settled id' e' h := by
    rw [find?_store] at h
    split at h
    case isTrue hid =>
      subst hid
      obtain rfl := Option.some.inj h
      exact ⟨he.author, he.stamp, he.level⟩
    case isFalse =>
      have := hb.settled id' e' h
      exact ⟨this.author, this.stamp, this.level⟩

theorem entryFor_spec {b : Scoreboard α β} (hb : b.Consistent) (a : Author) (now : Time) :
    (b.entryFor a now).author.id = a.id ∧
      (b.entryFor a now).record.installed.stamp = b.settings.installed.stamp ∧
      (b.entryFor a now).record.level = b.level a.id := by
  unfold entryFor Scoreboard.level
  cases h : b.find? a.id with
  | none => exact ⟨rfl, rfl, rfl⟩
  | some e =>
    have := hb.settled a.id e h
    exact ⟨this.author, this.stamp, rfl⟩

theorem add_moves {b : Scoreboard α β} (hb : b.Consistent) (a : Author) (delta : α) (now : Time) :
    b.Moves a.id (b.add a delta now).2.1 (b.add a delta now).1 := by
  obtain ⟨-, hstamp, hlevel⟩ := entryFor_spec hb a now
  have hwalk := (b.entryFor a now).record.update_walk delta b.settings now
  rw [Record.rebase_of_stamp_eq hstamp, hlevel] at hwalk
  exact moves_store hwalk

theorem add_index_lt {b : Scoreboard α β} (hb : b.Consistent) {a : Author} {delta : α} {now : Time}
    {c : Crossing} (hc : c ∈ (b.add a delta now).2.1) : c.index < b.table.size := by
  obtain ⟨-, hstamp, hlevel⟩ := entryFor_spec hb a now
  refine Record.update_index_lt ?_ hc
  rw [Record.rebase_of_stamp_eq hstamp, hlevel]
  exact hb.level_le a.id

theorem add_consistent {b : Scoreboard α β} (hb : b.Consistent) (a : Author) (delta : α)
    (now : Time) : (b.add a delta now).1.Consistent :=
  consistent_store hb
    { author := (entryFor_spec hb a now).1
      stamp := Record.update_stamp _ delta b.settings now
      level := rfl }

theorem tick_none {b : Scoreboard α β} {id : String} {now : Time} {b' : Scoreboard α β}
    (h : b.tick id now = (b', none)) : b' = b := by
  unfold tick at h
  split at h
  · exact (congrArg Prod.fst h).symm
  · cases h

theorem tick_some {b : Scoreboard α β} (hb : b.Consistent) {id : String} {now : Time}
    {b' : Scoreboard α β} {a : Author} {cs : List Crossing}
    (h : b.tick id now = (b', some (a, cs))) :
    a.id = id ∧ b.Moves id cs b' ∧ b'.Consistent ∧ ∀ c ∈ cs, c.index < b.table.size := by
  unfold tick at h
  split at h
  · cases h
  · rename_i e he
    have hs := hb.settled id e he
    have hwalk := e.record.tick_walk b.settings now
    obtain ⟨rfl, rfl, rfl⟩ : b.store id { e with record := (e.record.tick b.settings now).1 } = b' ∧
        e.author = a ∧ (e.record.tick b.settings now).2 = cs := by
      simpa using h
    rw [Record.rebase_of_stamp_eq hs.stamp] at hwalk
    refine ⟨hs.author, moves_store ?_, consistent_store hb ⟨hs.author, ?_, rfl⟩, fun c hc => ?_⟩
    · rwa [Scoreboard.level, he]
    · exact Record.tick_stamp e.record b.settings now
    · refine Record.tick_index_lt ?_ hc
      rw [Record.rebase_of_stamp_eq hs.stamp, hs.level]
      exact Table.level_le_size _ _

def drop (b : Scoreboard α β) (id : String) : Scoreboard α β :=
  { b with entries := b.entries.filter fun x => x.1 != id }

omit [Scalar α] in
theorem find?_drop (b : Scoreboard α β) (id id' : String) :
    (b.drop id).find? id' = if id' = id then none else b.find? id' :=
  lookup_filter_ne id id' b.entries

theorem release_eq (b : Scoreboard α β) (id : String) (now : Time) :
    b.release id now = if (b.release id now).2 then (b.drop id, true) else (b, false) := by
  unfold release
  split
  · rfl
  · split <;> rfl

theorem stored_drop (b : Scoreboard α β) (id id' : String) :
    (b.drop id).stored id' = if id' = id then Scalar.zero else b.stored id' := by
  rw [stored, find?_drop]
  split <;> rfl

theorem consistent_drop {b : Scoreboard α β} (hb : b.Consistent) (id : String) :
    (b.drop id).Consistent where
  valid := hb.valid
  settled id' e h := by
    rw [find?_drop] at h
    split at h
    · cases h
    · have := hb.settled id' e h
      exact ⟨this.author, this.stamp, this.level⟩

end Scoreboard

end Moderation.Points
