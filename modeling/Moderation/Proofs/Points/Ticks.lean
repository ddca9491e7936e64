import Moderation.Proofs.Points.Exact
import Moderation.Proofs.Points.Ledger

/-!
Ticks in exact arithmetic. A ledger is read at a time by the score of each author and by the crossings that the
author has met or is due to meet; a tick at that time changes neither, and both are carried on by whatever is
posted next. So ticks may be put into a run anywhere.
-/

namespace Moderation.Points

namespace Ledger

variable {β : Type} {l l' l'' : Ledger ℚ β} {t u : Time} {id : String}

/-- The crossings that an author has met, and those that are met if the record is ticked at a time. -/
def due (l : Ledger ℚ β) (id : String) (t : Time) : List Crossing :=
  l.crossedFor id ++ crossings (l.board.level id) (l.board.table.level (l.board.points id t))

structure UpTo (l : Ledger ℚ β) (t : Time) : Prop where
  consistent : l.board.Consistent
  touched : ∀ id e, l.board.find? id = some e → e.record.lastUpdate ≤ t

theorem UpTo.mono (h : l.UpTo t) (htu : t ≤ u) : l.UpTo u :=
  ⟨h.consistent, fun id e he => (h.touched id e he).trans htu⟩

section Reading

theorem points_of_find? {b : Scoreboard ℚ β} {e : Entry ℚ β} (h : b.find? id = some e) (t : Time) :
    b.points id t = e.record.leaked b.settings.leak t := by
  rw [Scoreboard.points, h]
  rfl

theorem points_of_none {b : Scoreboard ℚ β} (h : b.find? id = none) (t : Time) : b.points id t = 0 := by
  rw [Scoreboard.points, h]
  rfl

theorem points_nonneg (b : Scoreboard ℚ β) (id : String) (t : Time) : 0 ≤ b.points id t := by
  cases h : b.find? id with
  | none => exact (points_of_none h t).ge
  | some e =>
    rw [points_of_find? h, Record.leaked_eq]
    exact le_max_left _ _

theorem points_later (h : l.UpTo t) (htu : t ≤ u) (id : String) :
    l.board.points id u = max 0 (l.board.points id t - l.board.settings.leak.amount (u - t)) := by
  cases hfind : l.board.find? id with
  | none =>
    rw [points_of_none hfind, points_of_none hfind, zero_sub, max_eq_left]
    exact neg_nonpos.2 (LeakRate.amount_nonneg _ _)
  | some e =>
    rw [points_of_find? hfind, points_of_find? hfind, Record.leaked_later _ _ (h.touched id e hfind) htu]

theorem level_points_le (h : l.UpTo t) (id : String) :
    l.board.table.level (l.board.points id t) ≤ l.board.level id := by
  have hvalid := h.consistent.valid
  cases hfind : l.board.find? id with
  | none =>
    have hzero : l.board.table.level 0 = 0 := Table.level_zero hvalid
    rw [points_of_none hfind, hzero]
    exact Nat.zero_le _
  | some e =>
    rw [points_of_find? hfind, Record.leaked_eq, Scoreboard.level, hfind]
    rw [Option.elim_some, (h.consistent.settled id e hfind).level]
    exact Table.level_floored_le hvalid (sub_le_self _ (LeakRate.amount_nonneg _ _))

theorem due_later (h : l.UpTo t) (htu : t ≤ u) (id : String) :
    l.due id u = l.due id t ++ crossings (l.board.table.level (l.board.points id t))
      (l.board.table.level (l.board.points id u)) := by
  have hfall : l.board.table.level (l.board.points id u) ≤
      l.board.table.level (l.board.points id t) := by
    rw [points_later h htu]
    exact Table.level_floored_le h.consistent.valid (sub_le_self _ (LeakRate.amount_nonneg _ _))
  rw [due, due, List.append_assoc, crossings_append (level_points_le h id) hfall]

end Reading

structure Agree (t : Time) (l l' : Ledger ℚ β) : Prop where
  settings : l.board.settings = l'.board.settings
  points : ∀ id, l.board.points id t = l'.board.points id t
  due : ∀ id, l.due id t = l'.due id t

namespace Agree

theorem refl (t : Time) (l : Ledger ℚ β) : Agree t l l := ⟨rfl, fun _ => rfl, fun _ => rfl⟩

theorem trans (h : Agree t l l') (h' : Agree t l' l'') : Agree t l l'' :=
  ⟨h.settings.trans h'.settings, fun id => (h.points id).trans (h'.points id),
    fun id => (h.due id).trans (h'.due id)⟩

theorem table (h : Agree t l l') : l.board.table = l'.board.table :=
  congrArg (·.installed.table) h.settings

theorem later (h : Agree t l l') (hl : l.UpTo t) (hl' : l'.UpTo t) (htu : t ≤ u) : Agree u l l' where
  settings := h.settings
  points id := by rw [points_later hl htu, points_later hl' htu, h.points, h.settings]
  due id := by
    have hpoints : l.board.points id u = l'.board.points id u := by
      rw [points_later hl htu, points_later hl' htu, h.points, h.settings]
    rw [due_later hl htu, due_later hl' htu, h.due, h.points, hpoints, h.table]

end Agree

structure Posts (l : Ledger ℚ β) (id : String) (score : ℚ) (cs : List Crossing) (t : Time)
    (l' : Ledger ℚ β) : Prop where
  settings : l'.board.settings = l.board.settings
  consistent : l'.board.Consistent
  others : ∀ id', id' ≠ id → l'.board.find? id' = l.board.find? id'
  entry : ∃ e, l'.board.find? id = some e ∧ e.record.points = score ∧ e.record.lastUpdate = t
  crossed : ∀ id', l'.crossedFor id' =
    if id' = id then l.crossedFor id' ++ cs else l.crossedFor id'

namespace Posts

variable {score : ℚ} {cs : List Crossing} (h : Posts l id score cs t l')

include h

theorem table : l'.board.table = l.board.table := congrArg (·.installed.table) h.settings

theorem points_self (hscore : 0 ≤ score) : l'.board.points id t = score := by
  obtain ⟨e, he, hpoints, htouched⟩ := h.entry
  rw [points_of_find? he, Record.leaked_eq, hpoints, htouched, Nat.sub_self, LeakRate.amount_zero,
    sub_zero, max_eq_right hscore]

theorem level_self (hscore : 0 ≤ score) :
    l'.board.level id = l'.board.table.level (l'.board.points id t) := by
  obtain ⟨e, he, hpoints, -⟩ := h.entry
  rw [h.points_self hscore, Scoreboard.level, he, Option.elim_some, (h.consistent.settled id e he).level,
    hpoints]

theorem due_self (hscore : 0 ≤ score) : l'.due id t = l.crossedFor id ++ cs := by
  rw [due, h.level_self hscore, crossings_self, List.append_nil, h.crossed, if_pos rfl]

theorem points_other {id' : String} (hid : id' ≠ id) (u : Time) :
    l'.board.points id' u = l.board.points id' u := by
  rw [Scoreboard.points, h.others id' hid, h.settings, Scoreboard.points]

theorem level_other {id' : String} (hid : id' ≠ id) : l'.board.level id' = l.board.level id' := by
  rw [Scoreboard.level, h.others id' hid, Scoreboard.level]

theorem due_other {id' : String} (hid : id' ≠ id) (u : Time) : l'.due id' u = l.due id' u := by
  rw [due, h.points_other hid, h.level_other hid, h.table, h.crossed, if_neg hid, due]

theorem upTo (hl : l.UpTo t) : l'.UpTo t where
  consistent := h.consistent
  touched id' e' he' := by
    by_cases hid : id' = id
    · obtain ⟨e, he, -, htouched⟩ := h.entry
      rw [hid, he] at he'
      obtain rfl := Option.some.inj he'
      exact htouched.le
    · rw [h.others id' hid] at he'
      exact hl.touched id' e' he'

end Posts

section Posted

theorem tickOne_of_none (h : l.board.find? id = none) (t : Time) : l.tickOne t id = l := by
  simp only [tickOne, Scoreboard.tick, h]

theorem tickOne_posts (hl : l.board.Consistent) {e : Entry ℚ β} (he : l.board.find? id = some e)
    (t : Time) :
    Posts l id (l.board.points id t)
      (crossings (l.board.level id) (l.board.table.level (l.board.points id t))) t (l.tickOne t id) := by
  have hs := hl.settled id e he
  have hlevel : l.board.level id = e.record.level := by rw [Scoreboard.level, he, Option.elim_some]
  have heq : l.tickOne t id = l.post
      (l.board.store id { e with record := (e.record.tick l.board.settings t).1 }) id
      (e.record.tick l.board.settings t).2 := by
    simp only [tickOne, Scoreboard.tick, he, hs.author]
  rw [heq, points_of_find? he, hlevel, Record.tick_eq hs.stamp]
  exact
    { settings := rfl
      consistent := Scoreboard.consistent_store hl ⟨hs.author, hs.stamp, rfl⟩
      others := fun id' hid => by rw [post, Scoreboard.find?_store, if_neg hid]
      entry := ⟨_, by rw [post, Scoreboard.find?_store, if_pos rfl], rfl, rfl⟩
      crossed := fun id' => crossedFor_post ..  }

theorem add_posts (hl : l.board.Consistent) (a : Author) (delta : ℚ) (t : Time) :
    Posts l a.id (max 0 (l.board.points a.id t + delta))
      (crossings (l.board.level a.id) (l.board.table.level (l.board.points a.id t)) ++
        crossings (l.board.table.level (l.board.points a.id t))
          (l.board.table.level (max 0 (l.board.points a.id t + delta)))) t (l.add a delta t) := by
  obtain ⟨hauthor, hstamp, hlevel⟩ := Scoreboard.entryFor_spec hl a t
  have hleaked : (l.board.entryFor a t).record.leaked l.board.settings.leak t =
      l.board.points a.id t := by
    unfold Scoreboard.entryFor
    cases he : l.board.find? a.id with
    | none =>
      rw [points_of_none he, Option.getD_none, Record.leaked_eq]
      change max 0 ((0 : ℚ) - l.board.settings.leak.amount (t - t)) = 0
      rw [Nat.sub_self, LeakRate.amount_zero, sub_zero, max_self]
    | some e => rw [points_of_find? he, Option.getD_some]
  have heq : l.add a delta t = l.post (l.board.store a.id { l.board.entryFor a t with
      record := ((l.board.entryFor a t).record.update delta l.board.settings t).1 }) a.id
      ((l.board.entryFor a t).record.update delta l.board.settings t).2 := rfl
  have hadded : floored (Scalar.add (l.board.points a.id t) delta) =
      max 0 (l.board.points a.id t + delta) := floored_eq_max _
  -- The record falls to what is left of the score, and goes on from there.
  rw [heq, Record.update_eq hstamp, hleaked, hlevel, ← hadded]
  exact
    { settings := rfl
      consistent := Scoreboard.consistent_store hl ⟨hauthor, hstamp, rfl⟩
      others := fun id' hid => by rw [post, Scoreboard.find?_store, if_neg hid]
      entry := ⟨_, by rw [post, Scoreboard.find?_store, if_pos rfl], rfl, rfl⟩
      crossed := fun id' => crossedFor_post .. }

end Posted

section Steps

theorem upTo_tickOne (hl : l.UpTo t) (id : String) : (l.tickOne t id).UpTo t := by
  cases he : l.board.find? id with
  | none => rwa [tickOne_of_none he]
  | some e => exact (tickOne_posts hl.consistent he t).upTo hl

theorem agree_tickOne (hl : l.UpTo t) (id : String) : Agree t l (l.tickOne t id) := by
  cases he : l.board.find? id with
  | none =>
    rw [tickOne_of_none he]
    exact .refl t l
  | some e =>
    have hposts := tickOne_posts hl.consistent he t
    have hscore := points_nonneg l.board id t
    refine ⟨hposts.settings.symm, fun id' => ?_, fun id' => ?_⟩
    · by_cases hid : id' = id
      · rw [hid, hposts.points_self hscore]
      · exact (hposts.points_other hid t).symm
    · by_cases hid : id' = id
      · rw [hid, hposts.due_self hscore, due]
      · exact (hposts.due_other hid t).symm

theorem tick_spec (hl : l.UpTo t) (order : List String) :
    Agree t l (l.perform t (.tick order)) ∧ (l.perform t (.tick order)).UpTo t := by
  change Agree t l (order.foldl (tickOne t) l) ∧ (order.foldl (tickOne t) l).UpTo t
  induction order generalizing l with
  | nil => exact ⟨.refl t l, hl⟩
  | cons id rest ih =>
    obtain ⟨hagree, hupTo⟩ := ih (upTo_tickOne hl id)
    exact ⟨(agree_tickOne hl id).trans hagree, hupTo⟩

theorem agree_add (h : Agree t l l') (hl : l.UpTo t) (hl' : l'.UpTo t) (a : Author) (delta : ℚ) :
    Agree t (l.add a delta t) (l'.add a delta t) := by
  have hposts := add_posts hl.consistent a delta t
  have hposts' := add_posts hl'.consistent a delta t
  have hscore : 0 ≤ max 0 (l.board.points a.id t + delta) := le_max_left _ _
  have hscore' : 0 ≤ max 0 (l'.board.points a.id t + delta) := le_max_left _ _
  refine ⟨hposts.settings.trans (h.settings.trans hposts'.settings.symm), fun id => ?_, fun id => ?_⟩
  · by_cases hid : id = a.id
    · rw [hid, hposts.points_self hscore, hposts'.points_self hscore', h.points]
    · rw [hposts.points_other hid, hposts'.points_other hid, h.points]
  · by_cases hid : id = a.id
    · have hdue := h.due a.id
      simp only [due] at hdue
      rw [hid, hposts.due_self hscore, hposts'.due_self hscore', ← List.append_assoc,
        ← List.append_assoc, hdue, h.points, h.table]
    · rw [hposts.due_other hid, hposts'.due_other hid, h.due]

theorem upTo_perform (hl : l.UpTo t) (p : Posting ℚ) : (l.perform t p).UpTo t := by
  cases p with
  | add a delta => exact (add_posts hl.consistent a delta t).upTo hl
  | tick order => exact (tick_spec hl order).2

theorem agree_perform (h : Agree t l l') (hl : l.UpTo t) (hl' : l'.UpTo t) (p : Posting ℚ) :
    Agree t (l.perform t p) (l'.perform t p) := by
  cases p with
  | add a delta => exact agree_add h hl hl' a delta
  | tick order =>
    -- Either tick changes nothing that can be read.
    have hback := (tick_spec hl order).1
    exact Agree.trans ⟨hback.settings.symm, fun id => (hback.points id).symm,
      fun id => (hback.due id).symm⟩ (h.trans (tick_spec hl' order).1)

end Steps

section Current

def Current (l : Ledger ℚ β) (t : Time) (id : String) : Prop :=
  l.board.level id = l.board.table.level (l.board.points id t)

theorem current_of_none (hl : l.board.Consistent) (h : l.board.find? id = none) (t : Time) :
    l.Current t id := by
  have hzero : l.board.table.level 0 = 0 := Table.level_zero hl.valid
  rw [Current, points_of_none h, hzero, Scoreboard.level, h]
  rfl

theorem current_tickOne (hl : l.board.Consistent) {id' : String} (h : id = id' ∨ l.Current t id) :
    (l.tickOne t id').Current t id := by
  cases he : l.board.find? id' with
  | none =>
    rw [tickOne_of_none he]
    rcases h with rfl | h
    · exact current_of_none hl he t
    · exact h
  | some e =>
    have hposts := tickOne_posts hl he t
    by_cases hid : id = id'
    · rw [hid]
      exact hposts.level_self (points_nonneg l.board id' t)
    · rw [Current, hposts.level_other hid, hposts.points_other hid, hposts.table]
      exact h.resolve_left hid

theorem current_tick (hl : l.UpTo t) {order : List String} (h : id ∈ order ∨ l.Current t id) :
    (l.perform t (.tick order)).Current t id := by
  change (order.foldl (tickOne t) l).Current t id
  induction order generalizing l with
  | nil => exact h.resolve_left List.not_mem_nil
  | cons id' rest ih =>
    refine ih (upTo_tickOne hl id') ?_
    by_cases hid : id = id'
    · exact .inr (current_tickOne hl.consistent (.inl hid))
    · rcases h with hmem | hcurrent
      · exact .inl ((List.mem_cons.1 hmem).resolve_left hid)
      · exact .inr (current_tickOne hl.consistent (.inr hcurrent))

theorem crossedFor_tick (hl : l.UpTo t) {order : List String}
    (horder : l.board.ids ⊆ order) (id : String) :
    (l.perform t (.tick order)).crossedFor id = l.due id t := by
  have hcurrent : (l.perform t (.tick order)).Current t id := by
    apply current_tick hl
    cases he : l.board.find? id with
    | none => exact .inr (current_of_none hl.consistent he t)
    | some e => exact .inl (horder (Scoreboard.mem_ids_of_find? he))
  rw [(tick_spec hl order).1.due id, due, ← hcurrent, crossings_self, List.append_nil]

end Current

section Runs

variable {start stop : Time} {ps qs : List (Time × Posting ℚ)}

def Timed (stop : Time) : Time → List (Time × Posting ℚ) → Prop
  | start, [] => start ≤ stop
  | start, p :: rest => start ≤ p.1 ∧ Timed stop p.1 rest

inductive TicksAdded : List (Time × Posting ℚ) → List (Time × Posting ℚ) → Prop
  | nil : TicksAdded [] []
  | keep (p : Time × Posting ℚ) {ps qs : List (Time × Posting ℚ)} :
    TicksAdded ps qs → TicksAdded (p :: ps) (p :: qs)
  | tick (t : Time) (order : List String) {ps qs : List (Time × Posting ℚ)} :
    TicksAdded ps qs → TicksAdded ps ((t, .tick order) :: qs)

theorem agree_run (h : TicksAdded ps qs) (hqs : Timed stop start qs) (hagree : Agree start l l')
    (hl : l.UpTo start) (hl' : l'.UpTo start) :
    Agree stop (l.run ps) (l'.run qs) ∧ (l.run ps).UpTo stop ∧ (l'.run qs).UpTo stop := by
  -- The ledgers agree at the time of each posting; a tick that was put in concerns the second one alone.
  induction h generalizing start l l' with
  | nil => exact ⟨hagree.later hl hl' hqs, hl.mono hqs, hl'.mono hqs⟩
  | keep p _ ih =>
    obtain ⟨hle, hrest⟩ := hqs
    have hnow := hagree.later hl hl' hle
    exact ih hrest (agree_perform hnow (hl.mono hle) (hl'.mono hle) p.2)
      (upTo_perform (hl.mono hle) p.2) (upTo_perform (hl'.mono hle) p.2)
  | tick t order _ ih =>
    obtain ⟨hle, hrest⟩ := hqs
    have hnow := hagree.later hl hl' hle
    obtain ⟨hticked, hupTo⟩ := tick_spec (hl'.mono hle) order
    exact ih hrest (hnow.trans hticked) (hl.mono hle) hupTo

end Runs

end Ledger

end Moderation.Points
