import Moderation.Proofs.Evaluation.Parallel
import Moderation.Proofs.Evaluation.Requests

/-!
Another table is put in force. Records move to it one by one, when they are touched, and a run cannot tell that
from all of them having moved at once.
-/

namespace Moderation

open Points

namespace Points

section Rebased

variable {α β : Type} [Scalar α]

def Entry.rebase (e : Entry α β) (i : Installed α β) : Entry α β := { e with record := e.record.rebase i }

def Scoreboard.rebased (b : Scoreboard α β) : Scoreboard α β :=
  { b with entries := b.entries.map fun x => (x.1, x.2.rebase b.settings.installed) }

theorem lookup_map_snd {γ δ : Type} (f : γ → δ) (id : String) (entries : List (String × γ)) :
    (entries.map fun x => (x.1, f x.2)).lookup id = (entries.lookup id).map f := by
  induction entries with
  | nil => rfl
  | cons x rest ih =>
    rw [List.map_cons, Scoreboard.lookup_cons_eq_ite, Scoreboard.lookup_cons_eq_ite, ih]
    split <;> rfl

theorem Scoreboard.find?_rebased (b : Scoreboard α β) (id : String) :
    b.rebased.find? id = (b.find? id).map (·.rebase b.settings.installed) :=
  lookup_map_snd (fun e : Entry α β => e.rebase b.settings.installed) id b.entries

end Rebased

theorem Scoreboard.WellKept.consistent_rebased {β : Type} {b : Scoreboard Float β} (hb : b.WellKept) :
    b.rebased.Consistent where
  valid := hb.valid
  settled id e he := by
    rw [find?_rebased] at he
    obtain ⟨e, hfind, rfl⟩ := Option.map_eq_some_iff.1 he
    have hfiles := hb.files id e hfind
    have hsound := hfiles.sound.rebase hfiles.dated hb.valid
    refine ⟨hfiles.author, Record.stamp_rebase _ _, hsound.level.trans ?_⟩
    rw [Record.installed_rebase hfiles.dated]
    rfl

end Points

structure World.Rebases (w w' : World) : Prop where
  enabled : w'.scores.enabled = w.scores.enabled
  settings : w'.scores.settings = w.scores.settings
  records : ∀ id, w'.scores.find? id = (w.scores.find? id).map (·.rebase w.scores.settings.installed)
  effects : w'.effects = w.effects
  keeps : AllActions w.scores.table Action.KeepsAuthor

namespace World.Rebases

variable {w w' : World} (h : w.Rebases w')

include h

theorem table : w'.scores.table = w.scores.table := congrArg (·.installed.table) h.settings

theorem stored (id : String) : w'.scores.stored id = w.scores.stored id := by
  rw [Scoreboard.stored, h.records, Scoreboard.stored]
  cases w.scores.find? id with
  | none => rfl
  | some e => exact Record.points_rebase e.record _

theorem firedFor (id : String) : w'.firedFor id = w.firedFor id := by
  rw [World.firedFor, h.effects, World.firedFor]

theorem entryFor (a : Author) (now : Time) :
    w'.scores.entryFor a now = (w.scores.entryFor a now).rebase w.scores.settings.installed := by
  rw [Scoreboard.entryFor, h.records, h.settings, Scoreboard.entryFor]
  cases w.scores.find? a.id with
  | none => exact congrArg (Entry.mk a) (Record.rebase_of_stamp_eq rfl).symm
  | some e => rfl

theorem emit (e : Effect) : (w.emit e).Rebases (w'.emit e) where
  enabled := h.enabled
  settings := h.settings
  records := h.records
  effects := congrArg (· ++ [e]) h.effects
  keeps := h.keeps

theorem store (id : String) {e : Entry Float Action}
    (he : e.record.installed.stamp = w.scores.settings.installed.stamp) :
    World.Rebases { w with scores := w.scores.store id e } { w' with scores := w'.scores.store id e } where
  enabled := h.enabled
  settings := h.settings
  records id' := by
    have hplaced : e.rebase w.scores.settings.installed = e :=
      congrArg (Entry.mk e.author) (Record.rebase_of_stamp_eq he)
    dsimp only
    rw [Scoreboard.find?_store, Scoreboard.find?_store, h.records]
    split
    · exact congrArg some hplaced.symm
    · rfl
  effects := h.effects
  keeps := h.keeps

theorem update (a : Author) (delta : Float) (now : Time) :
    (w'.scores.entryFor a now).record.update delta w'.scores.settings now =
      (w.scores.entryFor a now).record.update delta w.scores.settings now := by
  rw [h.entryFor, h.settings]
  exact Record.update_rebase _ delta w.scores.settings now

theorem add (a : Author) (delta : Float) (now : Time) : (w.add a delta now).Rebases (w'.add a delta now) := by
  have hstamp := Record.update_stamp (w.scores.entryFor a now).record delta w.scores.settings now
  have hstored := h.store a.id (e := { w.scores.entryFor a now with
    record := ((w.scores.entryFor a now).record.update delta w.scores.settings now).1 }) hstamp
  unfold World.add Scoreboard.add
  dsimp only
  rw [h.update, h.entryFor]
  exact hstored

theorem crossed_add (a : Author) (delta : Float) (now : Time) :
    (w.scores.add a delta now).2 = (w'.scores.add a delta now).2 := by
  unfold Scoreboard.add
  dsimp only
  rw [h.update]

omit h in
theorem coupling (id : String) : Coupling id World.Rebases where
  enabled h := h.enabled.symm
  table h := h.table.symm
  keeps h := h.keeps
  deeds h := by rw [World.deedsOn, World.deedsOn, h.effects]
  emit _ h := h.emit _
  crossed delta now _ h := h.crossed_add _ delta now
  add delta now _ h := h.add _ delta now

theorem tick (id : String) (now : Time) :
    (w.scores.tick id now).2 = (w'.scores.tick id now).2 ∧ (w.tick id now).Rebases (w'.tick id now) := by
  unfold World.tick Scoreboard.tick
  rw [h.records]
  cases w.scores.find? id with
  | none => exact ⟨rfl, h⟩
  | some e =>
    have htick := Record.tick_rebase e.record w.scores.settings now
    dsimp only [Option.map_some, Entry.rebase]
    rw [h.settings, htick]
    exact ⟨rfl, h.store id (Record.tick_stamp e.record w.scores.settings now)⟩

theorem leakOne (env : Environment) (id : String) :
    Option.Rel World.Rebases (leakOne env id w) (leakOne env id w') := by
  obtain ⟨hcrossed, hticked⟩ := h.tick id env.now
  exact leakOne_along h.table.symm hcrossed hticked fun author _ _ => coupling author.id

theorem leakEach (env : Environment) (order : List String) :
    Option.Rel World.Rebases (leakEach env order w) (leakEach env order w') := by
  induction order generalizing w w' with
  | nil => exact .some h
  | cons id rest ih => exact rel_bind (h.leakOne env id) fun v v' hv => ih hv

theorem perform (env : Environment) (call : ScoreCall) :
    Option.Rel World.Rebases (call.perform env w) (call.perform env w') := by
  cases call with
  | add message delta =>
    exact rel_map (addPoints_along (coupling message.author.id) env rfl delta h) fun r r' hr => hr.2.world
  | tick order =>
    simp only [ScoreCall.perform, h.enabled]
    split
    · exact h.leakEach env order
    · exact .some h

theorem runCalls (calls : List (Environment × ScoreCall)) :
    Option.Rel World.Rebases (runCalls calls w) (runCalls calls w') := by
  induction calls generalizing w w' with
  | nil => exact .some h
  | cons first rest ih => exact rel_bind (h.perform first.1 first.2) fun v v' hv => ih hv

end World.Rebases

theorem rebases_rebased {w : World} (hkeeps : AllActions w.scores.table Action.KeepsAuthor) :
    w.Rebases { w with scores := w.scores.rebased } where
  enabled := rfl
  settings := rfl
  records := w.scores.find?_rebased
  effects := rfl
  keeps := hkeeps

theorem firings_between {up down : Nat} {before after : Prop} [Decidable before] [Decidable after]
    (h : (up + if before then 1 else 0) = down + if after then 1 else 0) :
    (up : ℤ) - down = (if after then 1 else 0) - if before then 1 else 0 := by
  split_ifs at h ⊢ <;> omega

theorem runCalls_of_wellKept (calls : List (Environment × ScoreCall)) {v : World} (hv : v.scores.WellKept)
    (hquiet : AllActions v.scores.table Action.Quiet) :
    ∃ u h, runCalls calls v = some u ∧ Recounts calls v h u ∧
      ∀ id, ∃ fired, u.firedFor id = v.firedFor id ++ fired ∧
        ∀ place threshold, v.scores.table.get? place = some threshold →
          ((passages place fired).count .ascending : ℤ) - (passages place fired).count .descending =
            (if threshold.points ≤ u.scores.stored id then 1 else 0) -
              (if threshold.points ≤ v.scores.stored id then 1 else 0) ∧
          Alternates (if threshold.points ≤ v.scores.stored id then .descending else .ascending)
            (passages place fired) := by
  -- The run is read off the one in which all records have moved to the table before it begins.
  have hrebases := rebases_rebased (hquiet.mono fun _ h => h.2)
  have hsettled := hv.consistent_rebased
  obtain ⟨u', hu', hproceeds⟩ := runCalls_quiet calls (w := { v with scores := v.scores.rebased }) hsettled hquiet
  have hrel := hrebases.runCalls calls
  rw [hu'] at hrel
  obtain ⟨u, hu, hrebased⟩ := exists_of_rel_right hrel
  obtain ⟨h, hrecounts, -⟩ := exists_follows ⟨hv, hquiet.mono fun _ h => h.2⟩ hu
  refine ⟨u, h, hu, hrecounts, fun id => ?_⟩
  obtain ⟨fired, hwalk, hfired⟩ := hproceeds.authors id
  rw [hrebased.firedFor, hrebases.firedFor] at hfired
  refine ⟨fired, hfired, fun place threshold hp => ?_⟩
  have hbefore := lt_level_iff_stored hsettled id hp
  have hafter := lt_level_iff_stored (hproceeds.consistent hsettled) id (hproceeds.table ▸ hp)
  have hcount := hwalk.count_passages place
  have halternates := hwalk.alternates place
  have hstored := hrebases.stored id
  dsimp only at hstored
  rw [hstored] at hbefore
  rw [hrebased.stored] at hafter
  simp only [hbefore, hafter] at hcount halternates
  exact ⟨firings_between hcount, halternates⟩

/-- A table is put in force over whatever there is. That alone runs no set and changes no score. Each run on the table
then has a result, and the sets of a threshold are run in turns, which begin with the descending one if the score
was there already; so their numbers differ by what the score has gained or lost of the threshold since. -/
theorem reinstalling_carries_levels {requests : List (Environment × ScoreRequest)} {w : World}
    (hrun : runRequests requests .initial = some w) {thresholds : List (Threshold Float Action)}
    {table : ThresholdTable} (hofList : Table.ofList thresholds = .ok table)
    (hpoints : AllActions table fun a => a.addsPoints = false)
    (hkeeps : AllActions table Action.KeepsAuthor) (leak : LeakRate Float) (hinterval : leak.interval ≠ 0)
    (now : Time) (calls : List (Environment × ScoreCall)) :
    ((w.enable leak thresholds now).effects = w.effects ∧
      ∀ id, (w.enable leak thresholds now).scores.find? id = w.scores.find? id) ∧
    ∃ u h, runCalls calls (w.enable leak thresholds now) = some u ∧
      Recounts calls (w.enable leak thresholds now) h u ∧ ∀ id, ∃ fired, u.firedFor id = w.firedFor id ++ fired ∧
        ∀ place threshold, table.get? place = some threshold →
          ((passages place fired).count .ascending : ℤ) - (passages place fired).count .descending =
            (if threshold.points ≤ u.scores.stored id then 1 else 0) -
              (if threshold.points ≤ w.scores.stored id then 1 else 0) ∧
          Alternates (if threshold.points ≤ w.scores.stored id then .descending else .ascending)
            (passages place fired) := by
  have hvalid := Table.valid_of_ofList hofList
  rw [World.enable_eq leak hofList hinterval]
  refine ⟨⟨rfl, fun _ => rfl⟩, ?_⟩
  exact runCalls_of_wellKept calls (v := w.install leak table now)
    ((wellKept_of_runRequests hrun).enable hvalid leak now) (Action.quiet_of hpoints hkeeps)

def movedSteps : List (Threshold Float Action) :=
  [⟨"three", 3, [.deny], [.console "calm again"]⟩, ⟨"twelve", 12, [.penalize .kick none], []⟩]

theorem ofList_movedSteps : Table.ofList movedSteps = .ok ⟨movedSteps⟩ :=
  Table.ofList_of_ascending (by decide +kernel) (by decide +kernel) (by decide +kernel)

theorem reinstalling_carries_levels_movedSteps :
    ∃ w u fired, runRequests [(plainEnvironment 0, .enable .standard twoSteps),
        (plainEnvironment 0, .call (pointsFor "steve" 11 0).2)] .initial = some w ∧
      w.firedFor "steve" = [.up 0, .up 1] ∧ (3 : Float) ≤ w.scores.stored "steve" ∧
      runCalls [pointsFor "steve" 4 0, (plainEnvironment 600000, .tick ["steve"])]
        (w.enable .standard movedSteps 0) = some u ∧
      u.firedFor "steve" = w.firedFor "steve" ++ fired ∧
      u.firedFor "steve" = [.up 0, .up 1, .up 1, .down 1, .down 0] ∧
      ((passages 0 fired).count .ascending : ℤ) - (passages 0 fired).count .descending =
        (if (3 : Float) ≤ u.scores.stored "steve" then 1 else 0) - 1 := by
  have htells : (runRequests [(plainEnvironment 0, .enable .standard twoSteps),
      (plainEnvironment 0, .call (pointsFor "steve" 11 0).2)] .initial).any (fun w =>
        w.firedFor "steve" == [.up 0, .up 1] && decide ((3 : Float) ≤ w.scores.stored "steve") &&
          (runCalls [pointsFor "steve" 4 0, (plainEnvironment 600000, .tick ["steve"])]
            (w.enable .standard movedSteps 0)).any fun u =>
              u.firedFor "steve" == [.up 0, .up 1, .up 1, .down 1, .down 0]) = true := by
    have hfirst := World.enable_eq .standard ofList_twoSteps (by decide)
    have hsecond := World.enable_eq .standard ofList_movedSteps (by decide)
    simp only [runRequests, ScoreRequest.perform, hfirst, hsecond]
    decide +kernel
  obtain ⟨w, hrun, hw⟩ := (Option.any_eq_true _ _).1 htells
  simp only [Bool.and_eq_true, beq_iff_eq, decide_eq_true_eq] at hw
  obtain ⟨⟨hbefore, hstored⟩, hcalls⟩ := hw
  obtain ⟨-, u, -, hu, -, hcarried⟩ := reinstalling_carries_levels hrun ofList_movedSteps
    (by simp [AllActions, movedSteps, Action.addsPoints])
    (by simp [AllActions, movedSteps, Action.KeepsAuthor]) .standard (by decide) 0
    [pointsFor "steve" 4 0, (plainEnvironment 600000, .tick ["steve"])]
  obtain ⟨fired, hfired, hcounts⟩ := hcarried "steve"
  have hcount := (hcounts 0 _ rfl).1
  dsimp only at hcount
  rw [if_pos hstored] at hcount
  rw [hu, Option.any_some, beq_iff_eq] at hcalls
  exact ⟨w, u, fired, hrun, hbefore, hstored, hu, hfired, hcalls, hcount⟩

end Moderation
