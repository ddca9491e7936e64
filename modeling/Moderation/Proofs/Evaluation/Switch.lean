import Moderation.Proofs.Evaluation.Requests

namespace Moderation

open Points

structure Points.Scoreboard.Unswitched (b b' : Scores) : Prop where
  enabled : b'.enabled = b.enabled
  leaking : b'.isLeaking = b.isLeaking
  entries : b.enabled = false → b'.entries = b.entries

namespace Points.Scoreboard.Unswitched

theorem refl (b : Scores) : b.Unswitched b := ⟨rfl, rfl, fun _ => rfl⟩

theorem trans {b c d : Scores} (h : b.Unswitched c) (h' : c.Unswitched d) : b.Unswitched d where
  enabled := h'.enabled.trans h.enabled
  leaking := h'.leaking.trans h.leaking
  entries hoff := (h'.entries (h.enabled.trans hoff)).trans (h.entries hoff)

end Points.Scoreboard.Unswitched

section Off

variable (env : Environment) {s : Stage}

theorem step_of_off (h : s.world.scores.enabled = false) (fire : Firing) (a : Action) :
    ∃ r, step env fire a s = some r ∧ (contained s r).2.world.scores = s.world.scores := by
  cases a with
  | points amount => exact ⟨.ok s, by simp [step, h], rfl⟩
  | penalize penalty text => exact ⟨_, rfl, scores_punish s⟩
  | command text => exact ⟨_, rfl, scores_punish s⟩
  | host run =>
    cases hrun : run s.context with
    | ok c => exact ⟨.ok (s.withContext c), by simp only [step, hrun], rfl⟩
    | error e => exact ⟨.error e, by simp only [step, hrun], rfl⟩
  | _ => exact ⟨_, rfl, rfl⟩

theorem perform_of_off (h : s.world.scores.enabled = false) (a : Action) :
    ∃ r, perform env a s = some r ∧ (contained s r).2.world.scores = s.world.scores := by
  unfold perform
  cases env.nesting <;> exact step_of_off env h _ a

theorem runActions_of_off (h : s.world.scores.enabled = false) (actions : List Invocation) (m : Metrics) :
    ∃ s' m', runActions env actions s m = some (s', m') ∧ s'.world.scores = s.world.scores := by
  induction actions generalizing s m with
  | nil => exact ⟨s, m, rfl, rfl⟩
  | cons i rest ih =>
    obtain ⟨r, hr, hscores⟩ := perform_of_off env h i.action
    obtain ⟨s', m', hrest, hscores'⟩ := ih (hscores ▸ h) (m.count (contained s r).1)
    refine ⟨s', m', ?_, hscores'.trans hscores⟩
    rw [runActions, hr]
    exact hrest

theorem runRule_of_off (h : s.world.scores.enabled = false) (rule : Rule) (m : Metrics) :
    ∃ s' m', runRule env rule s m = some (s', m') ∧ s'.world.scores = s.world.scores := by
  obtain ⟨s', m', hrun, hscores⟩ := runActions_of_off env
    (s := s.withContext (s.context.enterRule rule.line rule.matcher.pattern)) h rule.actions m
  exact ⟨s'.withContext s'.context.leaveRule, m', by simp only [runRule, hrun, Option.map_some], hscores⟩

theorem runRules_of_off (h : s.world.scores.enabled = false) (rules : List Rule) (m : Metrics) :
    ∃ s' m', runRules env rules s m = some (s', m') ∧ s'.world.scores = s.world.scores := by
  induction rules generalizing s m with
  | nil => exact ⟨s, m, rfl, rfl⟩
  | cons rule rest ih =>
    simp only [runRules]
    split
    · exact ⟨s, m, rfl, rfl⟩
    · split
      · exact ih h _
      · split
        · obtain ⟨t, k, hrule, hscores⟩ := runRule_of_off env h rule
            { m with evaluated := m.evaluated + 1, matched := m.matched + 1 }
          obtain ⟨s', m', hrest, hscores'⟩ := ih (hscores ▸ h) k
          refine ⟨s', m', ?_, hscores'.trans hscores⟩
          rw [hrule]
          exact hrest
        · exact ih h _

theorem execute_of_off (h : s.world.scores.enabled = false) (c : Chain) :
    ∃ s' m, execute env c s = some (s', m) ∧ s'.world.scores = s.world.scores :=
  runRules_of_off env (s := s.withContext { s.context with chain := some c.name }) h c.rules {}

end Off

section Unswitched

variable {env : Environment}

structure World.KeepsSwitch (w w' : World) : Prop where
  table : w'.scores.table = w.scores.table
  enabled : w'.scores.enabled = w.scores.enabled
  ticker : w'.scores.ticker = w.scores.ticker

namespace World.KeepsSwitch

theorem refl (w : World) : w.KeepsSwitch w := ⟨rfl, rfl, rfl⟩

theorem trans {u v w : World} (h : u.KeepsSwitch v) (h' : v.KeepsSwitch w) : u.KeepsSwitch w :=
  ⟨h'.table.trans h.table, h'.enabled.trans h.enabled, h'.ticker.trans h.ticker⟩

theorem of_scores {w w' : World} (h : w'.scores = w.scores) : w.KeepsSwitch w' :=
  ⟨congrArg _ h, congrArg _ h, congrArg _ h⟩

theorem tick (w : World) (id : String) (now : Time) : w.KeepsSwitch (w.tick id now) := by
  unfold World.tick Scoreboard.tick
  split <;> exact ⟨rfl, rfl, rfl⟩

theorem unswitched {w w' : World} (h : w.KeepsSwitch w') (hon : w.scores.enabled = true) :
    w.scores.Unswitched w'.scores where
  enabled := h.enabled
  leaking := congrArg Option.isSome h.ticker
  entries hoff := by rw [hon] at hoff; cases hoff

end World.KeepsSwitch

theorem conserved_switch (env : Environment) :
    Conserved env (fun _ => True) fun s t => s.world.KeepsSwitch t.world where
  refl s := .refl s.world
  trans h h' := h.trans h'
  table h := h.table
  acts _ hpoints hrun := .of_scores (scores_step hpoints hrun)
  enters s _ _ _ := .refl s.world
  logs _ _ := ⟨rfl, rfl, rfl⟩
  scores _ _ _ := ⟨rfl, rfl, rfl⟩
  blank h := h

theorem leakOne_keepsSwitch {id : String} {w w' : World} (h : leakOne env id w = some w') :
    w.KeepsSwitch w' := by
  have htick := World.KeepsSwitch.tick w id env.now
  rw [leakOne_eq] at h
  split at h
  · obtain rfl := Option.some.inj h
    exact htick
  · obtain ⟨s', hsets, rfl⟩ := Option.map_eq_some_iff.1 h
    exact htick.trans
      ((conserved_switch env).fireSets (conserved_switch env).fires (.unrestricted _) (.unrestricted _) hsets)

theorem leakEach_keepsSwitch {order : List String} {w w' : World} (h : leakEach env order w = some w') :
    w.KeepsSwitch w' := by
  induction order generalizing w with
  | nil =>
    obtain rfl := Option.some.inj h
    exact .refl w
  | cons id rest ih =>
    obtain ⟨v, hfirst, hrest⟩ := Option.bind_eq_some_iff.1 h
    exact (leakOne_keepsSwitch hfirst).trans (ih hrest)

theorem unswitched_execute {c : Chain} {s s' : Stage} {m : Metrics} (h : execute env c s = some (s', m)) :
    s.world.scores.Unswitched s'.world.scores := by
  -- A single step keeps the switch but may add records, unless it is known to be off.
  cases hon : s.world.scores.enabled with
  | false =>
    obtain ⟨t, k, hrun, hscores⟩ := execute_of_off env hon c
    rw [h] at hrun
    obtain ⟨rfl, -⟩ := Prod.mk.inj (Option.some.inj hrun)
    exact hscores ▸ .refl _
  | true =>
    have hkeeps := (conserved_switch env).runRules (fun _ _ _ _ => trivial) (.unrestricted _) h
    exact hkeeps.unswitched hon

theorem unswitched_addPoints {delta total : Float} {s s' : Stage}
    (h : addPoints env delta s = some (total, s')) : s.world.scores.Unswitched s'.world.scores := by
  cases hon : s.world.scores.enabled with
  | false =>
    rw [addPoints, addPointsWith_of_disabled hon] at h
    obtain ⟨-, rfl⟩ := Prod.mk.inj (Option.some.inj h)
    exact .refl _
  | true =>
    have hkeeps :=
      (conserved_switch env).addPointsWith (conserved_switch env).fires trivial (.unrestricted _) h
    exact hkeeps.unswitched hon

theorem unswitched_leakAll {w w' : World} (h : leakAll env w = some w') :
    w.scores.Unswitched w'.scores := by
  unfold leakAll at h
  split at h
  · rename_i hon
    exact (leakEach_keepsSwitch h).unswitched hon
  · obtain rfl := Option.some.inj h
    exact .refl _

end Unswitched

end Moderation
