import Moderation.Proofs.Evaluation.Chronicle

/-!
What waits to be done is a stack. The sets of what is crossed are put on top of it, and so are the actions of a set
that is begun; whatever is begun or performed was on top.
-/

namespace Moderation

open Points

inductive Waiting where
  | set (id : String) (c : Crossing)
  | action (a : Action)

inductive WorksOff (table : ThresholdTable) : List Waiting → Chronicle → List Waiting → Prop
  | done (p : List Waiting) : WorksOff table p [] p
  | crossed {p q : List Waiting} {h : Chronicle} (id : String) (cs : List Crossing) :
    WorksOff table (cs.map (.set id) ++ p) h q → WorksOff table p (.crossed id cs :: h) q
  | began {p q : List Waiting} {h : Chronicle} {id : String} {c : Crossing} {t : Threshold Float Action} :
    table.get? c.index = some t → WorksOff table ((t.actions c.direction).map .action ++ p) h q →
      WorksOff table (.set id c :: p) (.began id c :: h) q
  | performed {p q : List Waiting} {h : Chronicle} (a : Action) :
    WorksOff table p h q → WorksOff table (.action a :: p) (.performed a :: h) q

namespace WorksOff

variable {table : ThresholdTable} {p q r : List Waiting} {h h' : Chronicle}

theorem trans (hpq : WorksOff table p h q) (hqr : WorksOff table q h' r) : WorksOff table p (h ++ h') r := by
  induction hpq with
  | done => exact hqr
  | crossed id cs _ ih => exact .crossed id cs (ih hqr)
  | began ht _ ih => exact .began ht (ih hqr)
  | performed a _ ih => exact .performed a (ih hqr)

theorem above (hpq : WorksOff table p h q) (r : List Waiting) : WorksOff table (p ++ r) h (q ++ r) := by
  induction hpq with
  | done => exact .done _
  | crossed id cs _ ih => exact .crossed id cs (List.append_assoc .. ▸ ih)
  | began ht _ ih => exact .began ht (List.append_assoc .. ▸ ih)
  | performed a _ ih => exact .performed a ih

theorem append (hp : WorksOff table p h []) (hq : WorksOff table q h' []) :
    WorksOff table (p ++ q) (h ++ h') [] :=
  (hp.above q).trans hq

theorem split (hpq : WorksOff table (p ++ q) h []) :
    ∃ h₁ h₂, h = h₁ ++ h₂ ∧ WorksOff table p h₁ [] ∧ WorksOff table q h₂ [] := by
  -- The events are those of `p` until nothing of it is left; from there on they are those of `q`.
  generalize hstack : p ++ q = stack at hpq
  generalize hempty : ([] : List Waiting) = rest at hpq
  induction hpq generalizing p with
  | done =>
    subst hempty
    obtain ⟨rfl, rfl⟩ := List.append_eq_nil_iff.1 hstack
    exact ⟨[], [], rfl, .done _, .done _⟩
  | @crossed stack _ h id cs hrest ih =>
    subst hempty hstack
    obtain ⟨h₁, h₂, rfl, hp, hq⟩ := ih (p := cs.map (.set id) ++ p) (List.append_assoc ..) rfl
    exact ⟨.crossed id cs :: h₁, h₂, rfl, .crossed id cs hp, hq⟩
  | @began stack _ h id c t ht hrest ih =>
    subst hempty
    cases p with
    | nil =>
      obtain rfl : q = _ := hstack
      exact ⟨[], _, rfl, .done _, .began ht hrest⟩
    | cons w p =>
      obtain ⟨rfl, rfl⟩ := List.cons.inj hstack
      obtain ⟨h₁, h₂, rfl, hp, hq⟩ := ih (p := (t.actions c.direction).map .action ++ p) (List.append_assoc ..) rfl
      exact ⟨.began id c :: h₁, h₂, rfl, .began ht hp, hq⟩
  | @performed stack _ h a hrest ih =>
    subst hempty
    cases p with
    | nil =>
      obtain rfl : q = _ := hstack
      exact ⟨[], _, rfl, .done _, .performed a hrest⟩
    | cons w p =>
      obtain ⟨rfl, rfl⟩ := List.cons.inj hstack
      obtain ⟨h₁, h₂, rfl, hp, hq⟩ := ih rfl rfl
      exact ⟨.performed a :: h₁, h₂, rfl, .performed a hp, hq⟩

theorem cut (hpq : WorksOff table p (h ++ h') q) : ∃ r, WorksOff table p h r ∧ WorksOff table r h' q := by
  induction h generalizing p with
  | nil => exact ⟨p, .done p, hpq⟩
  | cons i h ih =>
    cases hpq with
    | crossed id cs hrest =>
      obtain ⟨r, hfirst, hsecond⟩ := ih hrest
      exact ⟨r, .crossed id cs hfirst, hsecond⟩
    | began ht hrest =>
      obtain ⟨r, hfirst, hsecond⟩ := ih hrest
      exact ⟨r, .began ht hfirst, hsecond⟩
    | performed a hrest =>
      obtain ⟨r, hfirst, hsecond⟩ := ih hrest
      exact ⟨r, .performed a hfirst, hsecond⟩

/-- The sets of what is crossed are run, with all that they set off, before anything that waits already. -/
theorem last_in_first_out {id : String} {cs : List Crossing}
    (hh : WorksOff table p (h ++ .crossed id cs :: h') []) :
    ∃ waiting h₁ h₂, h' = h₁ ++ h₂ ∧ WorksOff table p h waiting ∧
      WorksOff table (cs.map (.set id)) h₁ [] ∧ WorksOff table waiting h₂ [] := by
  obtain ⟨waiting, hbefore, hcrossed⟩ := hh.cut
  cases hcrossed with
  | crossed _ _ hafter =>
    obtain ⟨h₁, h₂, rfl, hsets, hrest⟩ := hafter.split
    exact ⟨waiting, h₁, h₂, rfl, hbefore, hsets, hrest⟩

end WorksOff

def waitingFor (id : String) : List Waiting → List Crossing
  | [] => []
  | .set id' c :: p => if id' = id then c :: waitingFor id p else waitingFor id p
  | .action _ :: p => waitingFor id p

theorem waitingFor_sets (id id' : String) (cs : List Crossing) (p : List Waiting) :
    waitingFor id (cs.map (.set id') ++ p) = (if id' = id then cs else []) ++ waitingFor id p := by
  induction cs with
  | nil => simp
  | cons c cs ih => by_cases hid : id' = id <;> simpa [waitingFor, hid] using ih

theorem waitingFor_actions (id : String) (as : List Action) (p : List Waiting) :
    waitingFor id (as.map .action ++ p) = waitingFor id p := by
  induction as with
  | nil => rfl
  | cons a as ih => exact ih

theorem WorksOff.perm {table : ThresholdTable} {p q : List Waiting} {h : Chronicle} (hpq : WorksOff table p h q)
    (id : String) :
    (waitingFor id p ++ crossedFor id h).Perm (begunFor id h ++ waitingFor id q) := by
  induction hpq with
  | done => simp [crossedFor, begunFor]
  | @crossed p q h id' cs _ ih =>
    rw [waitingFor_sets] at ih
    by_cases hid : id' = id
    · simp only [hid, if_true, crossedFor, begunFor] at ih ⊢
      exact (List.perm_append_comm_assoc ..).trans (List.append_assoc .. ▸ ih)
    · simpa [hid, crossedFor, begunFor] using ih
  | @began p q h id' c t _ _ ih =>
    rw [waitingFor_actions] at ih
    by_cases hid : id' = id
    · simpa [hid, waitingFor, crossedFor, begunFor] using ih
    · simpa [hid, waitingFor, crossedFor, begunFor] using ih
  | performed a _ ih => exact ih

section Runs

structure World.Orderly (w : World) : Prop where
  kept : w.scores.WellKept
  keeps : AllActions w.scores.table Action.KeepsAuthor

structure World.Tells (w : World) (h : Chronicle) (w' : World) : Prop where
  begun : ∀ id, w'.firedFor id = w.firedFor id ++ begunFor id h
  walks : ∀ id, Walk (w.scores.standing id) (crossedFor id h) (w'.scores.standing id)

namespace World.Tells

variable {u v w : World} {h h' : Chronicle}

theorem refl (w : World) : w.Tells [] w :=
  ⟨fun _ => (List.append_nil _).symm, fun _ => .stay _⟩

theorem trans (huv : u.Tells h v) (hvw : v.Tells h' w) : u.Tells (h ++ h') w where
  begun id := by rw [hvw.begun, huv.begun, begunFor_append, List.append_assoc]
  walks id := crossedFor_append id h h' ▸ (huv.walks id).append (hvw.walks id)

theorem of_same (hscores : v.scores = u.scores) (hfired : ∀ id, v.firedFor id = u.firedFor id) : u.Tells [] v :=
  ⟨fun id => (hfired id).trans (List.append_nil _).symm, fun _ => hscores ▸ .stay _⟩

theorem performed (huv : u.Tells h v) (a : Action) : u.Tells (.performed a :: h) v :=
  ⟨huv.begun, huv.walks⟩

theorem emit_crossed (w : World) (a : Author) (c : Crossing) (t : Threshold Float Action) :
    w.Tells [.began a.id c] (w.emit (.log (crossedLine a c.index t c.direction))) where
  begun id := by
    by_cases hid : a.id = id <;>
      cases c <;> simp [Effect.firedFor?, crossedLine, begunFor, hid, Crossing.index, Crossing.direction]
  walks _ := .stay _

theorem of_moved {id : String} {cs : List Crossing} (heffects : v.effects = u.effects)
    (htable : v.scores.table = u.scores.table) (hothers : ∀ id', id' ≠ id → v.scores.find? id' = u.scores.find? id')
    (hwalk : Walk (u.scores.standing id) cs (v.scores.standing id)) : u.Tells [.crossed id cs] v where
  begun id' := by
    rw [World.firedFor, heffects]
    exact (List.append_nil _).symm
  walks id' := by
    by_cases hid : id = id'
    · subst hid
      simpa [crossedFor] using hwalk
    · have hstanding := Scoreboard.standing_of_other htable (hothers id' (Ne.symm hid))
      simpa [crossedFor, hid, hstanding] using Walk.stay _

theorem add (hw : w.scores.WellKept) (a : Author) (delta : Float) (now : Time) :
    w.Tells [.crossed a.id (w.scores.add a delta now).2.1] (w.add a delta now) :=
  of_moved rfl rfl (fun _ hid => (Scoreboard.find?_store ..).trans (if_neg hid)) (hw.walk_add a delta now)

end World.Tells

structure Stage.Ready (id : String) (table : ThresholdTable) (s : Stage) : Prop where
  author : s.context.author.id = id
  table : s.world.scores.table = table
  orderly : s.world.Orderly

structure Stage.Follows (id : String) (table : ThresholdTable) (s : Stage) (p : List Waiting) (h : Chronicle)
    (s' : Stage) : Prop where
  ready : s'.Ready id table
  tells : s.world.Tells h s'.world
  stack : WorksOff table p h []

variable {id : String} {table : ThresholdTable} {s s' t : Stage} {p q : List Waiting} {h h' : Chronicle}

theorem Stage.Ready.follows (hs : s.Ready id table) : s.Follows id table [] [] s :=
  ⟨hs, .refl _, .done _⟩

theorem Stage.Follows.append (hp : s.Follows id table p h t) (hq : t.Follows id table q h' s') :
    s.Follows id table (p ++ q) (h ++ h') s' :=
  ⟨hq.ready, hp.tells.trans hq.tells, hp.stack.append hq.stack⟩

theorem follows_each {α : Type} {f : α → Stage → Option (Stage × Chronicle)} {task : α → Waiting} {as : List α}
    (hf : ∀ a ∈ as, ∀ s s' h, s.Ready id table → f a s = some (s', h) → s.Follows id table [task a] h s')
    (hs : s.Ready id table) (hrun : Recorded.each f as s = some (s', h)) :
    s.Follows id table (as.map task) h s' :=
  Recorded.each_induction (Q := fun a s h t => s.Follows id table [task a] h t)
    (R := fun as s h t => s.Follows id table (as.map task) h t) (fun h => h.ready) (fun h => h.follows)
    (fun h h' => h.append h') hf hs hrun

def Recorded.Faithful (fire : List Action → Stage → Option (Stage × Chronicle)) : Prop :=
  ∀ id table as s s' h, (∀ a ∈ as, a.KeepsAuthor) → s.Ready id table → fire as s = some (s', h) →
    s.Follows id table (as.map .action) h s'

section Sets

variable {fire : List Action → Stage → Option (Stage × Chronicle)} (hfire : Recorded.Faithful fire)

include hfire

theorem follows_fireSet {c : Crossing} (hc : c.index < table.size) (hs : s.Ready id table)
    (hrun : Recorded.fireSet fire table c s = some (s', h)) : s.Follows id table [.set id c] h s' := by
  obtain ⟨t, ht⟩ := exists_get? hc
  simp only [Recorded.fireSet, ht] at hrun
  obtain ⟨⟨u, h'⟩, hset, heq⟩ := Option.map_eq_some_iff.1 hrun
  obtain ⟨rfl, rfl⟩ := Prod.mk.inj heq
  have hkeeps : AllActions table Action.KeepsAuthor := hs.table ▸ hs.orderly.keeps
  have hlogged : (s.emit (.log (crossedLine s.context.author c.index t c.direction))).Ready id table :=
    ⟨hs.author, hs.table, hs.orderly.kept, hs.orderly.keeps⟩
  have hfollows := hfire id table _ _ _ _ (hkeeps.of_get? ht c.direction) hlogged hset
  refine ⟨hfollows.ready, (World.Tells.emit_crossed s.world _ c t).trans hfollows.tells, ?_⟩
  rw [hs.author]
  exact .began ht ((List.append_nil _).symm ▸ hfollows.stack)

theorem follows_fireCrossing {c : Crossing} (hc : c.index < table.size) (hs : s.Ready id table)
    (hrun : Recorded.fireCrossing fire table c s = some (s', h)) : s.Follows id table [.set id c] h s' := by
  cases c with
  | up i => exact follows_fireSet hfire hc hs hrun
  | down i =>
    obtain ⟨⟨u, h'⟩, hset, heq⟩ := Option.map_eq_some_iff.1 hrun
    obtain ⟨rfl, rfl⟩ := Prod.mk.inj heq
    have hblank : (s.withContext (.blank s.context.author)).Ready id table := ⟨hs.author, hs.table, hs.orderly⟩
    have hfollows := follows_fireSet hfire (c := .down i) hc hblank hset
    exact ⟨⟨hs.author, hfollows.ready.table, hfollows.ready.orderly⟩, hfollows.tells, hfollows.stack⟩

theorem follows_addPointsWith {now : Time} {delta : Float} {r : Float × Stage} (hs : s.Ready id table)
    (hrun : Recorded.addPointsWith fire now delta s = some (r, h)) : s.Follows id table [] h r.2 := by
  cases henabled : s.world.scores.enabled with
  | false =>
    simp only [Recorded.addPointsWith, henabled, Bool.false_eq_true, if_false] at hrun
    obtain ⟨rfl, rfl⟩ := Prod.mk.inj (Option.some.inj hrun)
    exact hs.follows
  | true =>
    simp only [Recorded.addPointsWith, henabled, if_true, hs.table] at hrun
    obtain ⟨⟨u, h'⟩, hall, heq⟩ := Option.map_eq_some_iff.1 hrun
    obtain ⟨rfl, rfl⟩ := Prod.mk.inj heq
    have hkept := hs.orderly.kept
    have hmoved : (s.add delta now).Ready id table :=
      ⟨hs.author, hs.table, hkept.add s.context.author delta now, hs.orderly.keeps⟩
    have hfollows := follows_each (fun c hc t t' h ht hrun => follows_fireCrossing hfire
      (hs.table ▸ hkept.index_lt_of_mem_add hc) ht hrun) hmoved hall
    refine ⟨hfollows.ready, (World.Tells.add hkept s.context.author delta now).trans hfollows.tells, ?_⟩
    exact .crossed _ _ ((List.append_nil _).symm ▸ hs.author ▸ hfollows.stack)

theorem follows_step {env : Environment} {a : Action} (ha : a.KeepsAuthor) {r : Except ActionError Stage}
    (hs : s.Ready id table) (hrun : Recorded.step fire env a s = some (r, h)) :
    s.Follows id table [] h (contained s r).2 := by
  cases hpoints : a.addsPoints with
  | false =>
    have hstep : (step env (fun _ _ => none) a s).map (fun r => (r, [])) = some (r, h) := by
      cases a with
      | points amount => cases hpoints
      | _ => exact hrun
    obtain ⟨r', hr', heq⟩ := Option.map_eq_some_iff.1 hstep
    obtain ⟨rfl, rfl⟩ := Prod.mk.inj heq
    obtain ⟨_, hsame, hadv⟩ := step_of_not_addsPoints env (fun _ _ => none) hpoints ha s
    obtain rfl := Option.some.inj (hsame.symm.trans hr')
    have hscores := scores_step hpoints hr'
    refine ⟨⟨hadv.author.trans hs.author, hscores ▸ hs.table, hscores ▸ hs.orderly.kept,
      hscores ▸ hs.orderly.keeps⟩, .of_same hscores fun id' => ?_, .done _⟩
    by_cases hid : id' = s.context.author.id
    · rw [hid, hadv.world.fired, List.append_nil]
    · exact hadv.world.others id' hid
  | true =>
    cases a with
    | points amount =>
      simp only [Recorded.step] at hrun
      split at hrun
      · obtain ⟨⟨⟨total, t⟩, h'⟩, hadd, heq⟩ := Option.map_eq_some_iff.1 hrun
        obtain ⟨rfl, rfl⟩ := Prod.mk.inj heq
        have hfollows := follows_addPointsWith hfire hs hadd
        exact ⟨⟨hfollows.ready.author, hfollows.ready.table, hfollows.ready.orderly⟩, hfollows.tells,
          hfollows.stack⟩
      · obtain ⟨rfl, rfl⟩ := Prod.mk.inj (Option.some.inj hrun)
        exact hs.follows
    | _ => cases hpoints

end Sets

theorem faithful_performEach {perform : Action → Stage → Option (Except ActionError Stage × Chronicle)}
    (hperform : ∀ id table a s r h, a.KeepsAuthor → s.Ready id table → perform a s = some (r, h) →
      s.Follows id table [] h (contained s r).2) : Recorded.Faithful (Recorded.performEach perform) := by
  intro id table as s s' h has hs hrun
  refine follows_each (fun a ha t t' h ht hact => ?_) hs hrun
  obtain ⟨⟨r, h'⟩, hr, heq⟩ := Option.map_eq_some_iff.1 hact
  obtain ⟨rfl, rfl⟩ := Prod.mk.inj heq
  have hfollows := hperform id table a t r h' (has a ha) ht hr
  exact ⟨hfollows.ready, hfollows.tells.performed a, .performed a hfollows.stack⟩

theorem follows_performWithin (env : Environment) (n : Nat) :
    ∀ id table a s r h, a.KeepsAuthor → s.Ready id table → Recorded.performWithin env n a s = some (r, h) →
      s.Follows id table [] h (contained s r).2 := by
  -- The induction is on how deep thresholds may set off one another.
  induction n with
  | zero =>
    have hnone : Recorded.Faithful fun _ _ => none := fun _ _ _ _ _ _ _ _ hrun => by cases hrun
    exact fun _ _ _ _ _ _ ha hs hrun => follows_step hnone ha hs hrun
  | succ n ih => exact fun _ _ _ _ _ _ ha hs hrun => follows_step (faithful_performEach ih) ha hs hrun

theorem faithful_fire (env : Environment) : Recorded.Faithful (Recorded.fire env) :=
  faithful_performEach (follows_performWithin env env.nesting)

structure World.Follows (w : World) (h : Chronicle) (w' : World) : Prop where
  orderly : w'.Orderly
  table : w'.scores.table = w.scores.table
  tells : w.Tells h w'
  stack : WorksOff w.scores.table [] h []

theorem World.Follows.refl {w : World} (hw : w.Orderly) : w.Follows [] w := ⟨hw, rfl, .refl w, .done _⟩

theorem World.Follows.trans {u v w : World} (huv : u.Follows h v) (hvw : v.Follows h' w) : u.Follows (h ++ h') w :=
  ⟨hvw.orderly, hvw.table.trans huv.table, huv.tells.trans hvw.tells, huv.stack.trans (huv.table ▸ hvw.stack)⟩

variable {w w' : World} {env : Environment}

theorem follows_each_world {α : Type} {f : α → World → Option (World × Chronicle)}
    (hf : ∀ a w w' h, w.Orderly → f a w = some (w', h) → w.Follows h w') {as : List α} (hw : w.Orderly)
    (hrun : Recorded.each f as w = some (w', h)) : w.Follows h w' :=
  Recorded.each_induction (Q := fun _ => World.Follows) (R := fun _ => World.Follows) (fun h => h.orderly)
    .refl .trans (fun a _ => hf a) hw hrun

theorem follows_leakOne {id : String} (hw : w.Orderly) (hrun : Recorded.leakOne env id w = some (w', h)) :
    w.Follows h w' := by
  have hkept := hw.kept
  have htable : (w.tick id env.now).scores.table = w.scores.table :=
    congrArg (·.installed.table) (w.settings_tick id env.now)
  have hticked : (w.tick id env.now).Orderly := ⟨hkept.tick id env.now, htable ▸ hw.keeps⟩
  unfold Recorded.leakOne at hrun
  cases htick : (w.scores.tick id env.now).2 with
  | none =>
    rw [htick] at hrun
    obtain ⟨rfl, rfl⟩ := Prod.mk.inj (Option.some.inj hrun)
    have hsame : (w.scores.tick id env.now).1 = w.scores := Scoreboard.tick_none (Prod.ext rfl htick)
    exact ⟨hticked, htable, .of_same hsame fun _ => rfl, .done _⟩
  | some ticked =>
    obtain ⟨author, crossed⟩ := ticked
    rw [htick] at hrun
    obtain ⟨⟨s, h'⟩, hsets, heq⟩ := Option.map_eq_some_iff.1 hrun
    obtain ⟨rfl, rfl⟩ := Prod.mk.inj heq
    obtain rfl := hkept.author_tick htick
    obtain ⟨hwalk, hindex⟩ := hkept.walk_tick htick
    have hready : Stage.Ready author.id w.scores.table ⟨.blank author, w.tick author.id env.now⟩ :=
      ⟨rfl, htable, hticked⟩
    have hfollows := follows_each (fun c hc _ _ _ ht hrun =>
      follows_fireSet (faithful_fire env) (hindex c hc) ht hrun) hready hsets
    have hmoved : w.Tells [.crossed author.id crossed] (w.tick author.id env.now) :=
      .of_moved rfl htable (fun _ hid => w.scores.find?_tick_other hid env.now) hwalk
    exact ⟨hfollows.ready.orderly, hfollows.ready.table, hmoved.trans hfollows.tells,
      .crossed _ _ ((List.append_nil _).symm ▸ hfollows.stack)⟩

theorem follows_call {c : ScoreCall} (hw : w.Orderly) (hrun : Recorded.call env w c = some (w', h)) :
    w.Follows h w' := by
  cases c with
  | add message delta =>
    obtain ⟨⟨r, h'⟩, hadd, heq⟩ := Option.map_eq_some_iff.1 hrun
    obtain ⟨rfl, rfl⟩ := Prod.mk.inj heq
    have hready : Stage.Ready message.author.id w.scores.table ⟨message, w⟩ := ⟨rfl, rfl, hw⟩
    have hfollows := follows_addPointsWith (faithful_fire env) hready hadd
    exact ⟨hfollows.ready.orderly, hfollows.ready.table, hfollows.tells, hfollows.stack⟩
  | tick order =>
    simp only [Recorded.call] at hrun
    split at hrun
    · exact follows_each_world (fun _ _ _ _ => follows_leakOne) hw hrun
    · obtain ⟨rfl, rfl⟩ := Prod.mk.inj (Option.some.inj hrun)
      exact .refl hw

theorem follows_runCalls {calls : List (Environment × ScoreCall)} (hw : w.Orderly)
    (hrun : Recorded.runCalls calls w = some (w', h)) : w.Follows h w' :=
  follows_each_world (fun _ _ _ _ => follows_call) hw hrun

/-- The chronicle of a run names the sets that the run logs, and tells how all that waits is worked off: each of them
is begun where it is logged, and its actions are performed one by one. -/
structure Recounts (calls : List (Environment × ScoreCall)) (w : World) (h : Chronicle) (w' : World) : Prop where
  recorded : Recorded.runCalls calls w = some (w', h)
  logged : ∀ id, w'.firedFor id = w.firedFor id ++ begunFor id h
  stack : WorksOff w.scores.table [] h []

theorem exists_follows {calls : List (Environment × ScoreCall)} (hw : w.Orderly) (hrun : runCalls calls w = some w') :
    ∃ h, Recounts calls w h w' ∧ w.Follows h w' := by
  rw [← fst_runCalls] at hrun
  obtain ⟨⟨w', h⟩, hrecorded, rfl⟩ := Option.map_eq_some_iff.1 hrun
  have hfollows := follows_runCalls hw hrecorded
  exact ⟨h, ⟨hrecorded, hfollows.tells.begun, hfollows.stack⟩, hfollows⟩

end Runs

end Moderation
