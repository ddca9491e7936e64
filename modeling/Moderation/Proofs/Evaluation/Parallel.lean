import Moderation.Proofs.Evaluation.Conservation

/-!
Two runs side by side. A relation between stages that every single change keeps is kept when thresholds set off
one another, or neither run has a result.
-/

namespace Moderation

open Points

section Related

variable {α β : Type} {R : α → α → Prop} {S : β → β → Prop} {x x' : Option α}

theorem rel_bind {f f' : α → Option β} (hx : Option.Rel R x x')
    (hf : ∀ a a', R a a' → Option.Rel S (f a) (f' a')) : Option.Rel S (x.bind f) (x'.bind f') := by
  cases hx with
  | some h => exact hf _ _ h
  | none => exact .none

theorem rel_map {f f' : α → β} (hx : Option.Rel R x x') (hf : ∀ a a', R a a' → S (f a) (f' a')) :
    Option.Rel S (x.map f) (x'.map f') := by
  cases hx with
  | some h => exact .some (hf _ _ h)
  | none => exact .none

theorem rel_refl (hR : ∀ a, R a a) (x : Option α) : Option.Rel R x x := by
  cases x with
  | none => exact .none
  | some a => exact .some (hR a)

theorem rel_trans (hR : ∀ a b c, R a b → R b c → R a c) {x'' : Option α} (hx : Option.Rel R x x')
    (hx' : Option.Rel R x' x'') : Option.Rel R x x'' := by
  cases hx with
  | none => exact hx'
  | some h =>
    cases hx' with
    | some h' => exact .some (hR _ _ _ h h')

theorem exists_of_rel_left {a : α} (h : Option.Rel R (some a) x') : ∃ a', x' = some a' ∧ R a a' := by
  cases h with
  | some h => exact ⟨_, rfl, h⟩

theorem exists_of_rel_right {a' : α} (h : Option.Rel R x (some a')) : ∃ a, x = some a ∧ R a a' := by
  cases h with
  | some h => exact ⟨_, rfl, h⟩

theorem eq_none_of_rel (h : Option.Rel R none x') : x' = none := by
  cases h
  rfl

end Related

variable {env : Environment} {ok : Action → Prop} {R : Stage → Stage → Prop} {s s' : Stage}

def EndsIn (R : Stage → Stage → Prop) (s s' : Stage) (r r' : Except ActionError Stage) : Prop :=
  (contained s r).1 = (contained s' r').1 ∧ R (contained s r).2 (contained s' r').2

def Firing.Respects (ok : Action → Prop) (R : Stage → Stage → Prop) (fire : Firing) : Prop :=
  ∀ as, (∀ a ∈ as, ok a) → ∀ s s', R s s' → Option.Rel R (fire as s) (fire as s')

theorem respects_performEach {perform : Action → Stage → Option (Except ActionError Stage)}
    (hperform : ∀ a, ok a → ∀ s s', R s s' → Option.Rel (EndsIn R s s') (perform a s) (perform a s')) :
    Firing.Respects ok R (performEach perform) := by
  intro as has
  induction as with
  | nil => exact fun s s' hs => .some hs
  | cons a rest ih =>
    intro s s' hs
    refine rel_bind (hperform a (has a List.mem_cons_self) s s' hs) fun r r' hr => ?_
    exact ih (fun b hb => has b (List.mem_cons_of_mem _ hb)) _ _ hr.2

structure Parallel (env : Environment) (ok : Action → Prop) (R : Stage → Stage → Prop) : Prop where
  author {s s' : Stage} : R s s' → s.context.author = s'.context.author
  enabled {s s' : Stage} : R s s' → s.world.scores.enabled = s'.world.scores.enabled
  table {s s' : Stage} : R s s' → s.world.scores.table = s'.world.scores.table
  allowed {s s' : Stage} : R s s' → AllActions s.world.scores.table ok
  acts {fire : Firing} {a : Action} {s s' : Stage} : ok a → a.addsPoints = false → R s s' →
    Option.Rel (EndsIn R s s') (step env fire a s) (step env fire a s')
  notes {s s' : Stage} (text : String) : R s s' →
    R (s.withContext (s.context.note text)) (s'.withContext (s'.context.note text))
  logs {s s' : Stage} (c : Crossing) (t : Threshold Float Action) : R s s' →
    R (s.emit (.log (crossedLine s.context.author c.index t c.direction)))
      (s'.emit (.log (crossedLine s.context.author c.index t c.direction)))
  crossed {s s' : Stage} (delta : Float) : R s s' →
    (s.world.scores.add s.context.author delta env.now).2 =
      (s'.world.scores.add s'.context.author delta env.now).2
  scores {s s' : Stage} (delta : Float) : R s s' → R (s.add delta env.now) (s'.add delta env.now)
  blank {s s' : Stage} : R s s' →
    R (s.withContext (.blank s.context.author)) (s'.withContext (.blank s'.context.author))
  unblank {s s' u u' : Stage} : R s s' → R u u' → R (u.withContext s.context) (u'.withContext s'.context)

namespace Parallel

variable {fire : Firing} (h : Parallel env ok R)

include h

section Sets

variable (hfire : fire.Respects ok R) {table : ThresholdTable} (ht : AllActions table ok)

include hfire ht

theorem fireSet (c : Crossing) (hs : R s s') :
    Option.Rel R (fireSet fire table c s) (fireSet fire table c s') := by
  cases hget : table.get? c.index with
  | none =>
    rw [fireSet_of_get?_eq_none hget, fireSet_of_get?_eq_none hget]
    exact .some hs
  | some t =>
    rw [fireSet_eq hget, fireSet_eq hget, ← h.author hs]
    exact hfire _ (ht.of_get? hget _) _ _ (h.logs c t hs)

theorem fireCrossing (c : Crossing) (hs : R s s') :
    Option.Rel R (fireCrossing fire table c s) (fireCrossing fire table c s') := by
  cases c with
  | up index => exact h.fireSet hfire ht (.up index) hs
  | down index =>
    -- The set acts on a blank message, after which the one at hand is taken up again.
    exact rel_map (h.fireSet hfire ht (.down index) (h.blank hs)) fun u u' hu => h.unblank hs hu

theorem fireAll (crossed : List Crossing) (hs : R s s') :
    Option.Rel R (fireAll fire table crossed s) (fireAll fire table crossed s') := by
  induction crossed generalizing s s' with
  | nil => exact .some hs
  | cons c rest ih => exact rel_bind (h.fireCrossing hfire ht c hs) fun u u' hu => ih hu

theorem fireSets (crossed : List Crossing) (hs : R s s') :
    Option.Rel R (fireSets fire table crossed s) (fireSets fire table crossed s') := by
  induction crossed generalizing s s' with
  | nil => exact .some hs
  | cons c rest ih => exact rel_bind (h.fireSet hfire ht c hs) fun u u' hu => ih hu

end Sets

theorem addPointsWith (hfire : fire.Respects ok R) (delta : Float) (hs : R s s') :
    Option.Rel (fun r r' => r.1 = r'.1 ∧ R r.2 r'.2) (addPointsWith fire env.now delta s)
      (addPointsWith fire env.now delta s') := by
  cases henabled : s.world.scores.enabled with
  | false =>
    rw [addPointsWith_of_disabled henabled, addPointsWith_of_disabled ((h.enabled hs).symm.trans henabled)]
    exact .some ⟨rfl, hs⟩
  | true =>
    have hcrossed := h.crossed delta hs
    rw [addPointsWith_eq henabled, addPointsWith_eq ((h.enabled hs).symm.trans henabled), ← h.table hs]
    dsimp only
    rw [← hcrossed]
    exact rel_map (h.fireAll hfire (h.allowed hs) _ (h.scores delta hs)) fun u u' hu => ⟨rfl, hu⟩

theorem step (hfire : fire.Respects ok R) {a : Action} (ha : ok a) (hs : R s s') :
    Option.Rel (EndsIn R s s') (step env fire a s) (step env fire a s') := by
  cases hpoints : a.addsPoints with
  | false => exact h.acts ha hpoints hs
  | true =>
    cases a with
    | points amount =>
      simp only [Moderation.step, ← h.enabled hs]
      split
      · refine rel_map (h.addPointsWith hfire amount hs) fun r r' hr => ⟨rfl, ?_⟩
        rw [← hr.1, ← h.author hr.2]
        exact h.notes _ hr.2
      · exact .some ⟨rfl, hs⟩
    | _ => cases hpoints

theorem performWithin (n : Nat) :
    ∀ a, ok a → ∀ s s', R s s' →
      Option.Rel (EndsIn R s s') (performWithin env n a s) (performWithin env n a s') := by
  -- The induction is on how deep thresholds may set off one another.
  induction n with
  | zero =>
    have hnone : Firing.Respects ok R fun _ _ => none := fun _ _ _ _ _ => .none
    exact fun a ha s s' hs => h.step hnone ha hs
  | succ n ih => exact fun a ha s s' hs => h.step (respects_performEach ih) ha hs

theorem perform {a : Action} (ha : ok a) (hs : R s s') :
    Option.Rel (EndsIn R s s') (perform env a s) (perform env a s') :=
  h.performWithin env.nesting a ha s s' hs

theorem fires : Firing.Respects ok R (Moderation.fire env) :=
  respects_performEach (h.performWithin env.nesting)

theorem addPoints (delta : Float) (hs : R s s') :
    Option.Rel (fun r r' => r.1 = r'.1 ∧ R r.2 r'.2) (addPoints env delta s) (addPoints env delta s') :=
  h.addPointsWith h.fires delta hs

end Parallel

section Worlds

def Effect.reaches (id : String) : Effect → Bool
  | .deed id' _ => id' == id
  | .log (.crossed id' _ _ _ _ _) => id' == id
  | _ => false

def Effect.StaysWith (id : String) (e : Effect) : Prop := ∀ id', id' ≠ id → e.reaches id' = false

theorem Effect.staysWith_deed (id : String) (d : Deed) : (Effect.deed id d).StaysWith id :=
  fun _ h => beq_eq_false_iff_ne.2 h.symm

theorem Effect.staysWith_crossed (a : Author) (place : Nat) (t : Threshold Float Action) (direction : Direction) :
    (Effect.log (crossedLine a place t direction)).StaysWith a.id :=
  fun _ h => beq_eq_false_iff_ne.2 h.symm

theorem Sink.staysWith_deliver (sink : Sink) (a : Announcement) (id : String) : (sink.deliver a).StaysWith id := by
  cases sink <;> exact fun _ _ => rfl

structure Coupling (id : String) (W : World → World → Prop) : Prop where
  enabled {w w' : World} : W w w' → w.scores.enabled = w'.scores.enabled
  table {w w' : World} : W w w' → w.scores.table = w'.scores.table
  keeps {w w' : World} : W w w' → AllActions w.scores.table Action.KeepsAuthor
  deeds {w w' : World} : W w w' → w.deedsOn id = w'.deedsOn id
  emit {w w' : World} {e : Effect} : e.StaysWith id → W w w' → W (w.emit e) (w'.emit e)
  crossed {w w' : World} {a : Author} (delta : Float) (now : Time) : a.id = id → W w w' →
    (w.scores.add a delta now).2 = (w'.scores.add a delta now).2
  add {w w' : World} {a : Author} (delta : Float) (now : Time) : a.id = id → W w w' →
    W (w.add a delta now) (w'.add a delta now)

structure Stage.Along (id : String) (W : World → World → Prop) (s s' : Stage) : Prop where
  context : s.context = s'.context
  author : s.context.author.id = id
  world : W s.world s'.world

variable {id : String} {W : World → World → Prop} (hW : Coupling id W)

include hW

theorem punish_along {c : Context} {w w' : World} (hc : c.author.id = id) (h : W w w') (d : Deed)
    (note : String) :
    EndsIn (Stage.Along id W) ⟨c, w⟩ ⟨c, w'⟩ (Stage.punish ⟨c, w⟩ d note) (Stage.punish ⟨c, w'⟩ d note) := by
  unfold Stage.punish World.attempt
  dsimp only
  rw [hc, ← hW.deeds h]
  cases c.author.answer (w.deedsOn id) d with
  | error e => exact ⟨rfl, rfl, hc, h⟩
  | ok => exact ⟨rfl, rfl, hc, hW.emit (hc ▸ Effect.staysWith_deed _ d) h⟩

theorem acts_along {fire : Firing} {a : Action} (ha : a.KeepsAuthor) (hpoints : a.addsPoints = false)
    {s s' : Stage} (h : s.Along id W s') :
    Option.Rel (EndsIn (Stage.Along id W) s s') (step env fire a s) (step env fire a s') := by
  obtain ⟨c, w⟩ := s
  obtain ⟨c', w'⟩ := s'
  obtain ⟨rfl, hc, hw⟩ := h
  have hedited : ∀ c'' : Context, c''.author.id = c.author.id →
      EndsIn (Stage.Along id W) ⟨c, w⟩ ⟨c, w'⟩ (.ok ⟨c'', w⟩) (.ok ⟨c'', w'⟩) := fun _ hc'' =>
    ⟨rfl, rfl, hc''.trans hc, hw⟩
  have hreplaced : ∀ f, (c.replaceMatches f).author.id = c.author.id := by
    intro f
    unfold Context.replaceMatches
    split <;> rfl
  have hannounced : ∀ announcement, EndsIn (Stage.Along id W) ⟨c, w⟩ ⟨c, w'⟩
      (.ok ⟨c, w.emit (env.sink.deliver announcement)⟩) (.ok ⟨c, w'.emit (env.sink.deliver announcement)⟩) :=
    fun announcement => ⟨rfl, rfl, hc, hW.emit (env.sink.staysWith_deliver announcement id) hw⟩
  cases a with
  | points amount => cases hpoints
  | replace text => exact .some (hedited _ (hreplaced _))
  | changeCase upper => exact .some (hedited _ (hreplaced _))
  | restate text => exact .some (hedited _ rfl)
  | deny => exact .some (hedited _ rfl)
  | abort => exact .some (hedited _ rfl)
  | log => exact .some (hedited _ rfl)
  | console text => exact .some (hannounced _)
  | broadcast text => exact .some (hannounced _)
  | notify permission text => exact .some (hannounced _)
  | penalize penalty text => exact .some (punish_along hW hc hw _ _)
  | command text => exact .some (punish_along hW hc hw _ _)
  | host run =>
    simp only [step]
    cases hrun : run c with
    | ok c'' => exact .some (hedited c'' (ha c c'' hrun))
    | error e => exact .some ⟨rfl, rfl, hc, hw⟩

theorem parallel_along (env : Environment) : Parallel env Action.KeepsAuthor (Stage.Along id W) where
  author h := by rw [h.context]
  enabled h := hW.enabled h.world
  table h := hW.table h.world
  allowed h := hW.keeps h.world
  acts ha hpoints h := acts_along hW ha hpoints h
  notes text h := ⟨congrArg (·.note text) h.context, h.author, h.world⟩
  logs c t h :=
    ⟨h.context, h.author, hW.emit (h.author ▸ Effect.staysWith_crossed _ c.index t c.direction) h.world⟩
  crossed delta h := h.context ▸ hW.crossed delta env.now h.author h.world
  scores delta h := ⟨h.context, h.author, by
    rw [Stage.add, Stage.add, ← h.context]
    exact hW.add delta env.now h.author h.world⟩
  blank h := ⟨by rw [h.context]; rfl, h.author, h.world⟩
  unblank h hu := ⟨h.context, h.author, hu.world⟩

theorem addPoints_along (env : Environment) {message : Context} (hmessage : message.author.id = id) (delta : Float)
    {w w' : World} (h : W w w') :
    Option.Rel (fun r r' => r.1 = r'.1 ∧ r.2.Along id W r'.2) (addPoints env delta ⟨message, w⟩)
      (addPoints env delta ⟨message, w'⟩) :=
  (parallel_along hW env).addPoints delta ⟨rfl, hmessage, h⟩

omit hW in
theorem leakOne_along {w w' : World} (htable : w.scores.table = w'.scores.table)
    (hcrossed : (w.scores.tick id env.now).2 = (w'.scores.tick id env.now).2)
    (h : W (w.tick id env.now) (w'.tick id env.now))
    (hW : ∀ author crossed, (w.scores.tick id env.now).2 = some (author, crossed) → Coupling author.id W) :
    Option.Rel W (leakOne env id w) (leakOne env id w') := by
  rw [leakOne_eq, leakOne_eq, ← hcrossed, ← htable]
  split
  · exact .some h
  · rename_i author crossed heq
    have hparallel := parallel_along (hW author crossed heq) env
    have hstart : Stage.Along author.id W ⟨.blank author, w.tick id env.now⟩
        ⟨.blank author, w'.tick id env.now⟩ := ⟨rfl, rfl, h⟩
    have hallowed := hparallel.allowed hstart
    rw [Scoreboard.table, World.settings_tick] at hallowed
    exact rel_map (hparallel.fireSets hparallel.fires hallowed crossed hstart) fun u u' hu => hu.world

end Worlds

end Moderation
