import Moderation.Evaluation.Chain
import Moderation.Proofs.Evaluation.Firing

namespace Moderation

open Points

variable {env : Environment} {ok : Action → Prop} {R : Stage → Stage → Prop} {s s' : Stage}

structure Persistent (env : Environment) (ok : Action → Prop) (R : Stage → Stage → Prop) : Prop where
  refl (s : Stage) : R s s
  trans {s t u : Stage} : R s t → R t u → R s u
  table {s t : Stage} : R s t → t.world.scores.table = s.world.scores.table
  acts {fire : Firing} {a : Action} {s : Stage} {r : Except ActionError Stage} : ok a →
    a.addsPoints = false → step env fire a s = some r → R s (contained s r).2
  notes (s : Stage) (text : String) : R s (s.withContext (s.context.note text))
  logs (s : Stage) (e : LogEvent) : R s (s.emit (.log e))
  scores (s : Stage) {delta : Float} : ok (.points delta) →
    R s { s with world := { s.world with
      scores := (s.world.scores.add s.context.author delta env.now).1 } }
  blank {s t : Stage} : R (s.withContext (.blank s.context.author)) t → R s (t.withContext s.context)

structure Conserved (env : Environment) (ok : Action → Prop) (R : Stage → Stage → Prop) : Prop
    extends Persistent env ok R where
  enters (s : Stage) (pattern : Option Pattern) (lines : List Nat) (notes : List String) :
    R s (s.withContext { s.context with pattern := pattern, matchedLines := lines, notes := notes })
  notes s text := enters s s.context.pattern s.context.matchedLines (s.context.notes ++ [text])

def Firing.Conserves (ok : Action → Prop) (R : Stage → Stage → Prop) (fire : Firing) : Prop :=
  ∀ as s s', (∀ a ∈ as, ok a) → AllActions s.world.scores.table ok → fire as s = some s' → R s s'

theorem fireSet_of_get?_eq_none {fire : Firing} {table : ThresholdTable} {c : Crossing}
    (h : table.get? c.index = none) (s : Stage) : fireSet fire table c s = some s := by
  cases c <;>
    · simp only [Crossing.index] at h
      simp only [fireSet, h]

namespace Persistent

variable {fire : Firing} (h : Persistent env ok R)

include h

theorem allActions (hs : AllActions s.world.scores.table ok) (hR : R s s') :
    AllActions s'.world.scores.table ok := h.table hR ▸ hs

section Sets

variable (hfire : fire.Conserves ok R) {table : ThresholdTable} (ht : AllActions table ok)

include hfire ht

theorem fireSet {c : Crossing} (hs : AllActions s.world.scores.table ok)
    (hrun : fireSet fire table c s = some s') : R s s' := by
  cases hget : table.get? c.index with
  | none =>
    rw [fireSet_of_get?_eq_none hget] at hrun
    obtain rfl := Option.some.inj hrun
    exact h.refl s
  | some t =>
    rw [fireSet_eq hget] at hrun
    have hlogged := h.logs s (crossedLine s.context.author c.index t c.direction)
    exact h.trans hlogged (hfire _ _ _ (ht.of_get? hget _) (h.allActions hs hlogged) hrun)

theorem fireCrossing {c : Crossing} (hs : AllActions s.world.scores.table ok)
    (hrun : fireCrossing fire table c s = some s') : R s s' := by
  cases c with
  | up index => exact h.fireSet (c := .up index) hfire ht hs hrun
  | down index =>
    obtain ⟨t, hset, rfl⟩ := Option.map_eq_some_iff.1 hrun
    exact h.blank (h.fireSet hfire ht hs hset)

theorem fireAll {crossed : List Crossing} (hs : AllActions s.world.scores.table ok)
    (hrun : fireAll fire table crossed s = some s') : R s s' := by
  induction crossed generalizing s with
  | nil =>
    obtain rfl := Option.some.inj hrun
    exact h.refl s
  | cons c rest ih =>
    obtain ⟨t, hfirst, hrest⟩ := Option.bind_eq_some_iff.1 hrun
    have hst := h.fireCrossing hfire ht hs hfirst
    exact h.trans hst (ih (h.allActions hs hst) hrest)

theorem fireSets {crossed : List Crossing} (hs : AllActions s.world.scores.table ok)
    (hrun : fireSets fire table crossed s = some s') : R s s' := by
  induction crossed generalizing s with
  | nil =>
    obtain rfl := Option.some.inj hrun
    exact h.refl s
  | cons c rest ih =>
    obtain ⟨t, hfirst, hrest⟩ := Option.bind_eq_some_iff.1 hrun
    have hst := h.fireSet hfire ht hs hfirst
    exact h.trans hst (ih (h.allActions hs hst) hrest)

end Sets

theorem addPointsWith (hfire : fire.Conserves ok R) {delta : Float} (hdelta : ok (.points delta))
    (hs : AllActions s.world.scores.table ok) {total : Float}
    (hrun : addPointsWith fire env.now delta s = some (total, s')) : R s s' := by
  cases henabled : s.world.scores.enabled with
  | false =>
    rw [addPointsWith_of_disabled henabled] at hrun
    obtain ⟨-, rfl⟩ := Prod.mk.inj (Option.some.inj hrun)
    exact h.refl s
  | true =>
    rw [addPointsWith_eq henabled] at hrun
    obtain ⟨t, hall, heq⟩ := Option.map_eq_some_iff.1 hrun
    obtain ⟨-, rfl⟩ := Prod.mk.inj heq
    have hscored := h.scores s hdelta
    exact h.trans hscored (h.fireAll hfire hs (h.allActions hs hscored) hall)

theorem step (hfire : fire.Conserves ok R) {a : Action} (ha : ok a)
    (hs : AllActions s.world.scores.table ok) {r : Except ActionError Stage}
    (hrun : step env fire a s = some r) : R s (contained s r).2 := by
  cases hpoints : a.addsPoints with
  | false => exact h.acts ha hpoints hrun
  | true =>
    cases a with
    | points delta =>
      simp only [Moderation.step] at hrun
      split at hrun
      · obtain ⟨⟨total, t⟩, hadd, rfl⟩ := Option.map_eq_some_iff.1 hrun
        exact h.trans (h.addPointsWith hfire ha hs hadd) (h.notes t _)
      · obtain rfl := Option.some.inj hrun
        exact h.refl s
    | _ => cases hpoints

theorem performEach {perform : Action → Stage → Option (Except ActionError Stage)}
    (hperform : ∀ a s r, ok a → AllActions s.world.scores.table ok → perform a s = some r →
      R s (contained s r).2) : Firing.Conserves ok R (performEach perform) := by
  intro as
  induction as with
  | nil =>
    intro s s' _ _ hrun
    obtain rfl := Option.some.inj hrun
    exact h.refl s
  | cons a rest ih =>
    intro s s' has hs hrun
    obtain ⟨r, hfirst, hrest⟩ := Option.bind_eq_some_iff.1 hrun
    have hst := hperform a s r (has a List.mem_cons_self) hs hfirst
    exact h.trans hst
      (ih _ _ (fun b hb => has b (List.mem_cons_of_mem _ hb)) (h.allActions hs hst) hrest)

theorem performWithin (n : Nat) :
    ∀ a s r, ok a → AllActions s.world.scores.table ok → performWithin env n a s = some r →
      R s (contained s r).2 := by
  -- The induction is on how deep thresholds may set off one another.
  induction n with
  | zero =>
    have hnone : Firing.Conserves ok R fun _ _ => none := fun _ _ _ _ _ hrun => by cases hrun
    exact fun a s r ha hs hrun => h.step hnone ha hs hrun
  | succ n ih => exact fun a s r ha hs hrun => h.step (h.performEach ih) ha hs hrun

theorem perform {a : Action} (ha : ok a) (hs : AllActions s.world.scores.table ok)
    {r : Except ActionError Stage} (hrun : perform env a s = some r) : R s (contained s r).2 :=
  h.performWithin env.nesting a s r ha hs hrun

theorem fires : Firing.Conserves ok R (Moderation.fire env) :=
  h.performEach (h.performWithin env.nesting)

theorem runActions {actions : List Invocation} (hactions : ∀ i ∈ actions, ok i.action)
    (hs : AllActions s.world.scores.table ok) {m m' : Metrics}
    (hrun : runActions env actions s m = some (s', m')) : R s s' := by
  induction actions generalizing s m with
  | nil =>
    obtain ⟨rfl, -⟩ := Prod.mk.inj (Option.some.inj hrun)
    exact h.refl s
  | cons i rest ih =>
    obtain ⟨r, hfirst, hrest⟩ := Option.bind_eq_some_iff.1 hrun
    have hst := h.perform (hactions i List.mem_cons_self) hs hfirst
    exact h.trans hst
      (ih (fun j hj => hactions j (List.mem_cons_of_mem _ hj)) (h.allActions hs hst) hrest)

end Persistent

namespace Conserved

variable (h : Conserved env ok R)

include h

theorem runRule {rule : Rule} (hrule : ∀ i ∈ rule.actions, ok i.action)
    (hs : AllActions s.world.scores.table ok) {m m' : Metrics}
    (hrun : runRule env rule s m = some (s', m')) : R s s' := by
  obtain ⟨⟨t, _⟩, hactions, heq⟩ := Option.map_eq_some_iff.1 hrun
  obtain ⟨rfl, -⟩ := Prod.mk.inj heq
  have hentered := h.enters s (some rule.matcher.pattern) (s.context.matchedLines ++ [rule.line])
    s.context.notes
  have hrest := h.runActions hrule (h.allActions hs hentered) hactions
  exact h.trans hentered (h.trans hrest (h.enters t none _ _))

theorem runRules {rules : List Rule} (hrules : ∀ r ∈ rules, ∀ i ∈ r.actions, ok i.action)
    (hs : AllActions s.world.scores.table ok) {m m' : Metrics}
    (hrun : runRules env rules s m = some (s', m')) : R s s' := by
  induction rules generalizing s m with
  | nil =>
    obtain ⟨rfl, -⟩ := Prod.mk.inj (Option.some.inj hrun)
    exact h.refl s
  | cons rule rest ih =>
    have hrest := fun {s : Stage} => @ih s fun r hr => hrules r (List.mem_cons_of_mem _ hr)
    simp only [Moderation.runRules] at hrun
    split at hrun
    · obtain ⟨rfl, -⟩ := Prod.mk.inj (Option.some.inj hrun)
      exact h.refl s
    · split at hrun
      · exact hrest hs hrun
      · split at hrun
        · obtain ⟨⟨t, _⟩, hfirst, hmore⟩ := Option.bind_eq_some_iff.1 hrun
          have hst := h.runRule (hrules rule List.mem_cons_self) hs hfirst
          exact h.trans hst (hrest (h.allActions hs hst) hmore)
        · exact hrest hs hrun

end Conserved

section Steps

variable {fire : Firing} {a : Action} {r : Except ActionError Stage}

theorem scores_punish {d : Deed} {note : String} (s : Stage) :
    (contained s (s.punish d note)).2.world.scores = s.world.scores := by
  unfold Stage.punish
  split
  · rename_i w hattempt
    exact (attempt_same hattempt).1
  · rfl

theorem scores_step (ha : a.addsPoints = false) (h : step env fire a s = some r) :
    (contained s r).2.world.scores = s.world.scores := by
  cases a with
  | points amount => cases ha
  | penalize penalty text =>
    obtain rfl := Option.some.inj h
    exact scores_punish s
  | command text =>
    obtain rfl := Option.some.inj h
    exact scores_punish s
  | host run =>
    simp only [step] at h
    split at h <;>
      · obtain rfl := Option.some.inj h
        rfl
  | _ =>
    obtain rfl := Option.some.inj h
    rfl

end Steps

section Fields

variable {β : Type} {f : Context → β} {fire : Firing} {a : Action} {r : Except ActionError Stage}

/-- What actions write on a message does not matter to the function. -/
def Context.Unwritten (f : Context → β) : Prop :=
  ∀ c modified cancelled logging halted notes,
    f { c with
      modified := modified
      cancelled := cancelled
      logging := logging
      halted := halted
      notes := notes } = f c

/-- The message, the flags and the entries of an evaluation do not matter to the function. -/
def Context.Unaffected (f : Context → β) : Prop :=
  ∀ c modified cancelled logging halted pattern matchedLines notes,
    f { c with
      modified := modified
      cancelled := cancelled
      logging := logging
      halted := halted
      pattern := pattern
      matchedLines := matchedLines
      notes := notes } = f c

theorem Context.Unaffected.unwritten (hf : Context.Unaffected f) : Context.Unwritten f :=
  fun c modified cancelled logging halted notes =>
    hf c modified cancelled logging halted c.pattern c.matchedLines notes

/-- The host may do anything to a message, but none of its actions changes what the function gives. -/
def Action.Keeps (f : Context → β) : Action → Prop
  | .host run => ∀ c c', run c = .ok c' → f c' = f c
  | _ => True

theorem unwritten_replaceMatches (hf : Context.Unwritten f) (c : Context)
    (g : List Char → List Char) : f (c.replaceMatches g) = f c := by
  unfold Context.replaceMatches
  split
  · rfl
  · exact hf c _ _ _ _ _

theorem unwritten_punish (hf : Context.Unwritten f) (s : Stage) (d : Deed) (note : String) :
    f (contained s (s.punish d note)).2.context = f s.context := by
  unfold Stage.punish
  split
  · exact hf s.context _ _ _ _ _
  · rfl

theorem unwritten_step (hf : Context.Unwritten f) (ha : a.Keeps f) (hpoints : a.addsPoints = false)
    (h : step env fire a s = some r) : f (contained s r).2.context = f s.context := by
  cases a with
  | points amount => cases hpoints
  | replace text =>
    obtain rfl := Option.some.inj h
    exact unwritten_replaceMatches hf s.context _
  | changeCase upper =>
    obtain rfl := Option.some.inj h
    exact unwritten_replaceMatches hf s.context _
  | penalize penalty text =>
    obtain rfl := Option.some.inj h
    exact unwritten_punish hf s _ _
  | command text =>
    obtain rfl := Option.some.inj h
    exact unwritten_punish hf s _ _
  | host run =>
    simp only [step] at h
    split at h
    · rename_i c hrun
      obtain rfl := Option.some.inj h
      exact ha s.context c hrun
    · obtain rfl := Option.some.inj h
      rfl
  | _ =>
    obtain rfl := Option.some.inj h
    exact hf s.context _ _ _ _ _

structure Stage.Keeps (f : Context → β) (s t : Stage) : Prop where
  table : t.world.scores.table = s.world.scores.table
  field : f t.context = f s.context

theorem persistent_keeps (env : Environment) (hf : Context.Unwritten f) :
    Persistent env (Action.Keeps f) (Stage.Keeps f) where
  refl _ := ⟨rfl, rfl⟩
  trans h h' := ⟨h'.table.trans h.table, h'.field.trans h.field⟩
  table h := h.table
  acts ha hpoints h :=
    ⟨congrArg (·.table) (scores_step hpoints h), unwritten_step hf ha hpoints h⟩
  notes s _ := ⟨rfl, hf s.context _ _ _ _ _⟩
  logs _ _ := ⟨rfl, rfl⟩
  scores _ _ _ := ⟨rfl, rfl⟩
  blank h := ⟨h.table, rfl⟩

theorem conserved_keeps (env : Environment) (hf : Context.Unaffected f) :
    Conserved env (Action.Keeps f) (Stage.Keeps f) where
  toPersistent := persistent_keeps env hf.unwritten
  enters s _ _ _ := ⟨rfl, hf s.context _ _ _ _ _ _ _⟩

end Fields

end Moderation
