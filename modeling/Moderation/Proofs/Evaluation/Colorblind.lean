import Moderation.Evaluation.Chain
import Moderation.Proofs.Action.Vocabulary
import Moderation.Proofs.Colored.Glyphs
import Moderation.Proofs.Evaluation.Parallel
import Moderation.Proofs.Tag.Placeholder

namespace Moderation

open Points

def Context.plain (c : Context) : Context :=
  { c with received := c.received.decolor, modified := c.modified.decolor }

structure Action.Colorblind (a : Action) : Prop where
  notHost : a.isHost = false
  texts : ∀ t ∈ a.texts, ¬Tags.Mentions "rawstring" t

structure Environment.Colorblind (env : Environment) : Prop where
  tags : env.tags = .standard
  templates : ∀ key, ¬Tags.Mentions "rawstring" (env.templates.message key)

structure Stage.Alike (s s' : Stage) : Prop where
  context : s.context.plain = s'.context.plain
  world : s.world = s'.world
  table : AllActions s.world.scores.table Action.Colorblind

namespace Context

variable {c c' : Context}

theorem glyphs_modified (h : c.plain = c'.plain) : c.modified.glyphs = c'.modified.glyphs := by
  have := congrArg (·.modified.glyphs) h
  simpa only [plain, ColoredText.glyphs_decolor] using this

theorem glyphs_received (h : c.plain = c'.plain) : c.received.glyphs = c'.received.glyphs := by
  have := congrArg (·.received.glyphs) h
  simpa only [plain, ColoredText.glyphs_decolor] using this

theorem author_eq (h : c.plain = c'.plain) : c.author = c'.author := congrArg (·.author) h

theorem plain_replaceMatches (c : Context) (f : List Char → List Char) :
    (c.replaceMatches f).plain = (c.plain.replaceMatches f).plain := by
  have hplain : c.plain.plain = c.plain := by
    simp only [plain, ColoredText.decolor, ColoredText.glyphs_uncolored]
  have hpattern : c.plain.pattern = c.pattern := rfl
  unfold replaceMatches
  rw [hpattern]
  split
  · exact hplain.symm
  · rename_i p _
    have hglyphs := ColoredText.glyphs_replaceMatches_congr (ColoredText.glyphs_decolor c.modified) p f
    have hmodified : (c.plain.modified.replaceMatches p f).decolor =
        (c.modified.replaceMatches p f).decolor := congrArg ColoredText.uncolored hglyphs
    calc _ = { c.plain with modified := (c.modified.replaceMatches p f).decolor } := rfl
      _ = { c.plain.plain with modified := (c.plain.modified.replaceMatches p f).decolor } := by
        rw [hplain, hmodified]

theorem replaceMatches_alike (h : c.plain = c'.plain) (f : List Char → List Char) :
    (c.replaceMatches f).plain = (c'.replaceMatches f).plain := by
  rw [plain_replaceMatches, h, ← plain_replaceMatches]

theorem plain_restate (h : c.plain = c'.plain) (t : ColoredText) :
    ({ c with modified := t } : Context).plain = ({ c' with modified := t } : Context).plain :=
  congrArg (fun c => { c with modified := t.decolor }) h

end Context

theorem standard_entries : Tags.standard.entries =
    [ ("chain", fun c : Context => c.chain.getD ""),
      ("original", fun c => c.received.plainString),
      ("rawstring", fun c => c.modified.rawString),
      ("string", fun c => c.modified.plainString),
      ("player", fun c => c.author.name) ] := rfl

theorem fill_alike {env : Environment} (henv : env.Colorblind) {s s' : Stage}
    (h : s.context.plain = s'.context.plain) {text : String} (htext : ¬Tags.Mentions "rawstring" text) :
    env.fill s text = env.fill s' text := by
  rw [Environment.fill, Environment.fill, henv.tags]
  refine Tags.fill_congr fun key value hvalue hmentions => ?_
  have hmem : (key, value) ∈ Tags.standard.entries := by
    obtain ⟨before, behind, heq, -⟩ := List.lookup_eq_some_iff.1 hvalue
    rw [heq]
    exact List.mem_append_right _ List.mem_cons_self
  simp only [standard_entries, List.mem_cons, Prod.mk.injEq, List.not_mem_nil, or_false] at hmem
  rcases hmem with ⟨-, rfl⟩ | ⟨-, rfl⟩ | ⟨rfl, -⟩ | ⟨-, rfl⟩ | ⟨-, rfl⟩
  · have hchain : s.context.chain = s'.context.chain := congrArg (·.chain) h
    simp only [hchain]
  · simp only [ColoredText.plainString, Context.glyphs_received h]
  · exact absurd hmentions htext
  · simp only [ColoredText.plainString, Context.glyphs_modified h]
  · simp only [Context.author_eq h]

def EndsAlike (s s' : Stage) (r r' : Except ActionError Stage) : Prop :=
  (contained s r).1 = (contained s' r').1 ∧ (contained s r).2.Alike (contained s' r').2

section Steps

theorem Stage.Alike.emit {s s' : Stage} (h : s.Alike s') (e : Effect) : (s.emit e).Alike (s'.emit e) :=
  ⟨h.context, congrArg (·.emit e) h.world, h.table⟩

theorem punish_alike {s s' : Stage} (h : s.Alike s') (d : Deed) (note : String) :
    EndsAlike s s' (s.punish d note) (s'.punish d note) := by
  unfold Stage.punish
  rw [← h.world, ← Context.author_eq h.context]
  cases hattempt : s.world.attempt s.context.author d with
  | error e => exact ⟨rfl, h⟩
  | ok w =>
    have hscores := (attempt_same hattempt).1
    refine ⟨rfl, congrArg (·.note note) h.context, rfl, ?_⟩
    have : w.scores.table = s.world.scores.table := by rw [hscores]
    exact this ▸ h.table

theorem acts_alike {env : Environment} (henv : env.Colorblind) {fire : Firing} {a : Action}
    (ha : a.Colorblind) (hpoints : a.addsPoints = false) {s s' : Stage} (h : s.Alike s') :
    Option.Rel (EndsAlike s s') (step env fire a s) (step env fire a s') := by
  have hfill : ∀ t ∈ a.texts, env.fill s t = env.fill s' t := fun t ht =>
    fill_alike henv h.context (ha.texts t ht)
  have hemit : ∀ announcement announcement', announcement = announcement' →
      EndsAlike s s' (.ok (s.emit (env.sink.deliver announcement)))
        (.ok (s'.emit (env.sink.deliver announcement'))) := by
    rintro announcement _ rfl
    exact ⟨rfl, h.emit _⟩
  have hcontext : ∀ c c' : Context, c.plain = c'.plain →
      EndsAlike s s' (.ok (s.withContext c)) (.ok (s'.withContext c')) := fun c c' hc =>
    ⟨rfl, hc, h.world, h.table⟩
  cases a with
  | replace text =>
    rw [step, step, hfill text List.mem_cons_self]
    exact .some (hcontext _ _ (Context.replaceMatches_alike h.context _))
  | restate text =>
    rw [step, step, hfill text List.mem_cons_self]
    exact .some (hcontext _ _ (Context.plain_restate h.context _))
  | changeCase upper => exact .some (hcontext _ _ (Context.replaceMatches_alike h.context _))
  | deny => exact .some (hcontext _ _ (congrArg (fun c => { c with cancelled := true }) h.context))
  | abort => exact .some (hcontext _ _ (congrArg (fun c => { c with halted := true }) h.context))
  | log => exact .some (hcontext _ _ (congrArg (fun c => { c with logging := true }) h.context))
  | console text => exact .some (hemit _ _ (congrArg _ (hfill text List.mem_cons_self)))
  | broadcast text => exact .some (hemit _ _ (congrArg _ (hfill text List.mem_cons_self)))
  | notify permission text => exact .some (hemit _ _ (congrArg _ (hfill text List.mem_cons_self)))
  | points amount => cases hpoints
  | penalize penalty text =>
    have htext : env.fill s (text.getD (env.templates.message penalty.name)) =
        env.fill s' (text.getD (env.templates.message penalty.name)) := by
      cases text with
      | none => exact fill_alike henv h.context (henv.templates _)
      | some text => exact hfill text List.mem_cons_self
    simp only [step, htext, Context.author_eq h.context]
    exact .some (punish_alike h _ _)
  | command text =>
    simp only [step, hfill text List.mem_cons_self, Context.author_eq h.context]
    exact .some (punish_alike h _ _)
  | host run => exact absurd ha.notHost (by simp [Action.isHost])

theorem parallel_alike {env : Environment} (henv : env.Colorblind) :
    Parallel env Action.Colorblind Stage.Alike where
  author h := Context.author_eq h.context
  enabled h := by rw [h.world]
  table h := by rw [h.world]
  allowed h := h.table
  acts ha hpoints h := acts_alike henv ha hpoints h
  notes text h := ⟨congrArg (·.note text) h.context, h.world, h.table⟩
  logs _ _ h := h.emit _
  crossed delta h := by rw [h.world, Context.author_eq h.context]
  scores delta h := ⟨h.context, by rw [Stage.add, Stage.add, h.world, Context.author_eq h.context], h.table⟩
  blank h := ⟨by rw [Context.author_eq h.context]; rfl, h.world, h.table⟩
  unblank h hu := ⟨h.context, hu.world, hu.table⟩

theorem perform_alike {env : Environment} (henv : env.Colorblind) {a : Action} (ha : a.Colorblind)
    {s s' : Stage} (h : s.Alike s') :
    Option.Rel (EndsAlike s s') (perform env a s) (perform env a s') :=
  (parallel_alike henv).perform ha h

end Steps

section Runs

def RunAlike (r r' : Stage × Metrics) : Prop := r.1.Alike r'.1 ∧ r.2 = r'.2

variable {env : Environment} (henv : env.Colorblind)

include henv in
theorem runActions_alike {actions : List Invocation} (hactions : ∀ i ∈ actions, i.action.Colorblind)
    {s s' : Stage} (h : s.Alike s') (m : Metrics) :
    Option.Rel RunAlike (runActions env actions s m) (runActions env actions s' m) := by
  induction actions generalizing s s' m with
  | nil => exact .some ⟨h, rfl⟩
  | cons i rest ih =>
    refine rel_bind (perform_alike henv (hactions i List.mem_cons_self) h) fun r r' hr => ?_
    dsimp only
    rw [hr.1]
    exact ih (fun j hj => hactions j (List.mem_cons_of_mem _ hj)) hr.2 _

include henv in
theorem runRule_alike {r : Rule} (hr : ∀ i ∈ r.actions, i.action.Colorblind) {s s' : Stage}
    (h : s.Alike s') (m : Metrics) :
    Option.Rel RunAlike (runRule env r s m) (runRule env r s' m) := by
  have hentered : (s.withContext (s.context.enterRule r.line r.matcher.pattern)).Alike
      (s'.withContext (s'.context.enterRule r.line r.matcher.pattern)) :=
    ⟨congrArg (·.enterRule r.line r.matcher.pattern) h.context, h.world, h.table⟩
  refine rel_map (runActions_alike henv hr hentered m) fun u u' hu => ⟨?_, hu.2⟩
  exact ⟨congrArg (·.leaveRule) hu.1.context, hu.1.world, hu.1.table⟩

include henv in
theorem runRules_alike {rules : List Rule}
    (hrules : ∀ r ∈ rules, ∀ i ∈ r.actions, i.action.Colorblind) {s s' : Stage} (h : s.Alike s')
    (m : Metrics) : Option.Rel RunAlike (runRules env rules s m) (runRules env rules s' m) := by
  induction rules generalizing s s' m with
  | nil => exact .some ⟨h, rfl⟩
  | cons r rest ih =>
    have hrest := fun {s s' : Stage} => @ih (fun q hq => hrules q (List.mem_cons_of_mem _ hq)) s s'
    have hhalted : s.context.halted = s'.context.halted := congrArg (·.halted) h.context
    simp only [runRules, hhalted, Context.author_eq h.context, Context.glyphs_modified h.context]
    split
    · exact .some ⟨h, rfl⟩
    · split
      · exact hrest h _
      · split
        · refine rel_bind (runRule_alike henv (hrules r List.mem_cons_self) h _) fun u u' hu => ?_
          rw [hu.2]
          exact hrest hu.1 _
        · exact hrest h _

include henv in
theorem execute_alike {chain : Chain}
    (hrules : ∀ r ∈ chain.rules, ∀ i ∈ r.actions, i.action.Colorblind) {s s' : Stage}
    (h : s.Alike s') : Option.Rel RunAlike (execute env chain s) (execute env chain s') := by
  have hnamed : (s.withContext { s.context with chain := some chain.name }).Alike
      (s'.withContext { s'.context with chain := some chain.name }) :=
    ⟨congrArg (fun c => { c with chain := some chain.name }) h.context, h.world, h.table⟩
  exact runRules_alike henv hrules hnamed {}

end Runs

end Moderation
