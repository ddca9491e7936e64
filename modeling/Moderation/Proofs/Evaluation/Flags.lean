import Moderation.Proofs.Evaluation.Counters
import Moderation.Proofs.Evaluation.Switch
import Moderation.Service.Basic

namespace Moderation

variable {env : Environment} {rules : List Rule} {s t u : Stage} {vs : List Visit}

structure Stage.Marked (s : Stage) (actions : List Action) (lines : List Nat) (t : Stage) : Prop where
  scores : t.world.scores = s.world.scores
  author : t.context.author = s.context.author
  lines : t.context.matchedLines = s.context.matchedLines ++ lines
  cancelled : t.context.cancelled = true ↔ s.context.cancelled = true ∨ .deny ∈ actions
  logging : t.context.logging = true ↔ s.context.logging = true ∨ .log ∈ actions
  halted : t.context.halted = true ↔ s.context.halted = true ∨ .abort ∈ actions

namespace Stage.Marked

theorem refl (s : Stage) : s.Marked [] [] s where
  scores := rfl
  author := rfl
  lines := (List.append_nil _).symm
  cancelled := by simp
  logging := by simp
  halted := by simp

theorem trans {as bs : List Action} {ls ks : List Nat} (h : s.Marked as ls t) (h' : t.Marked bs ks u) :
    s.Marked (as ++ bs) (ls ++ ks) u where
  scores := h'.scores.trans h.scores
  author := h'.author.trans h.author
  lines := by rw [h'.lines, h.lines, List.append_assoc]
  cancelled := by rw [h'.cancelled, h.cancelled, or_assoc, List.mem_append]
  logging := by rw [h'.logging, h.logging, or_assoc, List.mem_append]
  halted := by rw [h'.halted, h.halted, or_assoc, List.mem_append]

end Stage.Marked

section Actions

variable {fire : Firing} {a : Action} {r : Except ActionError Stage}

theorem marked_edit {c : Context} {w : World} (hraises : a ≠ .deny ∧ a ≠ .log ∧ a ≠ .abort)
    (hscores : w.scores = s.world.scores)
    (hedit : ∃ modified notes, c = { s.context with modified := modified, notes := notes }) :
    s.Marked [a] [] ⟨c, w⟩ := by
  obtain ⟨hdeny, hlog, habort⟩ := hraises
  obtain ⟨modified, notes, rfl⟩ := hedit
  exact ⟨hscores, rfl, (List.append_nil _).symm, by simp [hdeny.symm], by simp [hlog.symm], by simp [habort.symm]⟩

theorem edit_replaceMatches (c : Context) (f : List Char → List Char) :
    ∃ modified notes, c.replaceMatches f = { c with modified := modified, notes := notes } := by
  unfold Context.replaceMatches
  split
  · exact ⟨c.modified, c.notes, rfl⟩
  · exact ⟨_, c.notes, rfl⟩

theorem marked_punish {d : Deed} {note : String} (hraises : a ≠ .deny ∧ a ≠ .log ∧ a ≠ .abort) :
    s.Marked [a] [] (contained s (s.punish d note)).2 := by
  refine marked_edit hraises (scores_punish s) ?_
  unfold Stage.punish
  split
  · exact ⟨s.context.modified, _, rfl⟩
  · exact ⟨s.context.modified, s.context.notes, rfl⟩

theorem marked_step (ha : a.isHost = false) (hoff : s.world.scores.enabled = false)
    (h : step env fire a s = some r) : s.Marked [a] [] (contained s r).2 := by
  cases a with
  | host run => cases ha
  | deny =>
    obtain rfl := Option.some.inj h
    exact ⟨rfl, rfl, (List.append_nil _).symm, by simp [contained], by simp [contained], by simp [contained]⟩
  | log =>
    obtain rfl := Option.some.inj h
    exact ⟨rfl, rfl, (List.append_nil _).symm, by simp [contained], by simp [contained], by simp [contained]⟩
  | abort =>
    obtain rfl := Option.some.inj h
    exact ⟨rfl, rfl, (List.append_nil _).symm, by simp [contained], by simp [contained], by simp [contained]⟩
  | replace text =>
    obtain rfl := Option.some.inj h
    exact marked_edit (by simp) rfl (edit_replaceMatches s.context _)
  | changeCase upper =>
    obtain rfl := Option.some.inj h
    exact marked_edit (by simp) rfl (edit_replaceMatches s.context _)
  | points amount =>
    simp only [step, hoff, Bool.false_eq_true, if_false] at h
    obtain rfl := Option.some.inj h
    exact marked_edit (by simp) rfl ⟨_, _, rfl⟩
  | penalize penalty text =>
    obtain rfl := Option.some.inj h
    exact marked_punish (by simp)
  | command text =>
    obtain rfl := Option.some.inj h
    exact marked_punish (by simp)
  | _ =>
    obtain rfl := Option.some.inj h
    exact marked_edit (by simp) rfl ⟨_, _, rfl⟩

theorem marked_perform (ha : a.isHost = false) (hoff : s.world.scores.enabled = false)
    (h : perform env a s = some r) : s.Marked [a] [] (contained s r).2 := by
  obtain ⟨fire, hfire⟩ := performWithin_eq_step env env.nesting
  rw [perform, hfire] at h
  exact marked_step ha hoff h

end Actions

section Rules

def actionsOf (rules : List Rule) : List Action := rules.flatMap fun r => r.actions.map (·.action)

theorem mem_actionsOf {a : Action} : a ∈ actionsOf rules ↔ ∃ r ∈ rules, a ∈ r.actions.map (·.action) :=
  List.mem_flatMap

theorem marked_carryOutActions {actions : List Invocation} {endings : List Status}
    (hactions : ∀ i ∈ actions, i.action.isHost = false) (hoff : s.world.scores.enabled = false)
    (h : carryOutActions env actions s = some (endings, t)) : s.Marked (actions.map (·.action)) [] t := by
  induction actions generalizing s endings with
  | nil =>
    obtain ⟨-, rfl⟩ := Prod.mk.inj (Option.some.inj h)
    exact .refl s
  | cons i rest ih =>
    obtain ⟨r, more, hperform, hrest, -⟩ := carryOutActions_cons h
    have hfirst := marked_perform (hactions i List.mem_cons_self) hoff hperform
    exact hfirst.trans (ih (fun j hj => hactions j (List.mem_cons_of_mem _ hj)) (hfirst.scores ▸ hoff) hrest)

theorem marked_carryOutRule {r : Rule} {endings : List Status} (hrule : ∀ i ∈ r.actions, i.action.isHost = false)
    (hoff : s.world.scores.enabled = false) (h : carryOutRule env r s = some (endings, t)) :
    s.Marked (actionsOf [r]) [r.line] t := by
  obtain ⟨u, hactions, rfl⟩ := carryOutRule_of_some h
  have hmarked := marked_carryOutActions (s := s.enterRule r) hrule hoff hactions
  have hlines : u.context.matchedLines = s.context.matchedLines ++ [r.line] :=
    hmarked.lines.trans (List.append_nil _)
  rw [actionsOf, List.flatMap_cons, List.flatMap_nil, List.append_nil]
  exact ⟨hmarked.scores, hmarked.author, hlines, hmarked.cancelled, hmarked.logging, hmarked.halted⟩

theorem Visit.Goes.marked {v : Visit} (h : v.Goes env s t) (hrule : ∀ i ∈ v.rule.actions, i.action.isHost = false)
    (hoff : s.world.scores.enabled = false) :
    s.Marked (actionsOf (matchedRules [v])) ((matchedRules [v]).map (·.line)) t := by
  cases h with
  | matched _ _ hcarry => exact marked_carryOutRule hrule hoff hcarry
  | _ => exact .refl s

theorem matchedRules_cons (v : Visit) (vs : List Visit) :
    matchedRules (v :: vs) = matchedRules [v] ++ matchedRules vs :=
  List.filterMap_append (l := [v])

namespace Visits

theorem eq_nil_of_halted (h : Visits env rules s vs t) (hhalted : s.context.halted = true) : vs = [] := by
  cases h with
  | visit hgoes _ _ => rw [hhalted] at hgoes; cases hgoes
  | _ => rfl

theorem marked (h : Visits env rules s vs t) (hrules : ∀ r ∈ rules, ∀ i ∈ r.actions, i.action.isHost = false)
    (hoff : s.world.scores.enabled = false) :
    s.Marked (actionsOf (matchedRules vs)) ((matchedRules vs).map (·.line)) t := by
  induction h with
  | done s => exact .refl s
  | halted rules _ => exact .refl _
  | visit _ hvisit _ ih =>
    have hfirst := hvisit.marked (hrules _ List.mem_cons_self) hoff
    have hrest := ih (fun r hr => hrules r (List.mem_cons_of_mem _ hr)) (hfirst.scores ▸ hoff)
    rw [matchedRules_cons, actionsOf, List.flatMap_append, List.map_append]
    exact hfirst.trans hrest

theorem not_exempts (h : Visits env rules s vs t)
    (hrules : ∀ r ∈ rules, ∀ i ∈ r.actions, i.action.isHost = false) (hoff : s.world.scores.enabled = false) :
    ∀ r ∈ matchedRules vs, r.exempts s.context.author = false := by
  induction h with
  | done s => exact fun r hr => absurd hr List.not_mem_nil
  | halted rules _ => exact fun r hr => absurd hr List.not_mem_nil
  | visit _ hvisit _ ih =>
    have hfirst := hvisit.marked (hrules _ List.mem_cons_self) hoff
    have hrest := ih (fun r hr => hrules r (List.mem_cons_of_mem _ hr)) (hfirst.scores ▸ hoff)
    rw [hfirst.author] at hrest
    cases hvisit with
    | matched hexempt _ _ => exact List.forall_mem_cons.2 ⟨hexempt, hrest⟩
    | _ => exact hrest

theorem abort_is_last (h : Visits env rules s vs t)
    (hrules : ∀ r ∈ rules, ∀ i ∈ r.actions, i.action.isHost = false) (hoff : s.world.scores.enabled = false) :
    (matchedRules vs).Pairwise fun r _ => .abort ∉ r.actions.map (·.action) := by
  induction h with
  | done s => exact .nil
  | halted rules _ => exact .nil
  | visit _ hvisit hrest ih =>
    have hfirst := hvisit.marked (hrules _ List.mem_cons_self) hoff
    have hlast := ih (fun r hr => hrules r (List.mem_cons_of_mem _ hr)) (hfirst.scores ▸ hoff)
    cases hvisit with
    | matched _ _ _ =>
      refine List.pairwise_cons.2 ⟨fun r' hr' habort => ?_, hlast⟩
      have hhalted := hfirst.halted.2 (.inr (mem_actionsOf.2 ⟨_, List.mem_cons_self, habort⟩))
      rw [hrest.eq_nil_of_halted hhalted] at hr'
      cases hr'
    | _ => exact hlast

end Visits

end Rules

variable (env) in
/-- The lines of an outcome rise, each being that of a rule which does not exempt the author. The outcome is cancelled
or logged exactly if a rule that matched says so, and behind a rule that aborts no rule matches; but all actions of
the rules that matched are performed. -/
theorem flags_of_matched_rules {registry : Registry} {name source : String} {c : Chain} {w : World}
    (hread : Chain.ofSource registry name source = .ok c)
    (hbuiltIn : ∀ r ∈ c.rules, ∀ i ∈ r.actions, i.action.isHost = false) (hoff : w.scores.enabled = false)
    (author : Author) (text : String) :
    ∃ s m, execute env c ⟨.ofString author text, w⟩ = some (s, m) ∧
      let o := Outcome.ofContext s.context m
      let matched := c.rulesOn o.matchedLines
      o.matchedLines = matched.map (·.line) ∧ o.matchedLines.Pairwise (· < ·) ∧
      (∀ r ∈ matched, ∀ p ∈ r.exemptions, author.may p = false) ∧
      (o.cancelled = true ↔ ∃ r ∈ matched, .deny ∈ r.actions.map (·.action)) ∧
      (o.logged = true ↔ ∃ r ∈ matched, .log ∈ r.actions.map (·.action)) ∧
      (∀ r ∈ matched, .abort ∈ r.actions.map (·.action) → ∀ r' ∈ matched, r'.line ≤ r.line) ∧
      o.metrics.executed = (matched.map (·.actions.length)).sum ∧
      ∃ vs, Visits env c.rules (Stage.enterChain ⟨.ofString author text, w⟩ c.name) vs s ∧ matchedRules vs = matched ∧
        carryOutRules env matched (Stage.enterChain ⟨.ofString author text, w⟩ c.name) = some (endingsOf vs, s) := by
  obtain ⟨s, m, hrun, -⟩ := execute_of_off env (s := ⟨.ofString author text, w⟩) hoff c
  obtain ⟨vs, hvisits, rfl⟩ := execute_iff.1 hrun
  have hmarked := hvisits.marked hbuiltIn hoff
  have hrise := (Chain.pairwise_line hread).sublist hvisits.sublist
  have hlines : s.context.matchedLines = (matchedRules vs).map (·.line) := hmarked.lines
  refine ⟨s, _, hrun, ?_⟩
  intro o matched
  have hmatched : matched = matchedRules vs := by
    rw [← Chain.rulesOn_map_line hread hvisits.sublist, ← hlines]
    rfl
  rw [hmatched]
  refine ⟨hlines, ?_, ?_, ?_, ?_, ?_, hvisits.length_endings, vs, hvisits, rfl, hvisits.carryOut⟩
  · change s.context.matchedLines.Pairwise _
    exact hlines ▸ List.pairwise_map.2 hrise
  · intro r hr p hp
    have hexempt := hvisits.not_exempts hbuiltIn hoff r hr
    rw [Rule.exempts, List.any_eq_false] at hexempt
    exact Bool.eq_false_of_not_eq_true (hexempt p hp)
  · rw [← mem_actionsOf]
    exact hmarked.cancelled.trans (or_iff_right Bool.false_ne_true)
  · rw [← mem_actionsOf]
    exact hmarked.logging.trans (or_iff_right Bool.false_ne_true)
  · intro r hr habort r' hr'
    have hlast := hvisits.abort_is_last hbuiltIn hoff
    obtain ⟨before, after, hsplit⟩ := List.append_of_mem hr
    rw [hsplit] at hlast hrise hr'
    have hnone : after = [] := List.eq_nil_iff_forall_not_mem.2 fun q hq =>
      (List.pairwise_cons.1 (List.pairwise_append.1 hlast).2.1).1 q hq habort
    rw [hnone] at hr'
    rcases List.mem_append.1 hr' with hbefore | hself
    · exact ((List.pairwise_append.1 hrise).2.2 r' hbefore r List.mem_cons_self).le
    · exact (List.mem_singleton.1 hself) ▸ le_rfl

def banter : String := "/h/ unless vip then deny\n/h/ then kick then log\n/h/ then abort then deny\n/h/ then log"

theorem flags_of_matched_rules_banter :
    let env : Environment := ⟨.standard, .standard, .log, 0, 0⟩
    let steve : Author := { id := "steve", name := "steve", may := (· == "vip") }
    ∃ c s m, Chain.ofSource .standard "chat" banter = .ok c ∧
      (∀ r ∈ c.rules, ∀ i ∈ r.actions, i.action.isHost = false) ∧
      execute env c ⟨.ofString steve "oh", ⟨.initial, []⟩⟩ = some (s, m) ∧
      (Outcome.ofContext s.context m).matchedLines = [2, 3] ∧ m = ⟨3, 1, 2, 4, 0, 1⟩ ∧
      ∃ r ∈ c.rulesOn [2, 3], .deny ∈ r.actions.map (·.action) := by
  intro env steve
  have htells : (Chain.ofSource .standard "chat" banter).toOption.any (fun c =>
      (execute env c ⟨.ofString steve "oh", ⟨.initial, []⟩⟩).any fun x =>
        decide (x.1.context.matchedLines = [2, 3] ∧ x.1.context.cancelled = true ∧
          x.2 = ⟨3, 1, 2, 4, 0, 1⟩)) = true := by
    decide +kernel
  obtain ⟨c, hc, hany⟩ := (Option.any_eq_true _ _).1 htells
  obtain ⟨⟨s, m⟩, hrun, htold⟩ := (Option.any_eq_true _ _).1 hany
  obtain ⟨hlines, hcancelled, rfl⟩ := of_decide_eq_true htold
  have hread := ok_of_toOption hc
  have hbuiltIn := Chain.isHost_of_standard hread
  obtain ⟨s', m', hrun', -, -, -, hdenied, -⟩ := flags_of_matched_rules env (w := ⟨.initial, []⟩) hread hbuiltIn rfl
    steve "oh"
  obtain ⟨rfl, rfl⟩ := Prod.mk.inj (Option.some.inj (hrun.symm.trans hrun'))
  refine ⟨c, s, _, hread, hbuiltIn, hrun, hlines, rfl, ?_⟩
  have hrule := hdenied.1 hcancelled
  rwa [Outcome.ofContext, hlines] at hrule

end Moderation
