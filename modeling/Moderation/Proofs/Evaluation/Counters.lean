import Moderation.Proofs.Evaluation.Order
import Moderation.Proofs.Evaluation.Visits
import Moderation.Proofs.Rule.Provenance

namespace Moderation

variable {env : Environment} {rules : List Rule} {s t : Stage} {vs : List Visit} {endings : List Status}

section Lines

/-- Actions of the host that run no chain enter no lines. -/
def Action.KeepsLines (a : Action) : Prop := a.Keeps Context.matchedLines

theorem lines_carryOutRule {r : Rule} (hrule : ∀ i ∈ r.actions, i.action.KeepsLines)
    (hs : AllActions s.world.scores.table Action.KeepsLines) (h : carryOutRule env r s = some (endings, t)) :
    t.world.scores.table = s.world.scores.table ∧ t.context.matchedLines = s.context.matchedLines ++ [r.line] := by
  obtain ⟨u, hactions, rfl⟩ := carryOutRule_of_some h
  have hkept := (persistent_keeps env fun _ _ _ _ _ _ => rfl).runActions (s := s.enterRule r) hrule hs
    (runActions_of_carryOut hactions {})
  exact ⟨hkept.table, hkept.field⟩

theorem Action.keepsLines_of_isHost {a : Action} (h : a.isHost = false) : a.KeepsLines := by
  cases a with
  | host run => cases h
  | _ => trivial

theorem Visits.lines (h : Visits env rules s vs t) (hrules : ∀ r ∈ rules, ∀ i ∈ r.actions, i.action.KeepsLines)
    (hs : AllActions s.world.scores.table Action.KeepsLines) :
    t.context.matchedLines = s.context.matchedLines ++ (matchedRules vs).map (·.line) := by
  induction h with
  | done s => exact (List.append_nil _).symm
  | halted rules _ => exact (List.append_nil _).symm
  | visit _ hvisit _ ih =>
    have hrest := ih fun r hr => hrules r (List.mem_cons_of_mem _ hr)
    cases hvisit with
    | matched _ _ hcarry =>
      obtain ⟨htable, hlines⟩ := lines_carryOutRule (hrules _ List.mem_cons_self) hs hcarry
      rw [hrest (htable ▸ hs), hlines, List.append_assoc]
      rfl
    | _ => exact hrest hs

end Lines

section Endings

theorem length_eq_count (endings : List Status) :
    endings.length = endings.count .done + endings.count .failed + endings.count .unsupported := by
  induction endings with
  | nil => rfl
  | cons e rest ih =>
    cases e <;> simp [ih] <;> omega

theorem exempted_add_matched_le (vs : List Visit) : vs.countP (·.isExempt) + (matchedRules vs).length ≤ vs.length := by
  induction vs with
  | nil => exact le_rfl
  | cons v rest ih =>
    obtain ⟨r, fate⟩ := v
    cases fate <;> simp [matchedRules, Visit.isExempt, Visit.matched?] at ih ⊢ <;> omega

/-- Whatever the actions at thresholds come to, the action that set them off is done. -/
def Invocation.MayEnd (i : Invocation) (e : Status) : Prop := i.action.addsPoints = true → e = .done

theorem mayEnd_perform {i : Invocation} {r : Except ActionError Stage} (h : perform env i.action s = some r) :
    i.MayEnd (contained s r).1 := by
  intro hpoints
  obtain ⟨fire, hfire⟩ := performWithin_eq_step env env.nesting
  cases haction : i.action with
  | points amount =>
    rw [perform, hfire, haction] at h
    simp only [step] at h
    split at h
    · obtain ⟨x, -, rfl⟩ := Option.map_eq_some_iff.1 h
      rfl
    · obtain rfl := Option.some.inj h
      rfl
  | _ =>
    rw [haction] at hpoints
    cases hpoints

theorem mayEnd_carryOutActions {actions : List Invocation} (h : carryOutActions env actions s = some (endings, t)) :
    List.Forall₂ Invocation.MayEnd actions endings := by
  induction actions generalizing s endings with
  | nil =>
    obtain ⟨rfl, -⟩ := Prod.mk.inj (Option.some.inj h)
    exact .nil
  | cons i rest ih =>
    obtain ⟨r, more, hperform, hrest, rfl⟩ := carryOutActions_cons h
    exact .cons (mayEnd_perform hperform) (ih hrest)

theorem mayEnd_carryOutRules (h : carryOutRules env rules s = some (endings, t)) :
    List.Forall₂ Invocation.MayEnd (rules.flatMap (·.actions)) endings := by
  induction rules generalizing s endings with
  | nil =>
    obtain ⟨rfl, -⟩ := Prod.mk.inj (Option.some.inj h)
    exact .nil
  | cons r rest ih =>
    obtain ⟨first, u, more, hrule, hrest, rfl⟩ := carryOutRules_cons h
    obtain ⟨v, hactions, -⟩ := carryOutRule_of_some hrule
    rw [List.flatMap_cons]
    exact List.rel_append (mayEnd_carryOutActions hactions) (ih hrest)

theorem Visits.length_endings (h : Visits env rules s vs t) :
    (endingsOf vs).length = ((matchedRules vs).map (·.actions.length)).sum := by
  rw [← (mayEnd_carryOutRules h.carryOut).length_eq, List.length_flatMap]

end Endings

structure StopsAfter (env : Environment) (c : Chain) (s : Stage) (n : Nat) (r : Stage × Metrics) : Prop where
  within : n ≤ c.rules.length
  goes_on : ∀ k < n, ∃ t m, execute env ⟨c.name, c.rules.take k⟩ s = some (t, m) ∧ t.context.halted = false
  reaches : execute env ⟨c.name, c.rules.take n⟩ s = some r
  stops : n = c.rules.length ∨ r.1.context.halted = true

theorem stopsAfter_evaluated {c : Chain} {m : Metrics} (h : execute env c s = some (t, m)) :
    StopsAfter env c s m.evaluated (t, m) := by
  obtain ⟨vs, hvisits, rfl⟩ := execute_iff.1 h
  refine ⟨hvisits.length_le, fun k hk => ?_, execute_iff.2 ⟨vs, hvisits.take, rfl⟩, hvisits.length_eq_or_halted⟩
  obtain ⟨ws, u, hws, hu⟩ := hvisits.goes_on hk
  exact ⟨u, _, execute_iff.2 ⟨ws, hws, rfl⟩, hu⟩

/-- Each line that was entered is that of a rule that matched, and no rule matched that was passed by for the author's
sake. The rules that were looked at are those up to the one that halted the chain. Each action of a rule that matched
was performed, once and in order, and counted by how it ended; actions at thresholds are not counted. -/
theorem counters_add_up {registry : Registry} {name source : String} {c : Chain} {w : World} {author : Author}
    {text : String} {m : Metrics} (hread : Chain.ofSource registry name source = .ok c)
    (hrules : ∀ r ∈ c.rules, ∀ i ∈ r.actions, i.action.KeepsLines)
    (htable : AllActions w.scores.table Action.KeepsLines)
    (hrun : execute env c ⟨.ofString author text, w⟩ = some (s, m)) :
    let matched := c.rulesOn s.context.matchedLines
    s.context.matchedLines = matched.map (·.line) ∧ m.matched = s.context.matchedLines.length ∧
      m.exempted + m.matched ≤ m.evaluated ∧
      StopsAfter env c ⟨.ofString author text, w⟩ m.evaluated (s, m) ∧
      m.executed = (matched.map (·.actions.length)).sum ∧
      ∃ vs, Visits env c.rules (Stage.enterChain ⟨.ofString author text, w⟩ c.name) vs s ∧ matchedRules vs = matched ∧
        m.exempted = vs.countP (·.isExempt) ∧
        carryOutRules env matched (Stage.enterChain ⟨.ofString author text, w⟩ c.name) = some (endingsOf vs, s) ∧
        List.Forall₂ Invocation.MayEnd (matched.flatMap (·.actions)) (endingsOf vs) ∧
        m.failed = (endingsOf vs).count .failed ∧ m.unsupported = (endingsOf vs).count .unsupported ∧
        m.failed + m.unsupported ≤ m.executed ∧
        (m.failed + m.unsupported = m.executed ↔ .done ∉ endingsOf vs) := by
  intro matched
  have hstops := stopsAfter_evaluated hrun
  obtain ⟨vs, hvisits, rfl⟩ := execute_iff.1 hrun
  have hlines : s.context.matchedLines = (matchedRules vs).map (·.line) := hvisits.lines hrules htable
  have hmatched : matched = matchedRules vs := by
    rw [← Chain.rulesOn_map_line hread hvisits.sublist, ← hlines]
  have hcount := length_eq_count (endingsOf vs)
  rw [hmatched]
  refine ⟨hlines, ?_, exempted_add_matched_le vs, hstops, hvisits.length_endings, vs, hvisits, rfl, rfl,
    hvisits.carryOut, mayEnd_carryOutRules hvisits.carryOut, rfl, rfl, ?_, ?_⟩
  · rw [hlines, List.length_map]
    rfl
  · dsimp only [Metrics.ofVisits]
    omega
  · dsimp only [Metrics.ofVisits]
    rw [← List.count_eq_zero]
    omega

/-- The points of the last rule but one set off what ends the chain, but not the rule. -/
def tolls : String :=
  "# tolls\n/h/ unless vip then deny\n/z/ then log\n/h/ \\\n  then kick\n/h/ then points 6 then cmd x\n/h/ then deny"

theorem counters_add_up_tolls :
    let steve : Author := ⟨"steve", "steve", (· == "vip"), fun _ => fun
      | .command _ => .error (.failed "no")
      | d => .error (.unsupported d.capability.name)⟩
    let env : Environment := ⟨.standard, .standard, .log, 0, 1⟩
    let w : World := ⟨.enable .initial .standard ⟨[⟨"five", 5, [.abort, .penalize .kill none], []⟩]⟩ 0, []⟩
    ∃ c s m, Chain.ofSource .standard "chat" tolls = .ok c ∧
      (∀ r ∈ c.rules, ∀ i ∈ r.actions, i.action.KeepsLines) ∧ AllActions w.scores.table Action.KeepsLines ∧
      execute env c ⟨.ofString steve "oh", w⟩ = some (s, m) ∧
      s.context.matchedLines = [4, 6] ∧ m = ⟨4, 1, 2, 3, 1, 1⟩ ∧
      StopsAfter env c ⟨.ofString steve "oh", w⟩ 4 (s, m) := by
  intro steve env w
  have htells : (Chain.ofSource .standard "chat" tolls).toOption.any (fun c =>
      (execute env c ⟨.ofString steve "oh", w⟩).any fun x =>
        decide (x.1.context.matchedLines = [4, 6] ∧ x.2 = ⟨4, 1, 2, 3, 1, 1⟩)) = true := by
    decide +kernel
  obtain ⟨c, hc, hany⟩ := (Option.any_eq_true _ _).1 htells
  obtain ⟨⟨s, m⟩, hrun, htold⟩ := (Option.any_eq_true _ _).1 hany
  obtain ⟨hlines, rfl⟩ := of_decide_eq_true htold
  have hread := ok_of_toOption hc
  have hrules : ∀ r ∈ c.rules, ∀ i ∈ r.actions, i.action.KeepsLines :=
    fun r hr i hi => Action.keepsLines_of_isHost (Chain.isHost_of_standard hread r hr i hi)
  have htable : AllActions w.scores.table Action.KeepsLines := by
    intro t ht
    obtain rfl := List.mem_singleton.1 ht
    exact ⟨by simp [Action.KeepsLines, Action.Keeps], nofun⟩
  obtain ⟨-, -, -, hstops, -⟩ := counters_add_up hread hrules htable hrun
  exact ⟨c, s, _, hread, hrules, htable, hrun, hlines, rfl, hstops⟩

end Moderation
