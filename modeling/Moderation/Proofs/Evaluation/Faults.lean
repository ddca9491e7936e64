import Moderation.Proofs.Evaluation.Atomicity
import Moderation.Proofs.Evaluation.Composition

namespace Moderation

/-- What a run leaves of a list whose failing actions are taken out, how those ended, and where the run came to. -/
structure Sifted (α : Type) where
  kept : List α
  faults : List Status
  stage : Stage

namespace Sifted

variable {α : Type}

def keep (a : α) (x : Sifted α) : Sifted α := { x with kept := a :: x.kept }

def drop (fault : Status) (x : Sifted α) : Sifted α := { x with faults := fault :: x.faults }

end Sifted

def siftActions (env : Environment) : List Invocation → Stage → Option (Sifted Invocation)
  | [], s => some ⟨[], [], s⟩
  | i :: rest, s =>
    (perform env i.action s).bind fun r =>
      let (status, s) := contained s r
      (siftActions env rest s).map (if status = .done then .keep i else .drop status)

def Rule.runs (r : Rule) (c : Context) : Bool :=
  !c.halted && !r.exempts c.author && r.matcher.applies c.modified.glyphs

def siftRules (env : Environment) : List Rule → Stage → Option (Sifted Rule)
  | [], s => some ⟨[], [], s⟩
  | r :: rest, s =>
    if r.runs s.context then
      (siftActions env r.actions (s.withContext (s.context.enterRule r.line r.matcher.pattern))).bind
        fun x => (siftRules env rest (x.stage.withContext x.stage.context.leaveRule)).map fun y =>
          ⟨{ r with actions := x.kept } :: y.kept, x.faults ++ y.faults, y.stage⟩
    else (siftRules env rest s).map (.keep r)

def Chain.sift (env : Environment) (c : Chain) (s : Stage) : Option (Sifted Rule) :=
  siftRules env c.rules (s.withContext { s.context with chain := some c.name })

namespace Metrics

structure Clean (m : Metrics) : Prop where
  failed : m.failed = 0
  unsupported : m.unsupported = 0

theorem add_comm (m n : Metrics) : m + n = n + m := by
  change Metrics.mk .. = Metrics.mk ..
  simp only [Nat.add_comm]

theorem foldl_count_add (faults : List Status) (m n : Metrics) :
    faults.foldl count (m + n) = m + faults.foldl count n := by
  induction faults generalizing n with
  | nil => rfl
  | cons fault rest ih => rw [List.foldl_cons, add_count, ih, List.foldl_cons]

theorem foldl_count_eq (faults : List Status) (m : Metrics) :
    faults.foldl count m = faults.foldl count {} + m :=
  (foldl_count_add faults m {}).trans (add_comm ..)

end Metrics

def blamed (faults : List Status) (r : Stage × Metrics) : Stage × Metrics :=
  (r.1, faults.foldl .count r.2)

theorem countedIn_foldl (faults : List Status) :
    countedIn (faults.foldl .count {}) = blamed faults := by
  funext r
  exact congrArg (r.1, ·) (Metrics.foldl_count_eq faults r.2).symm

theorem blamed_blamed (faults more : List Status) (r : Stage × Metrics) :
    blamed faults (blamed more r) = blamed (faults ++ more) r := by
  have hswap : faults.foldl Metrics.count (more.foldl .count r.2) =
      more.foldl .count (faults.foldl .count r.2) :=
    calc faults.foldl Metrics.count (more.foldl .count r.2)
      _ = faults.foldl .count {} + more.foldl .count r.2 := Metrics.foldl_count_eq ..
      _ = more.foldl .count (faults.foldl .count {} + r.2) := (Metrics.foldl_count_add ..).symm
      _ = _ := by rw [← Metrics.foldl_count_eq]
  simp only [blamed, List.foldl_append, hswap]

def Rule.tally (r : Rule) (c : Context) (m : Metrics) : Metrics :=
  if c.halted then m
  else
    let m := { m with evaluated := m.evaluated + 1 }
    if r.exempts c.author then { m with exempted := m.exempted + 1 }
    else if r.matcher.applies c.modified.glyphs then { m with matched := m.matched + 1 }
    else m

theorem Rule.tally_clean {r : Rule} {c : Context} {m : Metrics} (h : m.Clean) : (r.tally c m).Clean := by
  unfold Rule.tally
  split
  · exact h
  · split
    · exact ⟨h.failed, h.unsupported⟩
    · split <;> exact ⟨h.failed, h.unsupported⟩

section Rules

variable (env : Environment)

theorem runRules_cons (r : Rule) (rest : List Rule) (s : Stage) (m : Metrics) :
    runRules env (r :: rest) s m =
      if r.runs s.context then
        (runRule env r s (r.tally s.context m)).bind fun x => runRules env rest x.1 x.2
      else runRules env rest s (r.tally s.context m) := by
  cases hhalted : s.context.halted with
  | true =>
    have hruns : r.runs s.context = false := by simp only [Rule.runs, hhalted, Bool.not_true, Bool.false_and]
    have htally : r.tally s.context m = m := by simp only [Rule.tally, hhalted, if_true]
    rw [runRules_of_halted env _ hhalted, hruns, htally]
    exact (runRules_of_halted env rest hhalted m).symm
  | false =>
    cases hexempts : r.exempts s.context.author with
    | true => simp [runRules, Rule.runs, Rule.tally, hhalted, hexempts]
    | false =>
      cases happlies : r.matcher.applies s.context.modified.glyphs <;>
        simp [runRules, Rule.runs, Rule.tally, hhalted, hexempts, happlies]

theorem runActions_blamed (actions : List Invocation) (s : Stage) (faults : List Status) (m : Metrics) :
    runActions env actions s (faults.foldl .count m) = (runActions env actions s m).map (blamed faults) := by
  rw [Metrics.foldl_count_eq, runActions_add, countedIn_foldl]

theorem runRules_blamed (rules : List Rule) (s : Stage) (faults : List Status) (m : Metrics) :
    runRules env rules s (faults.foldl .count m) = (runRules env rules s m).map (blamed faults) := by
  rw [Metrics.foldl_count_eq, runRules_add, countedIn_foldl]

end Rules

section Sifting

variable {env : Environment}

theorem siftActions_cons {i : Invocation} {s : Stage} {r : Except ActionError Stage}
    (h : perform env i.action s = some r) (rest : List Invocation) :
    siftActions env (i :: rest) s = (siftActions env rest (contained s r).2).map
      (if (contained s r).1 = .done then .keep i else .drop (contained s r).1) := by
  rw [siftActions, h]
  rfl

theorem runActions_cons {i : Invocation} {s : Stage} {r : Except ActionError Stage}
    (h : perform env i.action s = some r) (rest : List Invocation) (m : Metrics) :
    runActions env (i :: rest) s m =
      runActions env rest (contained s r).2 (m.count (contained s r).1) := by
  rw [runActions, h]
  rfl

theorem contained_of_ne_done {s : Stage} {r : Except ActionError Stage} (h : (contained s r).1 ≠ .done) :
    (contained s r).2 = s := by
  cases r with
  | ok t => exact absurd rfl h
  | error e => rfl

theorem runActions_sift {actions : List Invocation} {s : Stage} {x : Sifted Invocation}
    (h : siftActions env actions s = some x) (m : Metrics) :
    ∃ m', (m.Clean → m'.Clean) ∧ runActions env x.kept s m = some (x.stage, m') ∧
      runActions env actions s m = some (blamed x.faults (x.stage, m')) := by
  induction actions generalizing s m x with
  | nil =>
    obtain rfl := Option.some.inj h
    exact ⟨m, id, rfl, rfl⟩
  | cons i rest ih =>
    obtain ⟨r, hperform, -⟩ := Option.bind_eq_some_iff.1 h
    rw [siftActions_cons hperform] at h
    obtain ⟨y, hy, rfl⟩ := Option.map_eq_some_iff.1 h
    rw [runActions_cons hperform]
    by_cases hdone : (contained s r).1 = .done
    · obtain ⟨m', hclean, hkept, hrest⟩ := ih hy (m.count .done)
      rw [if_pos hdone, hdone]
      refine ⟨m', fun hm => hclean ⟨hm.failed, hm.unsupported⟩, ?_, hrest⟩
      rw [Sifted.keep, runActions_cons hperform, hdone]
      exact hkept
    · -- Both runs go on from the same stage, but only one of them has counted the action.
      obtain ⟨m', hclean, hkept, hrest⟩ := ih hy m
      rw [contained_of_ne_done hdone] at hkept hrest ⊢
      rw [if_neg hdone]
      refine ⟨m', hclean, hkept, ?_⟩
      calc runActions env rest s (m.count (contained s r).1)
        _ = (runActions env rest s m).map (blamed [(contained s r).1]) :=
          runActions_blamed env rest s [(contained s r).1] m
        _ = some (blamed [(contained s r).1] (blamed y.faults (y.stage, m'))) := by
          rw [hrest, Option.map_some]
        _ = _ := congrArg some (blamed_blamed ..)

theorem runRule_sift {rule : Rule} {s : Stage} {x : Sifted Invocation}
    (h : siftActions env rule.actions (s.withContext (s.context.enterRule rule.line rule.matcher.pattern)) =
      some x) (m : Metrics) :
    let left := x.stage.withContext x.stage.context.leaveRule
    ∃ m', (m.Clean → m'.Clean) ∧ runRule env { rule with actions := x.kept } s m = some (left, m') ∧
      runRule env rule s m = some (blamed x.faults (left, m')) := by
  obtain ⟨m', hclean, hkept, hall⟩ := runActions_sift h m
  refine ⟨m', hclean, ?_, ?_⟩
  · exact congrArg (Option.map _) hkept
  · exact congrArg (Option.map _) hall

theorem siftActions_kept {actions : List Invocation} {s : Stage} {x : Sifted Invocation}
    (h : siftActions env actions s = some x) : x.kept.Sublist actions ∧ Status.done ∉ x.faults := by
  induction actions generalizing s x with
  | nil =>
    obtain rfl := Option.some.inj h
    exact ⟨.slnil, List.not_mem_nil⟩
  | cons i rest ih =>
    obtain ⟨r, hperform, -⟩ := Option.bind_eq_some_iff.1 h
    rw [siftActions_cons hperform] at h
    obtain ⟨y, hy, rfl⟩ := Option.map_eq_some_iff.1 h
    obtain ⟨hkept, hfaults⟩ := ih hy
    split
    · exact ⟨hkept.cons_cons i, hfaults⟩
    · rename_i hdone
      exact ⟨hkept.cons i, List.not_mem_cons_of_ne_of_not_mem (Ne.symm hdone) hfaults⟩

theorem siftActions_eq_none {actions : List Invocation} {s : Stage}
    (h : siftActions env actions s = none) (m : Metrics) : runActions env actions s m = none := by
  induction actions generalizing s m with
  | nil => cases h
  | cons i rest ih =>
    cases hperform : perform env i.action s with
    | none => rw [runActions, hperform, Option.bind_none]
    | some r =>
      rw [siftActions_cons hperform] at h
      rw [runActions_cons hperform]
      exact ih (Option.map_eq_none_iff.1 h) _

theorem runRules_sift {rules : List Rule} {s : Stage} {x : Sifted Rule}
    (h : siftRules env rules s = some x) (m : Metrics) :
    ∃ m', (m.Clean → m'.Clean) ∧ runRules env x.kept s m = some (x.stage, m') ∧
      runRules env rules s m = some (blamed x.faults (x.stage, m')) := by
  induction rules generalizing s m x with
  | nil =>
    obtain rfl := Option.some.inj h
    exact ⟨m, id, rfl, rfl⟩
  | cons rule rest ih =>
    rw [runRules_cons]
    rw [siftRules] at h
    split at h
    · rename_i hruns
      obtain ⟨y, hy, hrest⟩ := Option.bind_eq_some_iff.1 h
      obtain ⟨z, hz, rfl⟩ := Option.map_eq_some_iff.1 hrest
      obtain ⟨m₁, hclean₁, hkept₁, hall₁⟩ := runRule_sift hy (rule.tally s.context m)
      obtain ⟨m₂, hclean₂, hkept₂, hall₂⟩ := ih hz m₁
      -- The faults of the rule are counted before the rest is run and have to be moved behind it.
      refine ⟨m₂, fun hm => hclean₂ (hclean₁ (Rule.tally_clean hm)), ?_, ?_⟩
      · have hsame : ({ rule with actions := y.kept } : Rule).runs s.context = true := hruns
        rw [runRules_cons, if_pos hsame]
        calc _ = (runRule env { rule with actions := y.kept } s (rule.tally s.context m)).bind fun x =>
              runRules env z.kept x.1 x.2 := rfl
          _ = _ := by rw [hkept₁, Option.bind_some, hkept₂]
      · rw [if_pos hruns, hall₁, Option.bind_some, blamed, runRules_blamed, hall₂, Option.map_some,
          blamed_blamed]
    · rename_i hruns
      obtain ⟨z, hz, rfl⟩ := Option.map_eq_some_iff.1 h
      obtain ⟨m', hclean, hkept, hall⟩ := ih hz (rule.tally s.context m)
      refine ⟨m', fun hm => hclean (Rule.tally_clean hm), ?_, ?_⟩
      · rw [Sifted.keep, runRules_cons, if_neg hruns]
        exact hkept
      · rw [if_neg hruns]
        exact hall

theorem siftRules_eq_none {rules : List Rule} {s : Stage} (h : siftRules env rules s = none)
    (m : Metrics) : runRules env rules s m = none := by
  induction rules generalizing s m with
  | nil => cases h
  | cons rule rest ih =>
    rw [runRules_cons]
    rw [siftRules] at h
    split at h
    · rename_i hruns
      rw [if_pos hruns, runRule]
      cases hsift : siftActions env rule.actions
          (s.withContext (s.context.enterRule rule.line rule.matcher.pattern)) with
      | none => rw [siftActions_eq_none hsift]; rfl
      | some y =>
        obtain ⟨m', -, -, hall⟩ := runActions_sift hsift (rule.tally s.context m)
        rw [hsift, Option.bind_some, Option.map_eq_none_iff] at h
        rw [hall]
        exact ih h _
    · rename_i hruns
      rw [if_neg hruns]
      exact ih (Option.map_eq_none_iff.1 h) _

def Rule.Thinned (r r' : Rule) : Prop :=
  r' = { r with actions := r'.actions } ∧ r'.actions.Sublist r.actions

theorem siftRules_kept {rules : List Rule} {s : Stage} {x : Sifted Rule}
    (h : siftRules env rules s = some x) :
    List.Forall₂ Rule.Thinned rules x.kept ∧ Status.done ∉ x.faults := by
  induction rules generalizing s x with
  | nil =>
    obtain rfl := Option.some.inj h
    exact ⟨.nil, List.not_mem_nil⟩
  | cons rule rest ih =>
    rw [siftRules] at h
    split at h
    · obtain ⟨y, hy, hrest⟩ := Option.bind_eq_some_iff.1 h
      obtain ⟨z, hz, rfl⟩ := Option.map_eq_some_iff.1 hrest
      obtain ⟨hactions, hfaults⟩ := siftActions_kept hy
      obtain ⟨hrules, hmore⟩ := ih hz
      refine ⟨.cons ⟨rfl, hactions⟩ hrules, fun hdone => ?_⟩
      exact (List.mem_append.1 hdone).elim hfaults hmore
    · obtain ⟨z, hz, rfl⟩ := Option.map_eq_some_iff.1 h
      obtain ⟨hrules, hmore⟩ := ih hz
      exact ⟨.cons ⟨rfl, .refl _⟩ hrules, hmore⟩

end Sifting

/-- Actions that fail are as if they were not there. Where an action breaks off, all that it wrote by then is
nothing; so a chain does what it does without the actions that failed, to the message, the effects and the
scores, and its counters have those actions besides. Without them no action fails. -/
theorem execute_sift (env : Environment) (c : Chain) (s : Stage) :
    (∀ a t, (workWithin env env.nesting a).outcome t = (perform env a t).map (settled t)) ∧
      execute env c s =
        (c.sift env s).bind (fun x => (execute env ⟨c.name, x.kept⟩ s).map (blamed x.faults)) ∧
      ∀ x, c.sift env s = some x →
        List.Forall₂ Rule.Thinned c.rules x.kept ∧ Status.done ∉ x.faults ∧
          ∃ m, m.Clean ∧ execute env ⟨c.name, x.kept⟩ s = some (x.stage, m) := by
  refine ⟨outcome_workWithin env env.nesting, ?_, fun x h => ?_⟩
  · cases h : c.sift env s with
    | none => exact siftRules_eq_none h {}
    | some x =>
      obtain ⟨m, -, hkept, hall⟩ := runRules_sift h {}
      calc execute env c s
        _ = some (blamed x.faults (x.stage, m)) := hall
        _ = (execute env ⟨c.name, x.kept⟩ s).map (blamed x.faults) :=
          (congrArg (Option.map _) hkept).symm
  · obtain ⟨hkept, hfaults⟩ := siftRules_kept h
    obtain ⟨m, hclean, hrun, -⟩ := runRules_sift h {}
    exact ⟨hkept, hfaults, m, hclean ⟨rfl, rfl⟩, hrun⟩

def frailRules : List Rule :=
  [⟨1, ⟨⟨"b", Regex.compile (.literal ['b'])⟩, false, false⟩,
      [⟨"kick", "", .penalize .kick none⟩, ⟨"replace", "x", .replace "x"⟩,
        ⟨"kill", "", .penalize .kill none⟩, ⟨"points", "6", .points 6⟩], []⟩,
    ⟨2, ⟨⟨"x", Regex.compile (.literal ['x'])⟩, false, false⟩,
      [⟨"deny", "", .deny⟩, ⟨"kick", "", .penalize .kick none⟩], []⟩]

/-- Who was kicked is gone and cannot be kicked again. -/
def frailAuthor : Author :=
  { id := "steve", name := "steve"
    answer := fun done => fun
      | .kick _ => if done.isEmpty then .ok () else .error (.failed "offline")
      | .kill _ => .error (.unsupported "kill")
      | _ => .error (.failed "busy") }

theorem execute_sift_frail :
    let env : Environment := ⟨.none, .standard, .log, 0, 1⟩
    let s : Stage := ⟨.ofString frailAuthor "abc",
      ⟨.enable .initial .standard ⟨[⟨"five", 5, [.penalize .warn none, .log], []⟩]⟩ 0, []⟩⟩
    ∃ x, Chain.sift env ⟨"chat", frailRules⟩ s = some x ∧
      x.faults = [.unsupported, .failed] ∧
      x.kept.map (·.actions.map (·.token)) = [["kick", "replace", "points"], ["deny"]] ∧
      (execute env ⟨"chat", frailRules⟩ s).map (·.2) = some ⟨2, 0, 2, 6, 1, 1⟩ ∧
      ∃ m, m.Clean ∧ execute env ⟨"chat", x.kept⟩ s = some (x.stage, m) := by
  intro env s
  have hsift : (Chain.sift env ⟨"chat", frailRules⟩ s).map
      (fun x => (x.faults, x.kept.map (·.actions.map (·.token)))) =
        some ([.unsupported, .failed], [["kick", "replace", "points"], ["deny"]]) := by
    decide +kernel
  obtain ⟨x, hx, hfaults⟩ := Option.map_eq_some_iff.1 hsift
  obtain ⟨hfaults, hkept⟩ := Prod.mk.inj hfaults
  refine ⟨x, hx, hfaults, hkept, by decide +kernel, ?_⟩
  exact ((execute_sift env ⟨"chat", frailRules⟩ s).2.2 x hx).2.2

end Moderation
