import Moderation.Proofs.Evaluation.Conservation

namespace Moderation

instance : Add Metrics where
  add m n :=
    { evaluated := m.evaluated + n.evaluated
      exempted := m.exempted + n.exempted
      matched := m.matched + n.matched
      executed := m.executed + n.executed
      failed := m.failed + n.failed
      unsupported := m.unsupported + n.unsupported }

namespace Metrics

theorem add_count (m n : Metrics) (status : Status) : (m + n).count status = m + n.count status := by
  cases status <;> rfl

end Metrics

def countedIn (m : Metrics) (r : Stage × Metrics) : Stage × Metrics := (r.1, m + r.2)

section Counters

variable (env : Environment)

theorem runActions_add (actions : List Invocation) (s : Stage) (m n : Metrics) :
    runActions env actions s (m + n) = (runActions env actions s n).map (countedIn m) := by
  induction actions generalizing s n with
  | nil => rfl
  | cons i rest ih =>
    simp only [runActions, Option.map_bind]
    refine Option.bind_congr fun r _ => ?_
    rw [Metrics.add_count, ih]
    rfl

theorem runRule_add (rule : Rule) (s : Stage) (m n : Metrics) :
    runRule env rule s (m + n) = (runRule env rule s n).map (countedIn m) := by
  simp only [runRule, runActions_add, Option.map_map]
  rfl

theorem runRules_add (rules : List Rule) (s : Stage) (m n : Metrics) :
    runRules env rules s (m + n) = (runRules env rules s n).map (countedIn m) := by
  induction rules generalizing s n with
  | nil => rfl
  | cons rule rest ih =>
    simp only [runRules]
    split
    · rfl
    · split
      · exact ih s { n with evaluated := n.evaluated + 1, exempted := n.exempted + 1 }
      · split
        · have hrule := runRule_add env rule s m
            { n with evaluated := n.evaluated + 1, matched := n.matched + 1 }
          calc _ = ((runRule env rule s _).map (countedIn m)).bind fun r =>
                runRules env rest r.1 r.2 := congrArg (Option.bind · _) hrule
            _ = (runRule env rule s _).bind fun r => runRules env rest r.1 (m + r.2) :=
              Option.bind_map ..
            _ = _ := by
              rw [Option.map_bind]
              exact Option.bind_congr fun r _ => ih r.1 r.2
        · exact ih s { n with evaluated := n.evaluated + 1 }

end Counters

section Cut

variable (env : Environment)

theorem runRules_of_halted (rules : List Rule) {s : Stage} (h : s.context.halted = true) (m : Metrics) :
    runRules env rules s m = some (s, m) := by
  cases rules with
  | nil => rfl
  | cons rule rest => simp only [runRules, h, if_true]

theorem runRules_append (first second : List Rule) (s : Stage) (m : Metrics) :
    runRules env (first ++ second) s m =
      (runRules env first s m).bind fun r => runRules env second r.1 r.2 := by
  induction first generalizing s m with
  | nil => rfl
  | cons rule rest ih =>
    simp only [List.cons_append, runRules, ih]
    split
    · rename_i hhalted
      exact (runRules_of_halted env second hhalted m).symm
    · split
      · rfl
      · split
        · rw [Option.bind_assoc]
        · rfl

end Cut

/-- Actions of the host edit the message at hand; they do not take it to another chain. -/
def Action.KeepsChain : Action → Prop
  | .host run => ∀ c c', run c = .ok c' → c'.chain = c.chain
  | _ => True

section Chain

variable {env : Environment} {fire : Firing} {a : Action} {s : Stage} {r : Except ActionError Stage}

theorem Action.KeepsChain.keeps (ha : a.KeepsChain) : a.Keeps (·.chain) := by
  cases a with
  | host run => exact ha
  | _ => trivial

theorem chain_step (ha : a.KeepsChain) (hpoints : a.addsPoints = false)
    (h : step env fire a s = some r) : (contained s r).2.context.chain = s.context.chain :=
  unwritten_step (fun _ _ _ _ _ _ => rfl) ha.keeps hpoints h

structure Stage.SameChain (s t : Stage) : Prop where
  table : t.world.scores.table = s.world.scores.table
  chain : t.context.chain = s.context.chain

theorem conserved_sameChain (env : Environment) :
    Conserved env Action.KeepsChain Stage.SameChain where
  refl _ := ⟨rfl, rfl⟩
  trans h h' := ⟨h'.table.trans h.table, h'.chain.trans h.chain⟩
  table h := h.table
  acts ha hpoints h := ⟨congrArg (·.table) (scores_step hpoints h), chain_step ha hpoints h⟩
  enters _ _ _ _ := ⟨rfl, rfl⟩
  logs _ _ := ⟨rfl, rfl⟩
  scores _ _ _ := ⟨rfl, rfl⟩
  blank h := ⟨h.table, rfl⟩

theorem execute_of_chain {name : String} (rules : List Rule) (h : s.context.chain = some name) :
    execute env ⟨name, rules⟩ s = runRules env rules s {} := by
  have hentered : s.withContext { s.context with chain := some name } = s := by
    rw [← h]
    rfl
  rw [execute, hentered]

/-- To run a chain is to run its first part and then the rest: the message, the effects and the scores are the
same, and the counters are the sums. As long as no action takes the message to another chain, the rest can be
run as a chain of the same name. Once the first part halts, the rest is neither run nor counted. -/
theorem execute_append (env : Environment) (name : String) (first second : List Rule) (s : Stage) :
    execute env ⟨name, first ++ second⟩ s =
        ((execute env ⟨name, first⟩ s).bind fun a =>
          (runRules env second a.1 {}).map fun b => (b.1, a.2 + b.2)) ∧
      ((∀ r ∈ first, ∀ i ∈ r.actions, i.action.KeepsChain) →
        AllActions s.world.scores.table Action.KeepsChain →
          execute env ⟨name, first ++ second⟩ s =
            (execute env ⟨name, first⟩ s).bind fun a =>
              (execute env ⟨name, second⟩ a.1).map fun b => (b.1, a.2 + b.2)) ∧
      ∀ a, execute env ⟨name, first⟩ s = some a → a.1.context.halted = true →
        execute env ⟨name, first ++ second⟩ s = some a := by
  have hcut : execute env ⟨name, first ++ second⟩ s =
      (execute env ⟨name, first⟩ s).bind fun a => runRules env second a.1 a.2 :=
    runRules_append env first second _ {}
  have hsum : execute env ⟨name, first ++ second⟩ s =
      (execute env ⟨name, first⟩ s).bind fun a =>
        (runRules env second a.1 {}).map fun b => (b.1, a.2 + b.2) := by
    rw [hcut]
    refine Option.bind_congr fun a _ => ?_
    exact runRules_add env second a.1 a.2 {}
  refine ⟨hsum, fun hrules htable => ?_, fun a ha hhalted => ?_⟩
  · rw [hsum]
    refine Option.bind_congr fun a ha => ?_
    have hnamed : a.1.context.chain = some name :=
      ((conserved_sameChain env).runRules (s := s.withContext { s.context with chain := some name })
        hrules htable ha).chain
    rw [execute_of_chain second hnamed]
  · rw [hcut, ha]
    exact runRules_of_halted env second hhalted a.2

end Chain

def stagedRules : List Rule × List Rule :=
  ([⟨1, ⟨⟨"b", Regex.compile (.literal ['b'])⟩, false, false⟩,
      [⟨"replace", "x", .replace "x"⟩, ⟨"points", "6", .points 6⟩,
        ⟨"audit", "", .host fun c => .ok (c.note "audited")⟩], []⟩],
    [⟨2, ⟨⟨"x", Regex.compile (.literal ['x'])⟩, false, false⟩, [⟨"abort", "", .abort⟩], []⟩,
      ⟨3, ⟨⟨"x", Regex.compile (.literal ['x'])⟩, false, false⟩, [⟨"deny", "", .deny⟩], []⟩])

theorem execute_append_staged :
    let env : Environment := ⟨.none, .standard, .log, 0, 1⟩
    let s : Stage := ⟨.ofString ⟨"steve", "steve", fun _ => false, fun _ _ => .ok ()⟩ "abc",
      ⟨.enable .initial .standard ⟨[⟨"five", 5, [.log], []⟩]⟩ 0, []⟩⟩
    (∀ r ∈ stagedRules.1, ∀ i ∈ r.actions, i.action.KeepsChain) ∧
      AllActions s.world.scores.table Action.KeepsChain ∧
      ((execute env ⟨"chat", stagedRules.1 ++ stagedRules.2⟩ s).map fun r =>
          (r.1.context.modified.plainString, r.1.context.matchedLines, r.1.context.logging, r.2)) =
        some ("axc", [1, 2], true, ⟨1, 0, 1, 3, 0, 0⟩ + ⟨1, 0, 1, 1, 0, 0⟩) := by
  intro env s
  have hrules : ∀ r ∈ stagedRules.1, ∀ i ∈ r.actions, i.action.KeepsChain := by
    intro r hr i hi
    obtain rfl := List.mem_singleton.1 hr
    simp only [List.mem_cons, List.not_mem_nil, or_false] at hi
    rcases hi with rfl | rfl | rfl
    · trivial
    · trivial
    · intro c c' hrun
      obtain rfl := Except.ok.inj hrun
      rfl
  have htable : AllActions s.world.scores.table Action.KeepsChain := by
    intro t ht
    obtain rfl := List.mem_singleton.1 ht
    exact ⟨fun a ha => by obtain rfl := List.mem_singleton.1 ha; trivial, fun a ha => by cases ha⟩
  refine ⟨hrules, htable, ?_⟩
  rw [(execute_append env "chat" stagedRules.1 stagedRules.2 s).2.1 hrules htable]
  decide +kernel

end Moderation
