import Moderation.Proofs.Evaluation.Composition

namespace Moderation

namespace Stage

def enterRule (s : Stage) (r : Rule) : Stage := s.withContext (s.context.enterRule r.line r.matcher.pattern)

def leaveRule (s : Stage) : Stage := s.withContext s.context.leaveRule

def enterChain (s : Stage) (name : String) : Stage := s.withContext { s.context with chain := some name }

end Stage

section Carrying

variable (env : Environment)

def carryOutActions : List Invocation → Stage → Option (List Status × Stage)
  | [], s => some ([], s)
  | i :: rest, s =>
    (perform env i.action s).bind fun r =>
      (carryOutActions rest (contained s r).2).map fun x => ((contained s r).1 :: x.1, x.2)

def carryOutRule (r : Rule) (s : Stage) : Option (List Status × Stage) :=
  (carryOutActions env r.actions (s.enterRule r)).map fun x => (x.1, x.2.leaveRule)

/-- Performs all actions of all rules, whether or not a rule matches and whether or not one halts the chain. -/
def carryOutRules : List Rule → Stage → Option (List Status × Stage)
  | [], s => some ([], s)
  | r :: rest, s =>
    (carryOutRule env r s).bind fun x => (carryOutRules rest x.2).map fun y => (x.1 ++ y.1, y.2)

end Carrying

section Inversion

variable {env : Environment} {s t : Stage} {endings : List Status}

theorem carryOutActions_cons {i : Invocation} {rest : List Invocation}
    (h : carryOutActions env (i :: rest) s = some (endings, t)) :
    ∃ r more, perform env i.action s = some r ∧ carryOutActions env rest (contained s r).2 = some (more, t) ∧
      endings = (contained s r).1 :: more := by
  obtain ⟨r, hperform, h⟩ := Option.bind_eq_some_iff.1 h
  obtain ⟨⟨more, _⟩, hrest, heq⟩ := Option.map_eq_some_iff.1 h
  obtain ⟨rfl, rfl⟩ := Prod.mk.inj heq
  exact ⟨r, more, hperform, hrest, rfl⟩

theorem carryOutRule_of_some {r : Rule} (h : carryOutRule env r s = some (endings, t)) :
    ∃ u, carryOutActions env r.actions (s.enterRule r) = some (endings, u) ∧ t = u.leaveRule := by
  obtain ⟨⟨_, u⟩, hactions, heq⟩ := Option.map_eq_some_iff.1 h
  obtain ⟨rfl, rfl⟩ := Prod.mk.inj heq
  exact ⟨u, hactions, rfl⟩

theorem carryOutRules_cons {r : Rule} {rest : List Rule} (h : carryOutRules env (r :: rest) s = some (endings, t)) :
    ∃ first u more, carryOutRule env r s = some (first, u) ∧ carryOutRules env rest u = some (more, t) ∧
      endings = first ++ more := by
  obtain ⟨⟨first, u⟩, hrule, h⟩ := Option.bind_eq_some_iff.1 h
  obtain ⟨⟨more, _⟩, hrest, heq⟩ := Option.map_eq_some_iff.1 h
  obtain ⟨rfl, rfl⟩ := Prod.mk.inj heq
  exact ⟨first, u, more, hrule, hrest, rfl⟩

end Inversion

inductive Fate where
  | exempt
  | missed
  | matched (endings : List Status)

structure Visit where
  rule : Rule
  fate : Fate

namespace Visit

def matched? (v : Visit) : Option Rule :=
  match v.fate with
  | .matched _ => some v.rule
  | _ => none

def isExempt (v : Visit) : Bool :=
  match v.fate with
  | .exempt => true
  | _ => false

def endings (v : Visit) : List Status :=
  match v.fate with
  | .matched endings => endings
  | _ => []

inductive Goes (env : Environment) (s : Stage) : Visit → Stage → Prop
  | exempt {r : Rule} : r.exempts s.context.author = true → Goes env s ⟨r, .exempt⟩ s
  | missed {r : Rule} : r.exempts s.context.author = false →
      r.matcher.applies s.context.modified.glyphs = false → Goes env s ⟨r, .missed⟩ s
  | matched {r : Rule} {endings : List Status} {t : Stage} : r.exempts s.context.author = false →
      r.matcher.applies s.context.modified.glyphs = true → carryOutRule env r s = some (endings, t) →
      Goes env s ⟨r, .matched endings⟩ t

end Visit

inductive Visits (env : Environment) : List Rule → Stage → List Visit → Stage → Prop
  | done (s : Stage) : Visits env [] s [] s
  | halted {s : Stage} (rules : List Rule) : s.context.halted = true → Visits env rules s [] s
  | visit {s t u : Stage} {v : Visit} {rest : List Rule} {vs : List Visit} : s.context.halted = false →
      v.Goes env s t → Visits env rest t vs u → Visits env (v.rule :: rest) s (v :: vs) u

def matchedRules (vs : List Visit) : List Rule := vs.filterMap (·.matched?)

def endingsOf (vs : List Visit) : List Status := vs.flatMap (·.endings)

def Metrics.ofVisits (vs : List Visit) : Metrics where
  evaluated := vs.length
  exempted := vs.countP (·.isExempt)
  matched := (matchedRules vs).length
  executed := (endingsOf vs).length
  failed := (endingsOf vs).count .failed
  unsupported := (endingsOf vs).count .unsupported

section Counting

variable {env : Environment} {rules : List Rule} {s t : Stage}

namespace Metrics

theorem add_def (m n : Metrics) :
    m + n = ⟨m.evaluated + n.evaluated, m.exempted + n.exempted, m.matched + n.matched, m.executed + n.executed,
      m.failed + n.failed, m.unsupported + n.unsupported⟩ := rfl

theorem add_assoc (l m n : Metrics) : l + m + n = l + (m + n) := by
  simp only [add_def, Nat.add_assoc]

theorem zero_add (m : Metrics) : {} + m = m := by
  simp only [add_def, Nat.zero_add]

theorem foldl_count (endings : List Status) (m : Metrics) :
    endings.foldl count m = m + ⟨0, 0, 0, endings.length, endings.count .failed, endings.count .unsupported⟩ := by
  induction endings generalizing m with
  | nil => rfl
  | cons e rest ih =>
    rw [List.foldl_cons, ih]
    cases e <;> simp [add_def, count, Nat.add_assoc, Nat.add_comm 1]

theorem ofVisits_cons (v : Visit) (vs : List Visit) : ofVisits (v :: vs) = ofVisits [v] + ofVisits vs := by
  obtain ⟨r, fate⟩ := v
  cases fate <;>
    simp [add_def, ofVisits, matchedRules, endingsOf, Visit.matched?, Visit.isExempt, Visit.endings, Nat.add_comm]

theorem ofVisits_matched (r : Rule) (endings : List Status) (m : Metrics) :
    m + ofVisits [⟨r, .matched endings⟩] =
      endings.foldl count { m with evaluated := m.evaluated + 1, matched := m.matched + 1 } := by
  rw [foldl_count]
  simp [add_def, ofVisits, matchedRules, endingsOf, Visit.matched?, Visit.isExempt, Visit.endings]

end Metrics

theorem runActions_eq (actions : List Invocation) (s : Stage) (m : Metrics) :
    runActions env actions s m =
      (carryOutActions env actions s).map fun x => (x.2, x.1.foldl Metrics.count m) := by
  induction actions generalizing s m with
  | nil => rfl
  | cons i rest ih =>
    simp only [runActions, carryOutActions, ih, Option.map_bind]
    refine Option.bind_congr fun r _ => ?_
    rw [Function.comp_apply, Option.map_map]
    rfl

theorem runActions_of_carryOut {actions : List Invocation} {endings : List Status}
    (h : carryOutActions env actions s = some (endings, t)) (m : Metrics) :
    runActions env actions s m = some (t, endings.foldl .count m) := by
  rw [runActions_eq, h, Option.map_some]

theorem runRule_eq (r : Rule) (s : Stage) (m : Metrics) :
    runRule env r s m = (carryOutRule env r s).map fun x => (x.2, x.1.foldl Metrics.count m) := by
  simp only [runRule, carryOutRule, runActions_eq, Option.map_map]
  rfl

theorem exists_visits {m n : Metrics} (h : runRules env rules s m = some (t, n)) :
    ∃ vs, Visits env rules s vs t ∧ n = m + .ofVisits vs := by
  -- The rest is run with the counters of the rules before it, so these are arbitrary.
  induction rules generalizing s m with
  | nil =>
    obtain ⟨rfl, rfl⟩ := Prod.mk.inj (Option.some.inj h)
    exact ⟨[], .done s, rfl⟩
  | cons r rest ih =>
    simp only [runRules] at h
    split at h
    · rename_i hhalted
      obtain ⟨rfl, rfl⟩ := Prod.mk.inj (Option.some.inj h)
      exact ⟨[], .halted _ hhalted, rfl⟩
    · rename_i hgoes
      rw [Bool.not_eq_true] at hgoes
      split at h
      · rename_i hexempt
        obtain ⟨vs, hvisits, rfl⟩ := ih h
        refine ⟨⟨r, .exempt⟩ :: vs, .visit hgoes (.exempt hexempt) hvisits, ?_⟩
        rw [Metrics.ofVisits_cons, ← Metrics.add_assoc]
        rfl
      · rename_i hexempt
        rw [Bool.not_eq_true] at hexempt
        split at h
        · rename_i happlies
          obtain ⟨⟨u, k⟩, hrule, h⟩ := Option.bind_eq_some_iff.1 h
          rw [runRule_eq] at hrule
          obtain ⟨⟨endings, u'⟩, hcarry, heq⟩ := Option.map_eq_some_iff.1 hrule
          obtain ⟨rfl, rfl⟩ := Prod.mk.inj heq
          obtain ⟨vs, hvisits, rfl⟩ := ih h
          refine ⟨⟨r, .matched endings⟩ :: vs, .visit hgoes (.matched hexempt happlies hcarry) hvisits, ?_⟩
          rw [Metrics.ofVisits_cons, ← Metrics.add_assoc, Metrics.ofVisits_matched]
        · rename_i happlies
          rw [Bool.not_eq_true] at happlies
          obtain ⟨vs, hvisits, rfl⟩ := ih h
          refine ⟨⟨r, .missed⟩ :: vs, .visit hgoes (.missed hexempt happlies) hvisits, ?_⟩
          rw [Metrics.ofVisits_cons, ← Metrics.add_assoc]
          rfl

theorem Visits.runRules {vs : List Visit} (h : Visits env rules s vs t) (m : Metrics) :
    runRules env rules s m = some (t, m + .ofVisits vs) := by
  induction h generalizing m with
  | done s => rfl
  | halted rules hhalted => exact runRules_of_halted env rules hhalted m
  | visit hgoes hvisit hrest ih =>
    rw [Metrics.ofVisits_cons, ← Metrics.add_assoc, ← ih]
    cases hvisit with
    | exempt hexempt =>
      simp only [Moderation.runRules, hgoes, hexempt, Bool.false_eq_true, if_false, if_true]
      rfl
    | missed hexempt happlies =>
      simp only [Moderation.runRules, hgoes, hexempt, happlies, Bool.false_eq_true, if_false]
      rfl
    | matched hexempt happlies hcarry =>
      simp only [Moderation.runRules, hgoes, hexempt, happlies, Bool.false_eq_true, if_false, if_true]
      rw [runRule_eq, hcarry, Metrics.ofVisits_matched]
      rfl

theorem execute_iff {name : String} {m : Metrics} :
    execute env ⟨name, rules⟩ s = some (t, m) ↔ ∃ vs, Visits env rules (s.enterChain name) vs t ∧ m = .ofVisits vs := by
  constructor
  · intro h
    obtain ⟨vs, hvisits, rfl⟩ := exists_visits (s := s.enterChain name) h
    exact ⟨vs, hvisits, Metrics.zero_add _⟩
  · rintro ⟨vs, hvisits, rfl⟩
    have hrun := hvisits.runRules {}
    rwa [Metrics.zero_add] at hrun

end Counting

section Course

variable {env : Environment} {rules : List Rule} {s t : Stage} {vs : List Visit}

namespace Visits

theorem take (h : Visits env rules s vs t) : Visits env (rules.take vs.length) s vs t := by
  induction h with
  | done s => exact .done s
  | halted rules _ => exact .done _
  | visit hgoes hvisit _ ih => exact .visit hgoes hvisit ih

theorem goes_on (h : Visits env rules s vs t) {k : Nat} (hk : k < vs.length) :
    ∃ ws u, Visits env (rules.take k) s ws u ∧ u.context.halted = false := by
  induction h generalizing k with
  | done s => cases hk
  | halted rules _ => cases hk
  | visit hgoes hvisit _ ih =>
    cases k with
    | zero => exact ⟨[], _, .done _, hgoes⟩
    | succ k =>
      obtain ⟨ws, u, hws, hu⟩ := ih (Nat.lt_of_succ_lt_succ hk)
      exact ⟨_, u, .visit hgoes hvisit hws, hu⟩

theorem length_le (h : Visits env rules s vs t) : vs.length ≤ rules.length := by
  induction h with
  | done s => exact le_rfl
  | halted rules _ => exact Nat.zero_le _
  | visit _ _ _ ih => exact Nat.succ_le_succ ih

theorem length_eq_or_halted (h : Visits env rules s vs t) :
    vs.length = rules.length ∨ t.context.halted = true := by
  induction h with
  | done s => exact .inl rfl
  | halted rules hhalted => exact .inr hhalted
  | visit _ _ _ ih => exact ih.imp_left (congrArg (· + 1))

theorem sublist (h : Visits env rules s vs t) : (matchedRules vs).Sublist rules := by
  induction h with
  | done s => exact .slnil
  | halted rules _ => exact List.nil_sublist rules
  | visit _ hvisit _ ih =>
    cases hvisit with
    | matched => exact ih.cons_cons _
    | _ => exact ih.cons _

theorem carryOut (h : Visits env rules s vs t) :
    carryOutRules env (matchedRules vs) s = some (endingsOf vs, t) := by
  induction h with
  | done s => rfl
  | halted rules _ => rfl
  | visit _ hvisit _ ih =>
    cases hvisit with
    | @matched r endings _ _ _ hcarry =>
      change carryOutRules env (r :: matchedRules _) _ = _
      rw [carryOutRules, hcarry, Option.bind_some, ih]
      rfl
    | _ => exact ih

end Visits

end Course

end Moderation
