import Moderation.Proofs.Action.Vocabulary
import Moderation.Proofs.Failure
import Moderation.Proofs.Rule.Continuation

namespace Moderation

namespace LogicalLine

theorem absorb_eq_none {number : Nat} {current : Option LogicalLine} {raw : List Char} {l : LogicalLine}
    (h : l ∈ (absorb number current raw).1) : (absorb number current raw).2 = none := by
  revert h
  unfold absorb
  dsimp only
  split
  · exact fun _ => rfl
  · split
    · exact fun h => absurd h (Option.not_mem_none l)
    · exact fun _ => rfl

theorem pairwise_joinFrom {number : Nat} {current : Option LogicalLine} {xs : List (List Char)} {ls : List LogicalLine}
    (hcurrent : ∀ l ∈ current, l.number < number) (h : joinFrom number current xs = .ok ls) :
    ls.Pairwise (·.number < ·.number) := by
  induction xs generalizing number current ls with
  | nil =>
    cases current with
    | none =>
      obtain rfl := Except.ok.inj h
      exact .nil
    | some l => cases h
  | cons raw rest ih =>
    have hnumber : ∀ l, l ∈ (absorb number current raw).1 ∨ l ∈ (absorb number current raw).2 →
        l.number < number + 1 := by
      intro l hl
      rw [number_absorb hl]
      cases current with
      | none => exact Nat.lt_succ_self _
      | some l' => exact Nat.lt_succ_of_lt (hcurrent l' rfl)
    rw [joinFrom_cons] at h
    cases hjoin : joinFrom (number + 1) (absorb number current raw).2 rest with
    | error e =>
      rw [hjoin] at h
      cases h
    | ok ms =>
      rw [hjoin] at h
      obtain rfl := Except.ok.inj h
      refine List.pairwise_append.2 ⟨?_, ih (fun l hl => hnumber l (.inr hl)) hjoin, ?_⟩
      · cases (absorb number current raw).1 with
        | none => exact .nil
        | some l => exact List.pairwise_singleton ..
      · -- A line that is completed leaves none open, so the next one begins further down.
        intro l hl m hm
        rw [Option.mem_toList] at hl
        have hbehind := number_joinFrom (number + 1) (number + 1) none rest le_rfl fun _ h => by cases h
        rw [← absorb_eq_none hl, hjoin] at hbehind
        exact Nat.lt_of_lt_of_le (hnumber l (.inl hl)) (hbehind m hm).1

end LogicalLine

theorem Rule.line_read {registry : Registry} {l : LogicalLine} {r : Rule} (h : read registry l = .ok r) :
    r.line = l.number := by
  -- Counted anew so that every line has this number, the line is read as before.
  have hcounted := read_renumber (fun _ => l.number) registry l
  change read registry l = _ at hcounted
  rw [h] at hcounted
  exact congrArg line (Except.ok.inj hcounted)

theorem Chain.pairwise_line {registry : Registry} {name source : String} {c : Chain}
    (h : ofSource registry name source = .ok c) : c.rules.Pairwise (·.line < ·.line) := by
  obtain ⟨ls, hjoin, h⟩ := bind_ok h
  obtain ⟨rules, hread, h⟩ := bind_ok h
  obtain rfl := Except.ok.inj h
  have hlines : rules.map (·.line) = ls.map (·.number) := map_eq_of_mapM Rule.line_read hread
  have hnumbers : ls.Pairwise (·.number < ·.number) := LogicalLine.pairwise_joinFrom (fun _ h => by cases h) hjoin
  have hrise : (rules.map (·.line)).Pairwise (· < ·) := hlines ▸ List.pairwise_map.2 hnumbers
  exact List.pairwise_map.1 hrise

def Chain.rulesOn (c : Chain) (lines : List Nat) : List Rule := c.rules.filter fun r => lines.contains r.line

theorem filter_contains_line {rules picked : List Rule} (hrise : rules.Pairwise (·.line < ·.line))
    (h : picked.Sublist rules) : rules.filter (fun r => (picked.map (·.line)).contains r.line) = picked := by
  induction h with
  | slnil => rfl
  | cons r h ih =>
    obtain ⟨hfirst, hrest⟩ := List.pairwise_cons.1 hrise
    rw [List.filter_cons_of_neg, ih hrest]
    intro hmem
    obtain ⟨p, hp, hline⟩ := List.mem_map.1 (List.contains_iff_mem.1 hmem)
    exact (hfirst p (h.subset hp)).ne' hline
  | @cons_cons picked rules r h ih =>
    obtain ⟨hfirst, hrest⟩ := List.pairwise_cons.1 hrise
    have hothers : rules.filter (fun q => ((r :: picked).map (·.line)).contains q.line) =
        rules.filter fun q => (picked.map (·.line)).contains q.line := by
      apply List.filter_congr
      intro q hq
      have hne := (hfirst q hq).ne'
      simp [hne]
    rw [List.filter_cons_of_pos (by simp), hothers, ih hrest]

theorem Chain.rulesOn_map_line {registry : Registry} {name source : String} {c : Chain} {picked : List Rule}
    (hread : ofSource registry name source = .ok c) (h : picked.Sublist c.rules) :
    c.rulesOn (picked.map (·.line)) = picked :=
  filter_contains_line (pairwise_line hread) h

section Actions

variable {registry : Registry} {r : Rule}

def Rule.Built (registry : Registry) (r : Rule) : Prop :=
  ∀ i ∈ r.actions, ∃ token params, registry.construct token params = .ok i.action

theorem Invocation.built_read {body : List Char} {i : Invocation} (h : read registry body = .ok i) :
    ∃ token params, registry.construct token params = .ok i.action := by
  unfold read at h
  dsimp only at h
  split at h
  · cases h
  · split at h
    · rename_i action hconstruct
      obtain rfl := Except.ok.inj h
      exact ⟨_, _, hconstruct⟩
    · cases h

namespace Rule

theorem Built.addSegment {r' : Rule} {segment : Segment} (hr : r.Built registry)
    (h : addSegment registry r segment = .ok r') : r'.Built registry := by
  unfold Rule.addSegment at h
  split at h
  · obtain ⟨i, hread, h⟩ := bind_ok h
    obtain rfl := Except.ok.inj h
    intro j hj
    rcases List.mem_append.1 hj with hj | hj
    · exact hr j hj
    · obtain rfl := List.mem_singleton.1 hj
      exact Invocation.built_read hread
  · split at h
    · cases h
    · obtain rfl := Except.ok.inj h
      exact hr

theorem Built.foldlM {r' : Rule} {segments : List Segment} (hr : r.Built registry)
    (h : segments.foldlM (Rule.addSegment registry) r = .ok r') : r'.Built registry := by
  induction segments generalizing r with
  | nil =>
    obtain rfl := Except.ok.inj h
    exact hr
  | cons segment rest ih =>
    rw [List.foldlM_cons] at h
    obtain ⟨q, hq, h⟩ := bind_ok h
    exact ih (hr.addSegment hq) h

theorem built_read {l : LogicalLine} (h : read registry l = .ok r) : r.Built registry := by
  unfold read at h
  split at h
  · rename_i q htext
    obtain rfl := Except.ok.inj h
    obtain ⟨found, -, htext⟩ := bind_ok htext
    obtain ⟨segments, -, htext⟩ := bind_ok htext
    exact Built.foldlM (fun _ hi => absurd hi List.not_mem_nil) htext
  · cases h

end Rule

theorem Chain.built {name source : String} {c : Chain} (h : ofSource registry name source = .ok c) (hr : r ∈ c.rules) :
    r.Built registry := by
  obtain ⟨ls, -, h⟩ := bind_ok h
  obtain ⟨rules, hread, h⟩ := bind_ok h
  obtain rfl := Except.ok.inj h
  obtain ⟨l, -, hread⟩ := exists_of_mem_mapM hread hr
  exact Rule.built_read hread

theorem Chain.isHost_of_standard {name source : String} {c : Chain} (h : ofSource .standard name source = .ok c) :
    ∀ r ∈ c.rules, ∀ i ∈ r.actions, i.action.isHost = false := by
  intro r hr i hi
  obtain ⟨token, params, hmade⟩ := built h hr i hi
  exact (Registry.drawnFrom_of_standard hmade).notHost

end Actions

end Moderation
