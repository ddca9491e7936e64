import Moderation.Proofs.Evaluation.Stack

namespace Moderation

open Points

variable {thresholds : List (Threshold Float Action)} {table : ThresholdTable}

theorem Action.quiet_of (h : AllActions table fun a => a.addsPoints = false)
    (h' : AllActions table Action.KeepsAuthor) : AllActions table Action.Quiet := fun t ht =>
  ⟨fun a ha => ⟨(h t ht).1 a ha, (h' t ht).1 a ha⟩, fun a ha => ⟨(h t ht).2 a ha, (h' t ht).2 a ha⟩⟩

theorem firings_of_count {up down : Nat} {reached : Prop} [Decidable reached]
    (h : up = down + if reached then 1 else 0) : (up : ℤ) - down = if reached then 1 else 0 := by
  split_ifs at h ⊢ <;> omega

theorem last_ascending_iff {ds : List Direction} {reached : Prop} [Decidable reached]
    (h : ds.getLast?.getD .descending = if reached then .ascending else .descending) :
    ds.getLast? = some .ascending ↔ reached := by
  cases hlast : ds.getLast? with
  | none =>
    rw [hlast] at h
    split_ifs at h <;> simp_all
  | some d =>
    rw [hlast] at h
    split_ifs at h <;> simp_all

theorem World.opening_firedFor (leak : LeakRate Float) (table : ThresholdTable) (start : Time)
    (id : String) : (World.opening leak table start).firedFor id = [] := rfl

theorem World.orderly_opening (leak : LeakRate Float) (ht : table.Valid)
    (hkeeps : AllActions table Action.KeepsAuthor) (start : Time) : (World.opening leak table start).Orderly :=
  ⟨⟨ht, Nat.lt_succ_self _, fun _ _ h => by cases h⟩, hkeeps⟩

theorem World.opening_standing (leak : LeakRate Float) (ht : table.Valid) (start : Time) (id : String) :
    (World.opening leak table start).scores.standing id = 0 :=
  Table.level_zero ht

theorem fired_once_per_crossing (hofList : Table.ofList thresholds = .ok table)
    (hpoints : AllActions table fun a => a.addsPoints = false)
    (hkeeps : AllActions table Action.KeepsAuthor) (leak : LeakRate Float) (start : Time)
    (calls : List (Environment × ScoreCall)) :
    ∃ w h, runCalls calls (.opening leak table start) = some w ∧ Recounts calls (.opening leak table start) h w ∧
      ∀ id place threshold, table.get? place = some threshold →
        Alternates .ascending (passages place (w.firedFor id)) ∧
        ((passages place (w.firedFor id)).count .ascending : ℤ) -
            (passages place (w.firedFor id)).count .descending =
          if threshold.points ≤ w.scores.stored id then 1 else 0 := by
  have hvalid := Table.valid_of_ofList hofList
  obtain ⟨w, hw, hproceeds⟩ := runCalls_quiet calls (consistent_opening leak hvalid start)
    (Action.quiet_of hpoints hkeeps)
  obtain ⟨h, hrecounts, -⟩ := exists_follows (World.orderly_opening leak hvalid hkeeps start) hw
  refine ⟨w, h, hw, hrecounts, fun id place threshold hp => ?_⟩
  obtain ⟨fired, hwalk, hfired⟩ := hproceeds.authors id
  rw [World.opening_firedFor, List.nil_append] at hfired
  subst hfired
  have hreached := lt_level_iff_stored (hproceeds.consistent (consistent_opening leak hvalid start)) id
    ((congrArg (·.get? place) hproceeds.table).trans hp)
  have halt := hwalk.alternates place
  have hcount := hwalk.count_passages place
  have hopening : (World.opening leak table start).scores.level id = 0 := rfl
  simp only [hopening, Nat.not_lt_zero, if_false, Nat.add_zero, hreached] at halt hcount
  exact ⟨halt, firings_of_count hcount⟩

def plainEnvironment (now : Time) : Environment := ⟨.none, .standard, .log, now, 1⟩

def pointsFor (id : String) (delta : Float) (now : Time) : Environment × ScoreCall :=
  (plainEnvironment now, .add (.blank ⟨id, id, fun _ => false, fun _ _ => .ok ()⟩) delta)

theorem eq_after {calls : List (Environment × ScoreCall)} {before after : World} {γ : Type} {c : γ}
    (h : runCalls calls before = some after) (f : World → γ)
    (hf : (runCalls calls before).map f = some c) : f after = c := by
  rw [h] at hf
  exact Option.some.inj hf

def twoSteps : List (Threshold Float Action) :=
  [⟨"five", 5, [.deny], []⟩, ⟨"ten", 10, [.penalize .kick none], [.console "calm again"]⟩]

theorem ofList_twoSteps : Table.ofList twoSteps = .ok ⟨twoSteps⟩ :=
  Table.ofList_of_ascending (by decide +kernel) (by decide +kernel) (by decide +kernel)

theorem fired_once_per_crossing_twoSteps :
    ∃ w, runCalls [pointsFor "steve" 20 0, (plainEnvironment 600000, .tick ["steve"]),
        pointsFor "steve" 7 600000] (.opening .standard ⟨twoSteps⟩ 0) = some w ∧
      passages 0 (w.firedFor "steve") = [.ascending, .descending, .ascending] ∧
      ((passages 0 (w.firedFor "steve")).count .ascending : ℤ) -
          (passages 0 (w.firedFor "steve")).count .descending =
        if (5 : Float) ≤ w.scores.stored "steve" then 1 else 0 := by
  obtain ⟨w, -, hw, -, hfired⟩ := fired_once_per_crossing ofList_twoSteps
    (by simp [AllActions, twoSteps, Action.addsPoints])
    (by simp [AllActions, twoSteps, Action.KeepsAuthor]) .standard 0
    [pointsFor "steve" 20 0, (plainEnvironment 600000, .tick ["steve"]),
      pointsFor "steve" 7 600000]
  have hpassages : passages 0 (w.firedFor "steve") = [.ascending, .descending, .ascending] :=
    eq_after hw (fun w => passages 0 (w.firedFor "steve")) (by decide +kernel)
  exact ⟨w, hw, hpassages, (hfired "steve" 0 _ rfl).2⟩

/-- With points actions at thresholds the score crosses every threshold in turns as well. The set of each crossing is
run once, and those of the last crossings first: while sets are waiting, the sets of what is crossed meanwhile are
run, with all that they set off, before the others. -/
theorem fired_in_stacks_of_crossings (hofList : Table.ofList thresholds = .ok table)
    (hkeeps : AllActions table Action.KeepsAuthor) {leak : LeakRate Float} {start : Time}
    {calls : List (Environment × ScoreCall)} {w : World}
    (hrun : runCalls calls (.opening leak table start) = some w) :
    ∃ h, Recorded.runCalls calls (.opening leak table start) = some (w, h) ∧ WorksOff table [] h [] ∧
      (∀ before id cs after, h = before ++ .crossed id cs :: after →
        ∃ waiting during later, after = during ++ later ∧ WorksOff table [] before waiting ∧
          WorksOff table (cs.map (.set id)) during [] ∧ WorksOff table waiting later []) ∧
      ∀ id, begunFor id h = w.firedFor id ∧ (crossedFor id h).Perm (w.firedFor id) ∧
        Walk 0 (crossedFor id h) (w.scores.standing id) ∧
        ∀ place threshold, table.get? place = some threshold →
          Alternates .ascending (passages place (crossedFor id h)) ∧
          ((passages place (crossedFor id h)).getLast? = some .ascending ↔
            threshold.points ≤ w.scores.stored id) ∧
          ((passages place (w.firedFor id)).count .ascending : ℤ) -
              (passages place (w.firedFor id)).count .descending =
            if threshold.points ≤ w.scores.stored id then 1 else 0 := by
  have hvalid := Table.valid_of_ofList hofList
  obtain ⟨h, hrecounts, hfollows⟩ := exists_follows (World.orderly_opening leak hvalid hkeeps start) hrun
  refine ⟨h, hrecounts.recorded, hrecounts.stack, ?_, fun id => ?_⟩
  · rintro before id cs after rfl
    exact hrecounts.stack.last_in_first_out
  · have hbegun : begunFor id h = w.firedFor id := (hrecounts.logged id).symm
    have hwalk := hfollows.tells.walks id
    rw [World.opening_standing leak hvalid start id] at hwalk
    have hperm : (crossedFor id h).Perm (w.firedFor id) := by
      simpa [waitingFor, hbegun] using hrecounts.stack.perm id
    refine ⟨hbegun, hperm, hwalk, fun place threshold hp => ?_⟩
    have hget : w.scores.table.get? place = some threshold := (congrArg (·.get? place) hfollows.table).trans hp
    have hreached := Scoreboard.lt_standing_iff hfollows.orderly.kept.valid id hget
    have halt := hwalk.alternates place
    have hlast := hwalk.getLast?_passages place
    have hcount := hwalk.count_passages place
    simp only [Nat.not_lt_zero, if_false, Nat.add_zero, hreached] at halt hlast hcount
    have hpassages : (passages place (crossedFor id h)).Perm (passages place (w.firedFor id)) :=
      (hperm.filter _).map _
    rw [hpassages.count_eq, hpassages.count_eq] at hcount
    exact ⟨halt, last_ascending_iff hlast, firings_of_count hcount⟩

def stumble : List (Threshold Float Action) :=
  [⟨"five", 5, [.points (-100)], []⟩, ⟨"ten", 10, [], []⟩]

theorem ofList_stumble : Table.ofList stumble = .ok ⟨stumble⟩ :=
  Table.ofList_of_ascending (by decide +kernel) (by decide +kernel) (by decide +kernel)

theorem fired_in_stacks_of_crossings_stumble :
    ∃ w h, runCalls [pointsFor "steve" 20 0] (.opening .standard ⟨stumble⟩ 0) = some w ∧
      Recorded.runCalls [pointsFor "steve" 20 0] (.opening .standard ⟨stumble⟩ 0) = some (w, h) ∧
      crossedFor "steve" h = [.up 0, .up 1, .down 1, .down 0] ∧
      w.firedFor "steve" = [.up 0, .down 1, .down 0, .up 1] ∧ WorksOff ⟨stumble⟩ [] h [] ∧
      ((passages 1 (w.firedFor "steve")).count .ascending : ℤ) -
          (passages 1 (w.firedFor "steve")).count .descending =
        if (10 : Float) ≤ w.scores.stored "steve" then 1 else 0 := by
  obtain ⟨w, hw⟩ : ∃ w, runCalls [pointsFor "steve" 20 0] (.opening .standard ⟨stumble⟩ 0) = some w :=
    Option.isSome_iff_exists.1 (by decide +kernel)
  obtain ⟨h, hrecorded, hstack, -, hfired⟩ := fired_in_stacks_of_crossings ofList_stumble
    (by simp [AllActions, stumble, Action.KeepsAuthor]) hw
  have hcrossed : (Recorded.runCalls [pointsFor "steve" 20 0] (.opening .standard ⟨stumble⟩ 0)).map
      (fun r => (crossedFor "steve" r.2, r.1.firedFor "steve")) =
        some ([.up 0, .up 1, .down 1, .down 0], [.up 0, .down 1, .down 0, .up 1]) := by decide +kernel
  rw [hrecorded] at hcrossed
  obtain ⟨hcrossed, hlogged⟩ := Prod.mk.inj (Option.some.inj hcrossed)
  obtain ⟨-, -, -, hplaces⟩ := hfired "steve"
  exact ⟨w, h, hw, hrecorded, hcrossed, hlogged, hstack, (hplaces 1 _ rfl).2.2⟩

/-- The set that waits is run last, after the one for the way down, though the score stays below. -/
theorem stumble_fires_out_of_turn :
    Table.ofList stumble = .ok ⟨stumble⟩ ∧
    ∃ w, runCalls [pointsFor "steve" 20 0] (.opening .standard ⟨stumble⟩ 0) = some w ∧
      ¬Alternates .ascending (passages 1 (w.firedFor "steve")) ∧
      (passages 1 (w.firedFor "steve")).getLast? = some .ascending ∧
      ¬(10 : Float) ≤ w.scores.stored "steve" := by
  refine ⟨ofList_stumble, ?_⟩
  obtain ⟨w, hw⟩ : ∃ w, runCalls [pointsFor "steve" 20 0] (.opening .standard ⟨stumble⟩ 0) = some w :=
    Option.isSome_iff_exists.1 (by decide +kernel)
  have hpassages : passages 1 (w.firedFor "steve") = [.descending, .ascending] :=
    eq_after hw (fun w => passages 1 (w.firedFor "steve")) (by decide +kernel)
  have hstored : decide ((10 : Float) ≤ w.scores.stored "steve") = false :=
    eq_after hw (fun w => decide ((10 : Float) ≤ w.scores.stored "steve")) (by decide +kernel)
  refine ⟨w, hw, ?_, ?_, of_decide_eq_false hstored⟩
  · rw [hpassages]
    exact fun h => Direction.noConfusion h.1
  · rw [hpassages]
    rfl

end Moderation
