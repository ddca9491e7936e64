import Moderation.Proofs.Evaluation.Requests
import Moderation.Proofs.Points.Course

namespace Moderation

open Points

def fireApart (fire : Firing) (table : ThresholdTable) (a : Author) : List Crossing → World → Option World
  | [], w => some w
  | c :: rest, w => (fireSet fire table c ⟨.blank a, w⟩).bind fun s => fireApart fire table a rest s.world

theorem fireCrossing_of_not_up (fire : Firing) (table : ThresholdTable) {c : Crossing} (h : ∀ i, .up i ≠ c)
    (s : Stage) : fireCrossing fire table c s =
      (fireSet fire table c ⟨.blank s.context.author, s.world⟩).map fun t => ⟨s.context, t.world⟩ := by
  cases c with
  | up i => exact absurd rfl (h i)
  | down i => rfl

theorem fireAll_of_not_up (fire : Firing) (table : ThresholdTable) {cs : List Crossing} (h : ∀ i, .up i ∉ cs)
    (s : Stage) : fireAll fire table cs s =
      (fireApart fire table s.context.author cs s.world).map fun w => ⟨s.context, w⟩ := by
  induction cs generalizing s with
  | nil => rfl
  | cons c rest ih =>
    have hfirst : ∀ i, .up i ≠ c := fun i heq => h i (heq ▸ List.mem_cons_self)
    have hrest : ∀ i, .up i ∉ rest := fun i hmem => h i (List.mem_cons_of_mem c hmem)
    rw [fireAll, fireCrossing_of_not_up fire table hfirst, Option.bind_map, fireApart, Option.map_bind]
    exact Option.bind_congr fun t _ => ih hrest ⟨s.context, t.world⟩

/-- Points that lead to no threshold above the score that there was, and so all points that are not above zero,
leave the message at hand as it was, whatever the sets of thresholds do and set off. What is left is met from the
stored score down to the new one, and every set has a blank message of the author for itself. -/
theorem losses_spare_message {fire : Firing} {now : Time} {delta total : Float} {s s' : Stage}
    (hkept : s.world.scores.WellKept) (hrun : addPointsWith fire now delta s = some (total, s'))
    (hloss : delta ≤ 0 ∨ ∀ t ∈ s.world.scores.table.sorted,
      s.world.scores.points s.context.author.id now < t.points → ¬t.points ≤ total) :
    s'.context = s.context ∧
      (s.world.scores.enabled = true →
        fireApart fire s.world.scores.table s.context.author
          (s.world.scores.table.falls (s.world.scores.stored s.context.author.id) total)
          (s.world.add s.context.author delta now) = some s'.world) := by
  cases henabled : s.world.scores.enabled with
  | false =>
    rw [addPointsWith_of_disabled henabled] at hrun
    obtain ⟨-, rfl⟩ := Prod.mk.inj (Option.some.inj hrun)
    exact ⟨rfl, fun h => Bool.noConfusion h⟩
  | true =>
    rw [addPointsWith_eq henabled] at hrun
    obtain ⟨t, hall, heq⟩ := Option.map_eq_some_iff.1 hrun
    obtain ⟨rfl, rfl⟩ := Prod.mk.inj heq
    have hnone : ∀ i, .up i ∉ (s.world.scores.add s.context.author delta now).2.1 := by
      rcases hloss with hdelta | hbelow
      · exact hkept.not_up_of_nonpos s.context.author hdelta now
      · exact (hkept.not_up_iff s.context.author delta now).2 hbelow
    rw [fireAll_of_not_up fire _ hnone] at hall
    obtain ⟨w, hapart, rfl⟩ := Option.map_eq_some_iff.1 hall
    rw [hkept.crossed_eq_falls hnone] at hapart
    exact ⟨rfl, fun _ => hapart⟩

def rebound : List (Threshold Float Action) :=
  [⟨"five", 5, [.restate "up again"], [.deny, .abort, .log, .restate "down", .replace "x", .points 7,
    .penalize .warn (some "careful")]⟩]

theorem ofList_rebound : Table.ofList rebound = .ok ⟨rebound⟩ :=
  Table.ofList_of_ascending (by decide +kernel) (by decide +kernel) (by decide +kernel)

theorem losses_spare_message_rebound :
    let steve : Author := ⟨"steve", "steve", fun _ => false, fun _ _ => .ok ()⟩
    let message : Context := { Context.ofString steve "hello" with matchedLines := [3], notes := ["seen"] }
    ∃ w total s', runRequests [(plainEnvironment 0, .enable .standard rebound),
        (plainEnvironment 0, .call (pointsFor "steve" 6 0).2)] .initial = some w ∧
      addPoints (plainEnvironment 30000) (-2) ⟨message, w⟩ = some (total, s') ∧ s'.context = message ∧
      s'.world.firedFor "steve" = [.up 0, .down 0, .up 0] := by
  intro steve message
  have htells : (runRequests [(plainEnvironment 0, .enable .standard rebound),
      (plainEnvironment 0, .call (pointsFor "steve" 6 0).2)] .initial).any (fun w =>
        (addPoints (plainEnvironment 30000) (-2) ⟨message, w⟩).any fun r =>
          decide (r.2.world.firedFor "steve" = [.up 0, .down 0, .up 0])) = true := by
    have henable := World.enable_eq .standard ofList_rebound (by decide)
    simp only [runRequests, ScoreRequest.perform, henable]
    decide +kernel
  obtain ⟨w, hw, hadded⟩ := (Option.any_eq_true _ _).1 htells
  obtain ⟨⟨total, s'⟩, hrun, hfired⟩ := (Option.any_eq_true _ _).1 hadded
  have hspared := losses_spare_message (s := ⟨message, w⟩) (wellKept_of_runRequests hw) hrun
    (.inl (by decide +kernel))
  exact ⟨w, total, s', hw, hrun, hspared.1, of_decide_eq_true hfired⟩

end Moderation
