import Moderation.Proofs.Evaluation.Order
import Moderation.Proofs.Points.Course

namespace Moderation

open Points

inductive ScoreCall where
  | add (message : Context) (delta : Float)
  | tick (order : List String)

def ScoreCall.perform (env : Environment) (w : World) : ScoreCall → Option World
  | .add message delta => (addPoints env delta ⟨message, w⟩).map (·.2.world)
  | .tick order => if w.scores.enabled then leakEach env order w else some w

def runCalls : List (Environment × ScoreCall) → World → Option World
  | [], w => some w
  | (env, call) :: rest, w => (call.perform env w).bind (runCalls rest)

theorem runCalls_eq_foldlM (calls : List (Environment × ScoreCall)) (w : World) :
    runCalls calls w = calls.foldlM (fun w c => c.2.perform c.1 w) w :=
  eq_foldlM (fun _ => rfl) (fun _ _ _ => rfl) calls w

/-- The tick of the clock leaks the records in the order in which they are kept. -/
theorem leakAll_eq_tick (env : Environment) (w : World) :
    leakAll env w = (ScoreCall.tick w.scores.ids).perform env w := rfl

def World.opening (leak : LeakRate Float) (table : ThresholdTable) (start : Time) : World :=
  ⟨Scoreboard.initial.enable leak table start, []⟩

theorem consistent_opening (leak : LeakRate Float) {table : ThresholdTable} (ht : table.Valid)
    (start : Time) : (World.opening leak table start).scores.Consistent :=
  ⟨ht, fun _ _ h => by cases h⟩

structure World.Proceeds (w w' : World) : Prop where
  enabled : w'.scores.enabled = w.scores.enabled
  settings : w'.scores.settings = w.scores.settings
  consistent : w.scores.Consistent → w'.scores.Consistent
  authors : ∀ id, ∃ fired, Walk (w.scores.level id) fired (w'.scores.level id) ∧
    w'.firedFor id = w.firedFor id ++ fired

namespace World.Proceeds

theorem refl (w : World) : w.Proceeds w :=
  ⟨rfl, rfl, fun h => h, fun _ => ⟨[], .stay _, (List.append_nil _).symm⟩⟩

theorem trans {u v w : World} (h : u.Proceeds v) (h' : v.Proceeds w) : u.Proceeds w where
  enabled := h'.enabled.trans h.enabled
  settings := h'.settings.trans h.settings
  consistent hu := h'.consistent (h.consistent hu)
  authors id := by
    obtain ⟨fired, hwalk, hfired⟩ := h.authors id
    obtain ⟨fired', hwalk', hfired'⟩ := h'.authors id
    exact ⟨fired ++ fired', hwalk.append hwalk', by rw [hfired', hfired, List.append_assoc]⟩

theorem of_advances {w w' : World} {id : String} {cs : List Crossing} (h : w.Advances id cs cs w') :
    w.Proceeds w' where
  enabled := h.moves.enabled
  settings := h.moves.settings
  consistent := h.consistent
  authors id' := by
    by_cases hid : id' = id
    · subst hid
      exact ⟨cs, h.moves.walk, h.fired⟩
    · have hlevel : w'.scores.level id' = w.scores.level id' := by
        rw [Scoreboard.level, h.moves.others id' hid, Scoreboard.level]
      exact ⟨[], hlevel ▸ .stay _, by rw [h.others id' hid, List.append_nil]⟩

theorem table {w w' : World} (h : w.Proceeds w') : w'.scores.table = w.scores.table :=
  congrArg (·.installed.table) h.settings

end World.Proceeds

section Quiet

theorem leakEach_quiet (env : Environment) (order : List String) {w : World}
    (hw : w.scores.Consistent) (ht : AllActions w.scores.table Action.Quiet) :
    ∃ w', leakEach env order w = some w' ∧ w.Proceeds w' := by
  induction order generalizing w with
  | nil => exact ⟨w, rfl, .refl w⟩
  | cons id rest ih =>
    obtain ⟨v, cs, hv, hadv⟩ := leakOne_quiet env id hw ht
    obtain ⟨u, hu, hvu⟩ := ih (hadv.consistent hw) (hadv.table ▸ ht)
    exact ⟨u, by simp [leakEach, hv, hu], (World.Proceeds.of_advances hadv).trans hvu⟩

theorem perform_quiet (env : Environment) (call : ScoreCall) {w : World} (hw : w.scores.Consistent)
    (ht : AllActions w.scores.table Action.Quiet) :
    ∃ w', call.perform env w = some w' ∧ w.Proceeds w' := by
  cases call with
  | add message delta =>
    obtain ⟨r, cs, hr, hadv⟩ := addPoints_quiet env delta (s := ⟨message, w⟩) hw ht
    exact ⟨r.2.world, by simp [ScoreCall.perform, hr], .of_advances hadv.world⟩
  | tick order =>
    simp only [ScoreCall.perform]
    split
    · exact leakEach_quiet env order hw ht
    · exact ⟨w, rfl, .refl w⟩

theorem runCalls_quiet (calls : List (Environment × ScoreCall)) {w : World}
    (hw : w.scores.Consistent) (ht : AllActions w.scores.table Action.Quiet) :
    ∃ w', runCalls calls w = some w' ∧ w.Proceeds w' := by
  induction calls generalizing w with
  | nil => exact ⟨w, rfl, .refl w⟩
  | cons first rest ih =>
    obtain ⟨v, hv, hwv⟩ := perform_quiet first.1 first.2 hw ht
    obtain ⟨u, hu, hvu⟩ := ih (hwv.consistent hw) (hwv.table ▸ ht)
    exact ⟨u, by simp [runCalls, hv, hu], hwv.trans hvu⟩

end Quiet

theorem lt_level_iff_stored {b : Scores} (hb : b.Consistent) (id : String) {place : Nat}
    {h : Threshold Float Action} (hp : b.table.get? place = some h) :
    place < b.level id ↔ h.points ≤ b.stored id := by
  rw [hb.level_eq]
  exact Scoreboard.lt_standing_iff hb.valid id hp

end Moderation
