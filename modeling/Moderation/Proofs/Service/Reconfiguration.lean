import Moderation.Proofs.Points.Standstill
import Moderation.Proofs.Service.Release

/-!
Reconfiguring while scores are on. Every record stays as it is stored, but what has leaked since its last
change is from then on read at the new rate. A score reads as before exactly if that comes to the same at
both rates: at any time if the rate stays, and up to the sign of zero if nothing is pending.
-/

namespace Moderation.Service

open Points

variable {s s' : Service} {c : Config}

theorem now_of_applyConfig (h : s.applyConfig c = .ok s') : s'.now = s.now := by
  unfold applyConfig changed at h
  rcases Change.outcome_configure s c with ⟨-, e, he⟩ | ⟨-, scores, -, hok⟩
  · rw [he] at h
    cases h
  · rw [hok] at h
    obtain rfl := Except.ok.inj h
    rfl

theorem rescored_on (henabled : c.points.enabled = true) (h : s.applyConfig c = .ok s') :
    ∃ table, s'.scores = s.scores.enable c.points.leak.rate table s.now := by
  have hrescored := rescored_of_applyConfig h
  generalize s'.scores = scores at hrescored ⊢
  cases hrescored with
  | on _ _ _ => exact ⟨_, rfl⟩
  | off hoff => rw [henabled] at hoff; cases hoff

theorem points_of_applyConfig (henabled : c.points.enabled = true) (h : s.applyConfig c = .ok s')
    (id : String) :
    s'.now = s.now ∧ s'.scores.find? id = s.scores.find? id ∧
      (s'.points id = s.points id ↔ ∀ e, s.scores.find? id = some e →
        e.record.leaked c.points.leak.rate s.now = e.record.leaked s.scores.settings.leak s.now) ∧
      (c.points.leak.rate = s.scores.settings.leak →
        ∀ t, s'.scores.points id t = s.scores.points id t) ∧
      ((∀ e, s.scores.find? id = some e → e.record.lastUpdate = s.now) →
        isSame (s'.points id) (s.points id) = true) := by
  obtain ⟨table, hscores⟩ := rescored_on henabled h
  have hnow := now_of_applyConfig h
  have hfind : s'.scores.find? id = s.scores.find? id := by rw [hscores]; rfl
  have hafter : ∀ t, s'.scores.points id t =
      (s.scores.find? id).elim Scalar.zero fun e => e.record.leaked c.points.leak.rate t := by
    intro t
    rw [hscores]
    rfl
  refine ⟨hnow, hfind, ?_, fun hrate t => ?_, fun htouched => ?_⟩
  · rw [points, points, hnow, hafter, Scoreboard.points]
    cases s.scores.find? id with
    | none => simp
    | some e => simp
  · rw [hafter, hrate]
    rfl
  · rw [points, points, hnow, hafter, Scoreboard.points]
    cases hentry : s.scores.find? id with
    | none => exact isSame_of_isZero isZero_zero isZero_zero
    | some e =>
      rw [← htouched e hentry]
      exact e.record.isSame_leaked _ _

def slowConfig : Config := { points := { enabled := true, leak := ⟨1, 10⟩ } }

def halfLeaked : List Call :=
  [.add ⟨"steve", "steve", fun _ => false, fun _ _ => .ok ()⟩ "" 10, .advance 5000]

theorem exists_of_tells {config : Config} {calls : List Call} {test : Service → History → Bool}
    (h : tells config calls test = true) :
    ∃ s h, (Service.initial .empty .none .log true).applyConfig config = .ok s ∧
      History.performAll calls (.opening s) = some h ∧ test s h = true := by
  obtain ⟨s, hs, h⟩ := (Option.any_eq_true _ _).1 h
  obtain ⟨h, hh, htest⟩ := (Option.any_eq_true _ _).1 h
  exact ⟨s, h, ok_of_toOption hs, hh, htest⟩

/-- Half an interval costs half a point as long as the slow rate is in force, and five points once the fast
one is. -/
theorem points_of_applyConfig_halfLeaked :
    ∃ s h s', (Service.initial .empty .none .log true).applyConfig slowConfig = .ok s ∧
      History.performAll halfLeaked (.opening s) = some h ∧
      leakyConfig.points.enabled = true ∧ h.service.applyConfig leakyConfig = .ok s' ∧
      s'.now = h.service.now ∧ s'.scores.find? "steve" = h.service.scores.find? "steve" ∧
      h.service.points "steve" = 9.5 ∧ s'.points "steve" = 5 := by
  have htells : tells slowConfig halfLeaked (fun _ h =>
      (h.service.applyConfig leakyConfig).toOption.any fun s' =>
        h.service.points "steve" = 9.5 && s'.points "steve" = 5) = true := by decide +kernel
  obtain ⟨s, h, hs, hh, htest⟩ := exists_of_tells htells
  obtain ⟨s', hs', hpoints⟩ := (Option.any_eq_true _ _).1 htest
  obtain ⟨hbefore, hafter⟩ := (Bool.and_eq_true _ _).mp hpoints
  obtain ⟨hnow, hfind, -⟩ := points_of_applyConfig rfl (ok_of_toOption hs') "steve"
  exact ⟨s, h, s', hs, hh, rfl, ok_of_toOption hs', hnow, hfind, of_decide_eq_true hbefore,
    of_decide_eq_true hafter⟩

end Moderation.Service
