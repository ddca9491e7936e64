import Moderation.Service.Configuration
import Moderation.Proofs.Failure
import Moderation.Proofs.Points.Scoreboard

/-!
Putting a configuration in force. Every step that may fail stands before the first one that writes, so a
configuration is in force as a whole or the service is what it was.
-/

namespace Moderation

theorem Templates.get?_set (t : Templates) (name text key : String) :
    (t.set name text).get? key = if key = name.asciiLower then some text else t.get? key :=
  Points.Scoreboard.lookup_cons_filter name.asciiLower key text t.entries

def lastUnder (messages : List (String × String)) (key : String) : Option String :=
  (messages.reverse.find? fun m => m.1.asciiLower == key).map Prod.snd

theorem Templates.get?_merge (t : Templates) (messages : List (String × String)) (key : String) :
    (t.merge messages).get? key = (lastUnder messages key).or (t.get? key) := by
  induction messages generalizing t with
  | nil => rfl
  | cons m rest ih =>
    have hstep : t.merge (m :: rest) = (t.set m.1 m.2).merge rest := rfl
    rw [hstep, ih, Templates.get?_set]
    simp only [lastUnder, List.reverse_cons, List.find?_append, List.find?_cons, List.find?_nil]
    cases rest.reverse.find? (fun m => m.1.asciiLower == key) with
    | some found => simp
    | none =>
      by_cases hkey : key = m.1.asciiLower
      · simp [hkey]
      · have hne : (m.1.asciiLower == key) = false := beq_false_of_ne fun h => hkey h.symm
        simp [hkey, hne]

theorem Config.interval_ne_zero {c : Config} (h : c.check = .ok ()) :
    c.points.leak.rate.interval ≠ 0 := by
  intro hzero
  have hsecs : c.points.leak.intervalSecs = 0 := by
    rcases Nat.mul_eq_zero.1 hzero with hsecs | hthousand
    · exact hsecs
    · cases hthousand
  have hleak : ∃ fault, Config.checkLeak c.points.leak = .error fault := by
    unfold Config.checkLeak
    split
    · exact ⟨_, rfl⟩
    · exact ⟨_, rfl⟩
  obtain ⟨fault, hfault⟩ := hleak
  rw [Config.check, hfault] at h
  cases h

namespace Service

structure Accepts (s : Service) (c : Config) : Prop where
  check : c.check = .ok ()
  scoring : c.points.enabled = true →
    s.hasRuntime = true ∧ ∃ table, buildTable s.registry c.points.thresholds = .ok table

inductive Rescored (s : Service) (c : Config) : Scores → Prop
  | on {table : ThresholdTable} : c.points.enabled = true → s.hasRuntime = true →
    buildTable s.registry c.points.thresholds = .ok table →
    Rescored s c (s.scores.enable c.points.leak.rate table s.now)
  | off : c.points.enabled = false → Rescored s c s.scores.disable

theorem Rescored.enabled_eq {s : Service} {c : Config} {scores : Scores} (h : s.Rescored c scores) :
    scores.enabled = c.points.enabled := by
  cases h with
  | on henabled _ _ => exact henabled.symm
  | off henabled => exact henabled.symm

namespace Change

section Steps

variable {α β : Type}

theorem outcome_bind (x : Change α) (f : α → Change β) (s : Service) :
    (x >>= f).outcome s =
      match x.outcome s with
      | (.ok a, s') => (f a).outcome s'
      | (.error e, s') => (.error e, s') := by
  have hbind : (x >>= f).outcome s =
      match x.outcome s with
      | (r, s') => (ExceptT.bindCont f r).run s' := rfl
  rw [hbind]
  obtain ⟨r, s'⟩ := x.outcome s
  cases r <;> rfl

theorem outcome_get (s : Service) : outcome get s = (.ok s, s) := rfl

theorem outcome_modify (f : Service → Service) (s : Service) :
    outcome (modify f) s = (.ok (), f s) := rfl

theorem outcome_ofExcept (x : Except ConfigError α) (s : Service) :
    outcome (ofExcept x) s = (x, s) := by
  cases x <;> rfl

theorem outcome_require (condition : Bool) (e : ConfigError) (s : Service) :
    outcome (require condition e) s = (if condition then .ok () else .error e, s) := by
  cases condition <;> rfl

end Steps

theorem outcome_enableScoring (s : Service) (leak : Points.LeakRate Float) (table : ThresholdTable)
    (hinterval : leak.interval ≠ 0) :
    (enableScoring leak table).outcome s =
      if s.hasRuntime = true then (.ok (), { s with scores := s.scores.enable leak table s.now })
      else (.error .noRuntime, s) := by
  unfold enableScoring
  simp only [outcome_bind, outcome_get, outcome_require, outcome_modify]
  by_cases hruntime : s.hasRuntime = true
  · simp [hruntime, hinterval]
  · simp [hruntime]

theorem outcome_configure (s : Service) (c : Config) :
    (¬s.Accepts c ∧ ∃ e, (configure c).outcome s = (.error e, s)) ∨
      s.Accepts c ∧ ∃ scores, s.Rescored c scores ∧
        (configure c).outcome s = (.ok (), { s with
          scores := scores
          templates := Templates.standard.merge c.messages
          config := c }) := by
  unfold configure
  rw [outcome_bind, outcome_ofExcept]
  cases hcheck : c.check with
  | error fault =>
    refine .inl ⟨?_, .invalid fault, rfl⟩
    rintro ⟨hok, -⟩
    rw [hcheck] at hok
    cases hok
  | ok _ =>
    dsimp only [Except.mapError]
    by_cases henabled : c.points.enabled = true
    · simp only [henabled, if_true, outcome_bind, outcome_get, outcome_ofExcept]
      cases htable : buildTable s.registry c.points.thresholds with
      | error e =>
        refine .inl ⟨?_, e, rfl⟩
        rintro ⟨-, hscoring⟩
        obtain ⟨-, table, hbuilt⟩ := hscoring henabled
        rw [htable] at hbuilt
        cases hbuilt
      | ok table =>
        simp only [outcome_enableScoring s c.points.leak.rate table (Config.interval_ne_zero hcheck)]
        by_cases hruntime : s.hasRuntime = true
        · rw [if_pos hruntime]
          exact .inr ⟨⟨hcheck, fun _ => ⟨hruntime, table, htable⟩⟩, _,
            .on henabled hruntime htable, rfl⟩
        · rw [if_neg hruntime]
          exact .inl ⟨fun haccepts => hruntime (haccepts.scoring henabled).1, .noRuntime, rfl⟩
    · rw [if_neg henabled]
      exact .inr ⟨⟨hcheck, fun h => absurd h henabled⟩, _, .off (Bool.eq_false_iff.2 henabled), rfl⟩

/-- A configuration that is refused leaves the service as it was. One that is accepted is in force with its
messages over the standard ones, and scoring is on if and only if it says so. It is accepted if its values
are in order and, for scoring, there is a runtime and all actions at thresholds can be built. -/
theorem configure_all_or_nothing (s : Service) (c : Config) :
    (match (configure c).outcome s with
      | (.error _, s') => s' = s
      | (.ok _, s') =>
        s'.config = c ∧
          (∀ key, s'.templates.get? key = (lastUnder c.messages key).or (Templates.standard.get? key)) ∧
          s'.scores.enabled = c.points.enabled) ∧
      (((configure c).outcome s).1.isOk = true ↔ s.Accepts c) := by
  rcases outcome_configure s c with ⟨hrefused, e, he⟩ | ⟨haccepted, scores, hscores, hok⟩
  · rw [he]
    exact ⟨rfl, fun h => Bool.noConfusion h, fun h => absurd h hrefused⟩
  · rw [hok]
    refine ⟨⟨rfl, fun key => ?_, hscores.enabled_eq⟩, fun _ => haccepted, fun _ => rfl⟩
    exact Templates.get?_merge Templates.standard c.messages key

end Change

theorem rescored_of_applyConfig {s s' : Service} {c : Config} (h : s.applyConfig c = .ok s') :
    s.Rescored c s'.scores := by
  unfold applyConfig changed at h
  rcases Change.outcome_configure s c with ⟨-, e, he⟩ | ⟨-, scores, hscores, hok⟩
  · rw [he] at h
    cases h
  · rw [hok] at h
    obtain rfl := Except.ok.inj h
    exact hscores

end Service

end Moderation
