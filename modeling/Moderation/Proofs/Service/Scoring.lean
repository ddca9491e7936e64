import Moderation.Proofs.Service.Session
import Moderation.Proofs.Evaluation.Switch

namespace Moderation

open Points

namespace Points.Scoreboard

structure InStep (b : Scores) : Prop where
  leaking : b.isLeaking = b.enabled
  idle : b.enabled = false → b.entries = []

inductive Changes (b : Scores) : Scores → Prop
  | stirred {b' : Scores} : b.Unswitched b' → Changes b b'
  | dropped (id : String) : Changes b (b.drop id)
  | enabled (leak : LeakRate Float) (table : ThresholdTable) (now : Time) :
    Changes b (b.enable leak table now)
  | disabled : Changes b b.disable

variable {b b' : Scores}

theorem inStep_initial : (initial : Scores).InStep := ⟨rfl, fun _ => rfl⟩

theorem InStep.changes (h : b.InStep) (hb : b.Changes b') : b'.InStep := by
  cases hb with
  | stirred hstirred =>
    refine ⟨?_, fun hoff => ?_⟩
    · rw [hstirred.leaking, hstirred.enabled, h.leaking]
    · have hbefore : b.enabled = false := hstirred.enabled.symm.trans hoff
      rw [hstirred.entries hbefore, h.idle hbefore]
  | dropped id =>
    refine ⟨h.leaking, fun hoff => ?_⟩
    rw [drop, h.idle hoff, List.filter_nil]
  | enabled leak table now => exact ⟨rfl, fun hoff => by cases hoff⟩
  | disabled => exact ⟨rfl, fun _ => rfl⟩

theorem Changes.entries_of_turned_on (h : b.Changes b') (hoff : b.enabled = false)
    (hon : b'.enabled = true) : b'.entries = b.entries := by
  cases h with
  | stirred hstirred => exact hstirred.entries hoff
  | dropped id => exact absurd (hoff.symm.trans hon) Bool.false_ne_true
  | enabled leak table now => rfl
  | disabled => cases hon

theorem points_of_entries (h : b.entries = []) (id : String) (now : Time) : b.points id now = 0 := by
  rw [points, find?, h]
  rfl

theorem entryFor_of_entries (h : b.entries = []) (author : Author) (now : Time) :
    b.entryFor author now = ⟨author, .fresh b.settings.installed now⟩ := by
  rw [entryFor, find?, h]
  rfl

end Points.Scoreboard

namespace Service

variable {s : Service}

theorem evaluate_of_off (h : s.scores.enabled = false) (name text : String) (author : Author) :
    ∃ r, s.evaluate name text author = some r ∧ r.service = s := by
  unfold evaluate
  cases s.chain? name with
  | none => exact ⟨_, rfl, rfl⟩
  | some chain =>
    obtain ⟨stage, m, hrun, hscores⟩ := execute_of_off s.environment
      (s := ⟨.ofString author text, s.world⟩) h chain
    refine ⟨_, congrArg (Option.map _) hrun, ?_⟩
    dsimp only
    rw [hscores]
    rfl

section Unswitched

theorem unswitched_evaluate {name text : String} {author : Author} {r : Reply Outcome}
    (h : s.evaluate name text author = some r) : s.scores.Unswitched r.service.scores := by
  unfold evaluate at h
  split at h
  · obtain rfl := Option.some.inj h
    exact .refl s.scores
  · obtain ⟨⟨stage, metrics⟩, hrun, rfl⟩ := Option.map_eq_some_iff.1 h
    exact unswitched_execute hrun

theorem unswitched_evaluateRouted {route : Route} {decolor : Bool} {text : String} {author : Author}
    {r : Reply Outcome} (h : s.evaluateRouted route decolor text author = some r) :
    s.scores.Unswitched r.service.scores := by
  unfold evaluateRouted at h
  dsimp only at h
  split at h
  · obtain ⟨r', hr', rfl⟩ := Option.map_eq_some_iff.1 h
    exact (unswitched_evaluate hr' : s.scores.Unswitched r'.service.scores)
  · exact unswitched_evaluate h

theorem scores_remembering (text : String) (remember : Bool) (id : String) :
    (s.remembering text remember id).scores = s.scores := by
  unfold remembering checkRepeat
  split
  · split <;> rfl
  · rfl

theorem unswitched_filter {kind : FilterKind} {text : String} {author : Author} {r : Reply Outcome}
    (h : s.filter kind text author = some r) : s.scores.Unswitched r.service.scores := by
  rw [filter_eq_carryOut] at h
  cases hverdict : s.verdict kind text author with
  | evaluated target remember =>
    rw [hverdict] at h
    obtain ⟨r', hr', rfl⟩ := Option.map_eq_some_iff.1 h
    have hrouted : Scoreboard.Unswitched _ r'.service.scores := unswitched_evaluateRouted hr'
    rwa [scores_remembering] at hrouted
  | _ =>
    rw [hverdict] at h
    obtain rfl := Option.some.inj h
    exact .refl s.scores

theorem unswitched_leak {r : Reply Unit} (h : s.leakAll = some r) :
    s.scores.Unswitched r.service.scores := by
  obtain ⟨w, hrun, rfl⟩ := Option.map_eq_some_iff.1 h
  exact unswitched_leakAll hrun

theorem unswitched_setTicker {b b' : Scores} {ticker ticker' : Ticker} (hticker : b.ticker = some ticker)
    (h : b.Unswitched b') : b.Unswitched { b' with ticker := some ticker' } where
  enabled := h.enabled
  leaking := (congrArg Option.isSome hticker).symm
  entries := h.entries

theorem unswitched_serveTick {r : Reply Unit} (h : s.serveTick = some r) :
    s.scores.Unswitched r.service.scores := by
  unfold serveTick at h
  split at h
  · obtain rfl := Option.some.inj h
    exact .refl s.scores
  · rename_i ticker hticker
    obtain ⟨r', hr', rfl⟩ := Option.map_eq_some_iff.1 h
    have hleak : s.scores.Unswitched r'.service.scores := unswitched_leak (s := { s with now := ticker.due }) hr'
    exact unswitched_setTicker hticker hleak

theorem unswitched_serveTicks {n : Nat} {r : Reply Unit} (h : serveTicks n s = some r) :
    s.scores.Unswitched r.service.scores := by
  induction n generalizing s r with
  | zero =>
    obtain rfl := Option.some.inj h
    exact .refl s.scores
  | succ n ih =>
    obtain ⟨first, hfirst, hrest⟩ := Option.bind_eq_some_iff.1 h
    obtain ⟨last, hlast, heq⟩ := Option.bind_eq_some_iff.1 hrest
    obtain rfl := Option.some.inj heq
    exact (unswitched_serveTick hfirst).trans (ih hlast : Scoreboard.Unswitched _ last.service.scores)

theorem unswitched_jump {length : Time} {r : Reply Unit} (h : s.jump length = some r) :
    s.scores.Unswitched r.service.scores := by
  unfold jump at h
  dsimp only at h
  split at h
  · obtain rfl := Option.some.inj h
    exact .refl s.scores
  · rename_i ticker hticker
    split at h
    · obtain rfl := Option.some.inj h
      exact .refl s.scores
    · obtain ⟨r', hr', rfl⟩ := Option.map_eq_some_iff.1 h
      have hleak : s.scores.Unswitched r'.service.scores :=
        unswitched_leak (s := { s with now := s.now + length }) hr'
      exact unswitched_setTicker hticker hleak

end Unswitched

theorem scores_loadFile (name path : String) (file : FileText) :
    (s.loadFile name path file).2.scores = s.scores := by
  rcases s.loadFile_cases name path file with ⟨_, c, -, -, hload⟩ | ⟨e, hload⟩
  · rw [hload]
    rfl
  · rw [hload]

theorem changes_configure (config : Config) :
    s.scores.Changes ((Change.configure config).outcome s).2.scores := by
  rcases Change.outcome_configure s config with ⟨-, e, he⟩ | ⟨-, scores, hscores, hok⟩
  · rw [he]
    exact .stirred (.refl _)
  · rw [hok]
    cases hscores with
    | on _ _ _ => exact .enabled _ _ _
    | off _ => exact .disabled

theorem changes_releaseAuthor (id : String) : s.scores.Changes (s.releaseAuthor id).2.scores := by
  rw [releaseAuthor_scores]
  split
  · exact .dropped id
  · exact .stirred (.refl _)

theorem changes_answer {q : Request} {r : Reply Answer} (h : s.answer q = some r) :
    s.scores.Changes r.service.scores := by
  cases q with
  | load name source =>
    obtain rfl := Option.some.inj h
    refine .stirred ?_
    rcases s.loadChain_cases name source with ⟨c, -, hload⟩ | ⟨e, hload⟩
    · simp only [hload]
      exact .refl _
    · simp only [hload]
      exact .refl _
  | loadFile name path file =>
    obtain rfl := Option.some.inj h
    refine .stirred ?_
    simp only [scores_loadFile]
    exact .refl _
  | loadDirectory files =>
    obtain rfl := Option.some.inj h
    have hscores : (s.loadDirectory files).2.scores = s.scores := by
      rw [loadDirectory, loadKinds_eq]
    exact .stirred (hscores ▸ .refl _)
  | configure config =>
    obtain rfl := Option.some.inj h
    exact changes_configure config
  | evaluate name text author =>
    obtain ⟨r', hr', rfl⟩ := Option.map_eq_some_iff.1 h
    exact .stirred (unswitched_evaluate hr')
  | filter kind text author =>
    obtain ⟨r', hr', rfl⟩ := Option.map_eq_some_iff.1 h
    exact .stirred (unswitched_filter hr')
  | call c =>
    cases c with
    | add author text delta =>
      obtain ⟨r', hr', rfl⟩ := Option.map_eq_some_iff.1 h
      obtain ⟨⟨total, stage⟩, hadd, rfl⟩ := Option.map_eq_some_iff.1 hr'
      exact .stirred (unswitched_addPoints hadd)
    | leak =>
      obtain ⟨r', hr', rfl⟩ := Option.map_eq_some_iff.1 h
      exact .stirred (unswitched_leak hr')
    | advance length =>
      obtain ⟨r', hr', rfl⟩ := Option.map_eq_some_iff.1 h
      obtain ⟨t, ht, rfl⟩ := Option.map_eq_some_iff.1 hr'
      exact .stirred (unswitched_serveTicks ht)
    | jump length =>
      obtain ⟨r', hr', rfl⟩ := Option.map_eq_some_iff.1 h
      exact .stirred (unswitched_jump hr')
    | release id =>
      obtain rfl := Option.some.inj h
      exact changes_releaseAuthor id
  | _ =>
    obtain rfl := Option.some.inj h
    exact .stirred (.refl _)

end Service

section Runs

variable {registry : Registry} {tags : Tags} {sink : Sink} {hasRuntime : Bool} {requests : List Request}
  {h : Session}

theorem inStep_performAll
    (hrun : Session.performAll requests (.opening (.initial registry tags sink hasRuntime)) = some h) :
    h.service.scores.InStep := by
  refine Session.performAll_of_perform (P := fun h => h.service.scores.InStep) ?_ hrun
    Scoreboard.inStep_initial
  intro h q h' hstep hh
  obtain ⟨r, hr, rfl⟩ := Option.map_eq_some_iff.1 hstep
  exact hh.changes (Service.changes_answer hr)

/-- Whatever was asked before: while scoring is off there are no records, nothing leaks, every score is zero, and an
evaluation comes to an end and leaves the service as it is; while scoring is on, it leaks; and where a request turns it
on, nobody has a score yet. -/
theorem scoring_off_keeps_nothing
    (hrun : Session.performAll requests (.opening (.initial registry tags sink hasRuntime)) = some h) :
    (h.service.scores.enabled = false →
      h.service.scores.tracked = 0 ∧ h.service.scores.isLeaking = false ∧
        (∀ id now, h.service.scores.points id now = 0) ∧
        ∀ name text author, ∃ r, h.service.evaluate name text author = some r ∧ r.service = h.service) ∧
      (h.service.scores.enabled = true → h.service.scores.isLeaking = true) ∧
      ∀ q h', h.perform q = some h' → h.service.scores.enabled = false →
        h'.service.scores.enabled = true →
        h'.service.scores.tracked = 0 ∧ (∀ id now, h'.service.scores.points id now = 0) ∧
          ∀ author now, h'.service.scores.entryFor author now =
            ⟨author, .fresh h'.service.scores.settings.installed now⟩ := by
  have hstep := inStep_performAll hrun
  refine ⟨fun hoff => ?_, fun hon => hstep.leaking.trans hon, fun q h' hperform hoff hon => ?_⟩
  · have hentries := hstep.idle hoff
    exact ⟨congrArg List.length hentries, hstep.leaking.trans hoff, Scoreboard.points_of_entries hentries,
      Service.evaluate_of_off hoff⟩
  · obtain ⟨r, hr, rfl⟩ := Option.map_eq_some_iff.1 hperform
    have hentries := ((Service.changes_answer hr).entries_of_turned_on hoff hon).trans (hstep.idle hoff)
    exact ⟨congrArg List.length hentries, Scoreboard.points_of_entries hentries,
      Scoreboard.entryFor_of_entries hentries⟩

end Runs

def turnedOff : List Request :=
  [.configure leakyConfig, .call (.add ⟨"steve", "steve", fun _ => false, fun _ _ => .ok ()⟩ "" 6),
    .configure {}]

theorem scoring_off_keeps_nothing_turnedOff :
    ∃ k h h', Session.performAll (turnedOff.take 2) (.opening (.initial .empty .none .log true)) = some k ∧
      k.service.points "steve" = 6 ∧ k.service.scores.isLeaking = true ∧
      Session.performAll turnedOff (.opening (.initial .empty .none .log true)) = some h ∧
      h.service.scores.enabled = false ∧ h.service.scores.isLeaking = false ∧
      h.service.points "steve" = 0 ∧ h.perform (.configure leakyConfig) = some h' ∧
      h'.service.scores.enabled = true ∧ h'.service.points "steve" = 0 := by
  have hbefore : (Session.performAll (turnedOff.take 2) (.opening (.initial .empty .none .log true))).any
      (fun k => k.service.points "steve" = 6 && k.service.scores.enabled) = true := by decide +kernel
  have hafter : (Session.performAll turnedOff (.opening (.initial .empty .none .log true))).any (fun h =>
      !h.service.scores.enabled && (h.perform (.configure leakyConfig)).any fun h' =>
        h'.service.scores.enabled) = true := by decide +kernel
  obtain ⟨k, hk, hscored⟩ := (Option.any_eq_true _ _).1 hbefore
  obtain ⟨h, hh, hturned⟩ := (Option.any_eq_true _ _).1 hafter
  simp only [Bool.and_eq_true, decide_eq_true_eq, Bool.not_eq_true'] at hscored hturned
  obtain ⟨hsix, hk_on⟩ := hscored
  obtain ⟨hoff, hagain⟩ := hturned
  obtain ⟨h', hh', hon⟩ := (Option.any_eq_true _ _).1 hagain
  obtain ⟨-, hleaks, -⟩ := scoring_off_keeps_nothing hk
  obtain ⟨hidle, -, hstarts⟩ := scoring_off_keeps_nothing hh
  obtain ⟨-, hstill, hzero, -⟩ := hidle hoff
  obtain ⟨-, hfresh, -⟩ := hstarts _ h' hh' hoff hon
  exact ⟨k, h, h', hk, hsix, hleaks hk_on, hh, hoff, hstill, hzero _ _, hh', hon, hfresh _ _⟩

end Moderation
