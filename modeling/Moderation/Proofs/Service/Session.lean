import Moderation.Proofs.Service.Release
import Moderation.Proofs.Service.Verdict

/-!
What a service was asked for, one request after another. Only the scores and the time depend on how an evaluation
goes; everything else is settled by the requests alone.
-/

namespace Moderation

inductive Request where
  | load (name source : String)
  | loadFile (name path : String) (file : FileText)
  | loadDirectory (files : Files)
  | unload (name : String)
  | register (group : ActionGroup) (token : String) (build : ActionBuilder)
  | configure (config : Config)
  | mute (on : Bool)
  | evaluate (name text : String) (author : Author)
  | filter (kind : FilterKind) (text : String) (author : Author)
  | call (c : Service.Call)

inductive Answer where
  | loaded (result : Except FilterError Chain)
  | names (loaded : List String)
  | group (previous : Option ActionGroup)
  | configured (result : Except ConfigError Unit)
  | outcome (o : Outcome)
  | scored (score : Float) (message : Context)
  | told (yes : Bool)
  | done

namespace Reply

variable {α β : Type}

def map (f : α → β) (r : Reply α) : Reply β := ⟨f r.answer, r.service, r.effects⟩

def quiet (f : α → Answer) (r : α × Service) : Option (Reply Answer) := some ⟨f r.1, r.2, []⟩

end Reply

namespace Service

def answer (s : Service) : Request → Option (Reply Answer)
  | .load name source => Reply.quiet .loaded (s.loadChain name source)
  | .loadFile name path file => Reply.quiet .loaded (s.loadFile name path file)
  | .loadDirectory files => Reply.quiet .names (s.loadDirectory files)
  | .unload name => Reply.quiet .told (s.unloadChain name)
  | .register group token build => Reply.quiet .group (s.registerAction group token build)
  | .configure config => Reply.quiet .configured ((Change.configure config).outcome s)
  | .mute on => Reply.quiet id (.done, s.setMuted on)
  | .evaluate name text author => (s.evaluate name text author).map (.map .outcome)
  | .filter kind text author => (s.filter kind text author).map (.map .outcome)
  | .call (.add author text delta) =>
    (s.addPoints author text delta).map (.map fun a => .scored a.1 a.2)
  | .call .leak => s.leakAll.map (.map fun _ => .done)
  | .call (.advance length) => (s.advance length).map (.map fun _ => .done)
  | .call (.jump length) => (s.jump length).map (.map fun _ => .done)
  | .call (.release id) => Reply.quiet .told (s.releaseAuthor id)

def recalling (s : Service) (kind : FilterKind) (text : String) (author : Author) : Service :=
  match s.verdict kind text author with
  | .evaluated _ remember => s.remembering text remember author.id
  | _ => s

def settle (s : Service) : Request → Service
  | .load name source => (s.loadChain name source).2
  | .loadFile name path file => (s.loadFile name path file).2
  | .loadDirectory files => (s.loadDirectory files).2
  | .unload name => (s.unloadChain name).2
  | .register group token build => (s.registerAction group token build).2
  | .configure config => ((Change.configure config).outcome s).2
  | .mute on => s.setMuted on
  | .filter kind text author => s.recalling kind text author
  | .call (.release id) => { s with lastMessages := s.lastMessages.filter (fun e => e.1 != id) }
  | _ => s

section Frames

variable (s : Service)

theorem loadChain_cases (name source : String) :
    (∃ c, Chain.ofSource s.registry name source = .ok c ∧
        s.loadChain name source = (.ok c, s.putChain c)) ∨
      ∃ e, s.loadChain name source = (.error e, s) := by
  unfold loadChain
  cases Chain.ofSource s.registry name source with
  | error e => exact .inr ⟨.parse name e, rfl⟩
  | ok c => exact .inl ⟨c, rfl, rfl⟩

theorem loadFile_cases (name path : String) (file : FileText) :
    (∃ source c, file = .ok source ∧ Chain.ofSource s.registry name source = .ok c ∧
        s.loadFile name path file = (.ok c, s.putChain c)) ∨
      ∃ e, s.loadFile name path file = (.error e, s) := by
  cases file with
  | error failure => exact .inr ⟨_, rfl⟩
  | ok source =>
    rcases s.loadChain_cases name source with ⟨c, hread, hload⟩ | ⟨e, hload⟩
    · exact .inl ⟨source, c, rfl, hread, hload⟩
    · exact .inr ⟨e, hload⟩

theorem loadKinds_eq (files : Files) (kinds : List FilterKind) :
    (loadKinds files kinds s).2 = { s with chains := (loadKinds files kinds s).2.chains } := by
  induction kinds generalizing s with
  | nil => rfl
  | cons k rest ih =>
    simp only [loadKinds]
    split
    · rcases s.loadFile_cases k.name (rulePath s.config k.name) (files (rulePath s.config k.name)) with
        ⟨_, c, -, -, hload⟩ | ⟨e, hload⟩
      · rw [hload]
        exact ih (s.putChain c)
      · rw [hload]
        exact ih s
    · exact ih s

theorem recalling_eq (kind : FilterKind) (text : String) (author : Author) :
    s.recalling kind text author =
      { s with lastMessages := (s.recalling kind text author).lastMessages } := by
  unfold recalling
  split
  · unfold remembering checkRepeat
    split
    · split <;> rfl
    · rfl
  · rfl

end Frames

def withScores (s : Service) (scores : Scores) (now : Points.Time) : Service :=
  { s with scores := scores, now := now }

inductive Settled (s : Service) : Service → Prop
  | intro (scores : Scores) (now : Points.Time) : Settled s (s.withScores scores now)

namespace Settled

variable {s t u : Service}

theorem refl (s : Service) : s.Settled s := ⟨s.scores, s.now⟩

theorem symm (h : s.Settled t) : t.Settled s := by
  obtain ⟨scores, now⟩ := h
  exact ⟨s.scores, s.now⟩

theorem trans (h : s.Settled t) (h' : t.Settled u) : s.Settled u := by
  obtain ⟨scores, now⟩ := h
  obtain ⟨scores', now'⟩ := h'
  exact ⟨scores', now'⟩

end Settled

section Evaluations

variable {s : Service}

theorem settled_evaluate {name text : String} {author : Author} {r : Reply Outcome}
    (h : s.evaluate name text author = some r) : s.Settled r.service := by
  unfold evaluate at h
  split at h
  · obtain rfl := Option.some.inj h
    exact .refl s
  · obtain ⟨⟨stage, metrics⟩, -, rfl⟩ := Option.map_eq_some_iff.1 h
    exact ⟨_, _⟩

theorem settled_evaluateRouted {route : Route} {decolor : Bool} {text : String} {author : Author}
    {r : Reply Outcome} (h : s.evaluateRouted route decolor text author = some r) :
    s.Settled r.service := by
  unfold evaluateRouted at h
  dsimp only at h
  split at h
  · obtain ⟨r', hr', rfl⟩ := Option.map_eq_some_iff.1 h
    exact (settled_evaluate hr' : s.Settled r'.service)
  · exact settled_evaluate h

theorem settled_filter {kind : FilterKind} {text : String} {author : Author} {r : Reply Outcome}
    (h : s.filter kind text author = some r) : (s.recalling kind text author).Settled r.service := by
  rw [filter_eq_carryOut] at h
  unfold recalling
  cases hverdict : s.verdict kind text author with
  | evaluated target remember =>
    rw [hverdict] at h
    obtain ⟨r', hr', rfl⟩ := Option.map_eq_some_iff.1 h
    exact (settled_evaluateRouted hr' : Settled _ r'.service)
  | _ =>
    rw [hverdict] at h
    obtain rfl := Option.some.inj h
    exact .refl s

theorem settled_serveTick {r : Reply Unit} (h : s.serveTick = some r) : s.Settled r.service := by
  unfold serveTick at h
  split at h
  · obtain rfl := Option.some.inj h
    exact .refl s
  · obtain ⟨r', hr', rfl⟩ := Option.map_eq_some_iff.1 h
    obtain ⟨w, -, rfl⟩ := Option.map_eq_some_iff.1 hr'
    exact ⟨_, _⟩

theorem settled_serveTicks {n : Nat} {r : Reply Unit} (h : serveTicks n s = some r) :
    s.Settled r.service := by
  induction n generalizing s r with
  | zero =>
    obtain rfl := Option.some.inj h
    exact .refl s
  | succ n ih =>
    obtain ⟨first, hfirst, hrest⟩ := Option.bind_eq_some_iff.1 h
    obtain ⟨last, hlast, heq⟩ := Option.bind_eq_some_iff.1 hrest
    obtain rfl := Option.some.inj heq
    exact (settled_serveTick hfirst).trans (ih hlast : Settled _ last.service)

theorem settled_jump {length : Points.Time} {r : Reply Unit} (h : s.jump length = some r) :
    s.Settled r.service := by
  unfold jump at h
  dsimp only at h
  split at h
  · obtain rfl := Option.some.inj h
    exact ⟨_, _⟩
  · split at h
    · obtain rfl := Option.some.inj h
      exact ⟨_, _⟩
    · obtain ⟨r', hr', rfl⟩ := Option.map_eq_some_iff.1 h
      obtain ⟨w, -, rfl⟩ := Option.map_eq_some_iff.1 hr'
      exact ⟨_, _⟩

end Evaluations

theorem settled_answer {s : Service} {q : Request} {r : Reply Answer} (h : s.answer q = some r) :
    (s.settle q).Settled r.service := by
  cases q with
  | evaluate name text author =>
    obtain ⟨r', hr', rfl⟩ := Option.map_eq_some_iff.1 h
    exact settled_evaluate hr'
  | filter kind text author =>
    obtain ⟨r', hr', rfl⟩ := Option.map_eq_some_iff.1 h
    exact settled_filter hr'
  | call c =>
    cases c with
    | add author text delta =>
      obtain ⟨r', hr', rfl⟩ := Option.map_eq_some_iff.1 h
      obtain ⟨a, -, rfl⟩ := Option.map_eq_some_iff.1 hr'
      exact ⟨_, _⟩
    | leak =>
      obtain ⟨r', hr', rfl⟩ := Option.map_eq_some_iff.1 h
      obtain ⟨w, -, rfl⟩ := Option.map_eq_some_iff.1 hr'
      exact ⟨_, _⟩
    | advance length =>
      obtain ⟨r', hr', rfl⟩ := Option.map_eq_some_iff.1 h
      obtain ⟨t, ht, rfl⟩ := Option.map_eq_some_iff.1 hr'
      exact (settled_serveTicks ht).trans ⟨_, _⟩
    | jump length =>
      obtain ⟨r', hr', rfl⟩ := Option.map_eq_some_iff.1 h
      exact settled_jump hr'
    | release id =>
      obtain rfl := Option.some.inj h
      exact ⟨_, _⟩
  | _ =>
    obtain rfl := Option.some.inj h
    exact .refl _

section Scores

variable (s : Service) (scores : Scores) (now : Points.Time)

theorem loadChain_withScores (name source : String) :
    (s.withScores scores now).loadChain name source =
      ((s.loadChain name source).1, (s.loadChain name source).2.withScores scores now) := by
  have hregistry : (s.withScores scores now).registry = s.registry := rfl
  unfold loadChain
  rw [hregistry]
  cases Chain.ofSource s.registry name source <;> rfl

theorem loadFile_withScores (name path : String) (file : FileText) :
    (s.withScores scores now).loadFile name path file =
      ((s.loadFile name path file).1, (s.loadFile name path file).2.withScores scores now) := by
  unfold loadFile
  cases textOf path file with
  | error e => rfl
  | ok source => exact loadChain_withScores s scores now name source

theorem loadKinds_withScores (files : Files) (kinds : List FilterKind) :
    loadKinds files kinds (s.withScores scores now) =
      ((loadKinds files kinds s).1, (loadKinds files kinds s).2.withScores scores now) := by
  induction kinds generalizing s with
  | nil => rfl
  | cons k rest ih =>
    have hconfig : (s.withScores scores now).config = s.config := rfl
    simp only [loadKinds, hconfig, loadFile_withScores]
    split
    · rcases s.loadFile k.name (rulePath s.config k.name) (files (rulePath s.config k.name)) with
        ⟨_ | c, s'⟩
      · exact ih s'
      · simp only [ih]
    · exact ih s

theorem settled_configure (config : Config) :
    ((Change.configure config).outcome s).2.Settled
      ((Change.configure config).outcome (s.withScores scores now)).2 := by
  have haccepts : (s.withScores scores now).Accepts config ↔ s.Accepts config :=
    ⟨fun h => ⟨h.check, h.scoring⟩, fun h => ⟨h.check, h.scoring⟩⟩
  rcases Change.outcome_configure s config with ⟨hrefused, e, he⟩ | ⟨haccepted, b, -, hok⟩
  · rcases Change.outcome_configure (s.withScores scores now) config with ⟨-, e', he'⟩ | ⟨h, -⟩
    · rw [he, he']
      exact ⟨_, _⟩
    · exact absurd (haccepts.1 h) hrefused
  · rcases Change.outcome_configure (s.withScores scores now) config with ⟨h, -⟩ | ⟨-, b', -, hok'⟩
    · exact absurd (haccepts.2 haccepted) h
    · rw [hok, hok']
      exact ⟨b', now⟩

theorem settled_recalling (kind : FilterKind) (text : String) (author : Author) :
    (s.recalling kind text author).Settled ((s.withScores scores now).recalling kind text author) := by
  have hverdict : (s.withScores scores now).verdict kind text author = s.verdict kind text author := rfl
  unfold recalling
  rw [hverdict]
  cases s.verdict kind text author with
  | evaluated target remember =>
    have hmemory : (s.withScores scores now).lastMessages = s.lastMessages := rfl
    simp only [remembering, checkRepeat, hmemory]
    cases remember with
    | true =>
      simp only [if_true]
      split <;> exact ⟨scores, now⟩
    | false => exact ⟨scores, now⟩
  | _ => exact ⟨scores, now⟩

theorem settle_withScores (q : Request) :
    (s.settle q).Settled ((s.withScores scores now).settle q) := by
  cases q with
  | load name source =>
    simp only [settle, loadChain_withScores]
    exact ⟨scores, now⟩
  | loadFile name path file =>
    simp only [settle, loadFile_withScores]
    exact ⟨scores, now⟩
  | loadDirectory files =>
    simp only [settle, loadDirectory, loadKinds_withScores]
    exact ⟨scores, now⟩
  | configure config => exact settled_configure s scores now config
  | filter kind text author => exact settled_recalling s scores now kind text author
  | call c => cases c <;> exact ⟨scores, now⟩
  | _ => exact ⟨scores, now⟩

end Scores

theorem Settled.answer {s s' : Service} {q : Request} {r r' : Reply Answer} (h : s.Settled s')
    (hr : s.answer q = some r) (hr' : s'.answer q = some r') : r.service.Settled r'.service := by
  obtain ⟨scores, now⟩ := h
  exact (settled_answer hr).symm.trans ((settle_withScores s scores now q).trans (settled_answer hr'))

end Service

structure Event where
  before : Service
  request : Request
  reply : Reply Answer

/-- A service and what it was asked for, the last request first. -/
structure Session where
  service : Service
  past : List Event

namespace Session

def opening (s : Service) : Session := ⟨s, []⟩

def perform (h : Session) (q : Request) : Option Session :=
  (h.service.answer q).map fun r => ⟨r.service, ⟨h.service, q, r⟩ :: h.past⟩

def performAll : List Request → Session → Option Session
  | [], h => some h
  | q :: rest, h => (h.perform q).bind (performAll rest)

def latest {β : Type} (report : Event → Option (Option β)) (past : List Event) : Option β :=
  (past.findSome? report).join

theorem latest_cons {β : Type} (report : Event → Option (Option β)) (e : Event) (past : List Event) :
    latest report (e :: past) = (report e).getD (latest report past) := by
  rw [latest, List.findSome?_cons]
  cases report e <;> rfl

theorem performAll_of_perform {P : Session → Prop} (step : ∀ {h q h'}, perform h q = some h' → P h → P h')
    {requests : List Request} {h h' : Session} (hrun : performAll requests h = some h') (hh : P h) :
    P h' := by
  induction requests generalizing h with
  | nil =>
    obtain rfl := Option.some.inj hrun
    exact hh
  | cons q rest ih =>
    obtain ⟨k, hk, hrest⟩ := Option.bind_eq_some_iff.1 hrun
    exact ih hrest (step hk hh)

theorem latest_of_answer {β : Type} {report : Event → Option (Option β)} {P : Option β → Service → Prop}
    (step : ∀ {s q r o}, s.answer q = some r → P o s → P ((report ⟨s, q, r⟩).getD o) r.service)
    {requests : List Request} {s : Service} {h : Session}
    (hrun : performAll requests (opening s) = some h) (hs : P none s) :
    P (latest report h.past) h.service := by
  refine performAll_of_perform (P := fun h => P (latest report h.past) h.service) ?_ hrun hs
  intro h q h' hperform hh
  obtain ⟨r, hr, rfl⟩ := Option.map_eq_some_iff.1 hperform
  rw [latest_cons]
  exact step hr hh

end Session

end Moderation
