import Moderation.Proofs.Service.Repeats

namespace Moderation

namespace Service

section Decision

variable (s : Service) (kind : FilterKind) (text : String) (author : Author)

def Spares : Prop :=
  s.config.enables kind = false ∨ author.may kind.bypass = true ∨
    kind = .command ∧ route s.config kind text = none

def Mutes : Prop :=
  ¬s.Spares kind text author ∧ (∃ spamFilter, route s.config kind text = some (.chat spamFilter)) ∧
    s.muted = true ∧ author.may muteBypass = false

def Ignores : Request → Prop
  | .filter kind text author => s.Spares kind text author ∨ s.Mutes kind text author
  | _ => False

end Decision

variable {s : Service} {kind : FilterKind} {text : String} {author : Author}

theorem isCommand_of_route_eq_none {c : Config} (h : route c kind text = none) : kind = .command := by
  cases kind with
  | command => rfl
  | _ => cases h

theorem verdictOn_ne_untouched (r : Route) : s.verdictOn text author r ≠ .untouched := by
  intro h
  have htarget := target?_verdictOn s text author r
  rw [h] at htarget
  cases htarget

theorem verdictOn_eq_muted_iff (r : Route) :
    s.verdictOn text author r = .muted ↔
      (∃ spamFilter, r = .chat spamFilter) ∧ s.muted = true ∧ author.may muteBypass = false := by
  cases r with
  | chain kind => simp [verdictOn]
  | chat spamFilter =>
    by_cases hmuted : (s.muted && !author.may muteBypass) = true
    · have hsilent : s.muted = true ∧ author.may muteBypass = false := by simpa using hmuted
      simp [verdictOn, hsilent]
    · have hheard : ¬(s.muted = true ∧ author.may muteBypass = false) := by simpa using hmuted
      simp only [verdictOn, if_neg hmuted, hheard, and_false, iff_false]
      split
      · split <;> exact Verdict.noConfusion
      · exact Verdict.noConfusion

theorem spares_iff :
    s.Spares kind text author ↔ s.filters kind author = false ∨ route s.config kind text = none := by
  have hcommand : kind = .command ∧ route s.config kind text = none ↔ route s.config kind text = none :=
    and_iff_right_of_imp isCommand_of_route_eq_none
  rw [Spares, hcommand, filters, Bool.and_eq_false_iff, Bool.not_eq_false', or_assoc]

theorem verdict_eq_untouched_iff : s.verdict kind text author = .untouched ↔ s.Spares kind text author := by
  rw [spares_iff, verdict]
  cases s.filters kind author with
  | false => simp
  | true =>
    cases route s.config kind text with
    | none => simp
    | some r => simpa using verdictOn_ne_untouched r

theorem verdict_eq_muted_iff : s.verdict kind text author = .muted ↔ s.Mutes kind text author := by
  rw [Mutes, spares_iff, verdict]
  cases s.filters kind author with
  | false => simp
  | true =>
    cases route s.config kind text with
    | none => simp
    | some r => simpa using verdictOn_eq_muted_iff r

theorem Outcome.untouched_eq (text : String) :
    Outcome.untouched text = { text := text, display := (ColoredText.ofString text).plainString } := by
  rw [Outcome.untouched, ColoredText.rawString_ofString]

theorem filter_of_spares (h : s.Spares kind text author) :
    s.filter kind text author =
      some ⟨{ text := text, display := (ColoredText.ofString text).plainString }, s, []⟩ := by
  rw [filter_eq_carryOut, verdict_eq_untouched_iff.2 h, carryOut, Outcome.untouched_eq]

theorem filter_of_mutes (h : s.Mutes kind text author) :
    s.filter kind text author =
      some ⟨{ text := text, display := (ColoredText.ofString text).plainString, cancelled := true }, s, []⟩ := by
  rw [filter_eq_carryOut, verdict_eq_muted_iff.2 h, carryOut, Outcome.blocked, Outcome.untouched_eq]

theorem service_of_ignores {q : Request} {r : Reply Answer} (h : s.Ignores q) (hr : s.answer q = some r) :
    r.service = s := by
  cases q with
  | filter kind text author =>
    obtain ⟨r', hr', rfl⟩ := Option.map_eq_some_iff.1 hr
    rcases h with hspares | hmutes
    · rw [filter_of_spares hspares] at hr'
      obtain rfl := Option.some.inj hr'
      rfl
    · rw [filter_of_mutes hmutes] at hr'
      obtain rfl := Option.some.inj hr'
      rfl
  | _ => cases h

end Service

inductive Abridged : List Event → List Event → Prop
  | nil : Abridged [] []
  | keep (e : Event) {kept past : List Event} : Abridged kept past → Abridged (e :: kept) (e :: past)
  | strike {e : Event} {kept past : List Event} : e.before.Ignores e.request → Abridged kept past →
    Abridged kept (e :: past)

namespace Session

theorem performAll_append (first second : List Request) (h : Session) :
    performAll (first ++ second) h = (performAll first h).bind (performAll second) := by
  induction first generalizing h with
  | nil => rfl
  | cons q rest ih =>
    simp only [List.cons_append, performAll, Option.bind_assoc]
    exact Option.bind_congr fun k _ => ih k

def Replays (s : Service) (h : Session) : Prop :=
  ∀ kept, Abridged kept h.past →
    performAll (kept.reverse.map Event.request) (opening s) = some ⟨h.service, kept⟩

theorem replays_opening (s : Service) : Replays s (opening s) := by
  intro kept hkept
  cases hkept
  rfl

theorem Replays.perform {s : Service} {h h' : Session} {q : Request} (hrun : perform h q = some h')
    (hh : Replays s h) : Replays s h' := by
  obtain ⟨r, hr, rfl⟩ := Option.map_eq_some_iff.1 hrun
  intro kept hkept
  cases hkept with
  | keep e hrest =>
    rw [List.reverse_cons, List.map_append, performAll_append, hh _ hrest]
    simp [performAll, Session.perform, hr]
  | strike hignores hrest =>
    -- The service behind a message that was ignored is the one before it.
    rw [Service.service_of_ignores hignores hr]
    exact hh _ hrest

end Session

/-- A message is spared if its kind is switched off, if its author may pass, or if it is a command that no list
sends anywhere; it is muted if it is not spared and on its way to the chain for chat while its author may not talk.
Either way its text is handed back as it came, no rule is looked at, nothing is done to anybody, and the service
stays what it was. Without any such messages a service would have given all other answers that it gave. -/
theorem filter_leaves_no_trace {s : Service} {requests : List Request} {h : Session}
    (hrun : Session.performAll requests (.opening s) = some h) :
    (∀ kind text author,
      (h.service.verdict kind text author = .untouched ↔ h.service.Spares kind text author) ∧
      (h.service.verdict kind text author = .muted ↔ h.service.Mutes kind text author) ∧
      (h.service.Spares kind text author → h.service.filter kind text author =
        some ⟨{ text := text, display := (ColoredText.ofString text).plainString }, h.service, []⟩) ∧
      (h.service.Mutes kind text author → h.service.filter kind text author =
        some ⟨{ text := text, display := (ColoredText.ofString text).plainString, cancelled := true },
          h.service, []⟩)) ∧
      ∀ kept, Abridged kept h.past →
        Session.performAll (kept.reverse.map Event.request) (.opening s) = some ⟨h.service, kept⟩ := by
  refine ⟨fun kind text author => ?_, ?_⟩
  · exact ⟨Service.verdict_eq_untouched_iff, Service.verdict_eq_muted_iff, Service.filter_of_spares,
      Service.filter_of_mutes⟩
  · exact Session.performAll_of_perform (P := Session.Replays s) (fun hstep hh => hh.perform hstep) hrun
      (Session.replays_opening s)

theorem abridged_refl (past : List Event) : Abridged past past := by
  induction past with
  | nil => exact .nil
  | cons e rest ih => exact .keep e ih

def hushed : List Request :=
  [.configure { spamFilter := true }, .filter .chat "hi" Service.steve, .mute true]

theorem filter_leaves_no_trace_hushed :
    ∃ h kept, Session.performAll (hushed ++ [.filter .chat "ho" Service.steve,
        .filter .console "hu" Service.steve, .mute false, .filter .chat "hi" Service.steve])
          (.opening (.initial .standard .none .log true)) = some h ∧
      Abridged kept h.past ∧ kept.length + 2 = h.past.length ∧
      Session.performAll (kept.reverse.map Event.request) (.opening (.initial .standard .none .log true)) =
        some ⟨h.service, kept⟩ ∧
      h.service.verdict .chat "hi" Service.steve = .repeated := by
  have htells : (Session.performAll hushed (.opening (.initial .standard .none .log true))).any (fun h =>
      h.service.verdict .chat "ho" Service.steve == .muted &&
        h.service.verdict .console "hu" Service.steve == .untouched &&
        (h.service.setMuted false).verdict .chat "hi" Service.steve == .repeated) = true := by
    decide +kernel
  obtain ⟨h, hrun, htells⟩ := (Option.any_eq_true _ _).1 htells
  simp only [Bool.and_eq_true, beq_iff_eq] at htells
  obtain ⟨⟨hmuted, hspared⟩, hrepeated⟩ := htells
  have hmutes := Service.verdict_eq_muted_iff.1 hmuted
  have hspares := Service.verdict_eq_untouched_iff.1 hspared
  obtain ⟨r, hr, hservice⟩ : ∃ r, (h.service.setMuted false).filter .chat "hi" Service.steve = some r ∧
      r.service = h.service.setMuted false := by
    rw [Service.filter_eq_carryOut, hrepeated]
    exact ⟨_, rfl, rfl⟩
  obtain ⟨ho, hu, on, hi, hwhole, hho, hhu⟩ : ∃ ho hu on hi : Event,
      Session.performAll (hushed ++ [.filter .chat "ho" Service.steve, .filter .console "hu" Service.steve,
        .mute false, .filter .chat "hi" Service.steve]) (.opening (.initial .standard .none .log true)) =
          some ⟨r.service, hi :: on :: hu :: ho :: h.past⟩ ∧
      ho.before.Ignores ho.request ∧ hu.before.Ignores hu.request := by
    let held : Outcome := { text := "ho", display := (ColoredText.ofString "ho").plainString, cancelled := true }
    let passed : Outcome := { text := "hu", display := (ColoredText.ofString "hu").plainString }
    refine ⟨⟨h.service, .filter .chat "ho" Service.steve, ⟨.outcome held, h.service, []⟩⟩,
      ⟨h.service, .filter .console "hu" Service.steve, ⟨.outcome passed, h.service, []⟩⟩,
      ⟨h.service, .mute false, ⟨.done, h.service.setMuted false, []⟩⟩,
      ⟨h.service.setMuted false, .filter .chat "hi" Service.steve, r.map .outcome⟩, ?_,
      Or.inr hmutes, Or.inl hspares⟩
    rw [Session.performAll_append, hrun, Option.bind_some]
    simp only [Session.performAll, Session.perform, Service.answer, Service.filter_of_mutes hmutes,
      Service.filter_of_spares hspares, Reply.quiet, Reply.map, Option.map_some, Option.bind_some, hr]
    rfl
  have habridged : Abridged (hi :: on :: h.past) (hi :: on :: hu :: ho :: h.past) :=
    .keep hi (.keep on (.strike hhu (.strike hho (abridged_refl h.past))))
  obtain ⟨-, hreplays⟩ := filter_leaves_no_trace hwhole
  exact ⟨_, _, hwhole, habridged, rfl, hreplays _ habridged, hservice ▸ hrepeated⟩

end Moderation
