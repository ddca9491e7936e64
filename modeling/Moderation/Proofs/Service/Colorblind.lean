import Moderation.Service.Evaluation
import Moderation.Proofs.Evaluation.Colorblind

namespace Moderation

open Points

def Action.Unmarked (a : Action) : Prop :=
  ∃ token params, Registry.standard.construct token params = .ok a ∧
    ¬Tags.Mentions "rawstring" params

theorem Action.Unmarked.colorblind {a : Action} (h : a.Unmarked) : a.Colorblind := by
  obtain ⟨token, params, hbuilt, hparams⟩ := h
  have hdrawn := Registry.drawnFrom_of_standard hbuilt
  exact ⟨hdrawn.notHost, fun t ht hmentions => hparams (hmentions.of_isInfix (hdrawn.texts t ht))⟩

def Effect.unquoted : Effect → Effect
  | .log (.filtered chain author _ _ lines) => .log (.filtered chain author "" "" lines)
  | e => e

structure Outcome.Agrees (o o' : Outcome) : Prop where
  display : o.display = o'.display
  cancelled : o.cancelled = o'.cancelled
  logged : o.logged = o'.logged
  matchedLines : o.matchedLines = o'.matchedLines
  notes : o.notes = o'.notes
  metrics : o.metrics = o'.metrics

structure Reply.Agrees (r r' : Reply Outcome) : Prop where
  answer : r.answer.Agrees r'.answer
  service : r.service = r'.service
  effects : r.effects.map Effect.unquoted = r'.effects.map Effect.unquoted

theorem unquoted_logEffects {c c' : Context} (h : c.plain = c'.plain) :
    (Service.logEffects c).map Effect.unquoted = (Service.logEffects c').map Effect.unquoted := by
  have hchain : c.chain = c'.chain := congrArg (·.chain) h
  have hlines : c.matchedLines = c'.matchedLines := congrArg (·.matchedLines) h
  have hnotes : c.notes = c'.notes := congrArg (·.notes) h
  simp only [Service.logEffects, List.map_cons, Effect.unquoted, hchain, hlines, hnotes,
    Context.author_eq h]

theorem agrees_ofContext {c c' : Context} (h : c.plain = c'.plain) (m : Metrics) :
    (Outcome.ofContext c m).Agrees (.ofContext c' m) where
  display := congrArg String.ofList (Context.glyphs_modified h)
  cancelled := congrArg (·.cancelled) h
  logged := congrArg (·.logging) h
  matchedLines := congrArg (·.matchedLines) h
  notes := congrArg (·.notes) h
  metrics := rfl

theorem plain_ofString {text text' : String} (author : Author)
    (h : (ColoredText.ofString text).plainString = (ColoredText.ofString text').plainString) :
    (Context.ofString author text).plain = (Context.ofString author text').plain := by
  have hglyphs : (ColoredText.ofRaw text.toList).glyphs = (ColoredText.ofRaw text'.toList).glyphs :=
    String.ofList_injective h
  simp only [Context.ofString, Context.ofText, Context.plain, ColoredText.decolor, hglyphs]

/-- Two messages that look the same are treated the same: what is asked for is that all actions and tags are
standard ones and that no parameter, standard message or action at a threshold mentions the raw text. -/
theorem Service.evaluate_agrees (s : Service) (name text text' : String) (author : Author)
    (htags : s.tags = .standard)
    (hchain : ∀ c, s.chain? name = some c → ∀ r ∈ c.rules, ∀ i ∈ r.actions, i.action.Unmarked)
    (htable : AllActions s.scores.table Action.Unmarked)
    (htemplates : ∀ key, ¬Tags.Mentions "rawstring" (s.templates.message key))
    (hshown : (ColoredText.ofString text).plainString = (ColoredText.ofString text').plainString) :
    Option.Rel Reply.Agrees (s.evaluate name text author) (s.evaluate name text' author) := by
  unfold evaluate
  cases hname : s.chain? name with
  | none => exact .some ⟨⟨hshown, rfl, rfl, rfl, rfl, rfl⟩, rfl, rfl⟩
  | some chain =>
    have hrules : ∀ r ∈ chain.rules, ∀ i ∈ r.actions, i.action.Colorblind := fun r hr i hi =>
      (hchain chain hname r hr i hi).colorblind
    have hstart : Stage.Alike ⟨.ofString author text, s.world⟩ ⟨.ofString author text', s.world⟩ :=
      ⟨plain_ofString author hshown, rfl, htable.mono fun _ h => h.colorblind⟩
    have henv : s.environment.Colorblind := ⟨htags, htemplates⟩
    refine rel_map (execute_alike henv hrules hstart) fun r r' hr => ?_
    have hcontext := hr.1.context
    have hlogging : r.1.context.logging = r'.1.context.logging := congrArg (·.logging) hcontext
    refine ⟨?_, ?_, ?_⟩
    · dsimp only
      rw [hr.2]
      exact agrees_ofContext hcontext _
    · dsimp only
      rw [hr.1.world]
    · dsimp only
      rw [List.map_append, List.map_append, hr.1.world, hlogging]
      split
      · rw [unquoted_logEffects hcontext]
      · rfl

theorem not_mentions_standard (key : String) :
    ¬Tags.Mentions "rawstring" (Templates.standard.message key) := by
  have hentries : ∀ e ∈ Templates.standard.entries, ¬Tags.Mentions "rawstring" e.2 := by decide +kernel
  rw [Templates.message, Templates.get?]
  cases hlookup : Templates.standard.entries.lookup key with
  | none => decide
  | some text =>
    obtain ⟨before, behind, heq, -⟩ := List.lookup_eq_some_iff.1 hlookup
    exact hentries (key, text) (by rw [heq]; exact List.mem_append_right _ List.mem_cons_self)

def quotingService : Service :=
  { Service.initial .standard .standard .log true with
    chains := [("chat", ⟨"chat", [⟨1, ⟨⟨"b", Regex.compile (.literal ['b'])⟩, false, false⟩,
      [⟨"replace", "<%string%>", .replace "<%string%>"⟩, ⟨"points", "6", .points 6⟩], []⟩]⟩)]
    scores := Scoreboard.initial.enable .standard
      ⟨[⟨"five", 5, [.penalize .warn (some "%ORIGINAL%")], []⟩]⟩ 0 }

theorem evaluate_agrees_quoting :
    let author : Author := ⟨"steve", "steve", fun _ => false, fun _ _ => .ok ()⟩
    ∃ r r', quotingService.evaluate "chat" "abc" author = some r ∧
      quotingService.evaluate "chat" "a§cb§ec" author = some r' ∧ r.Agrees r' ∧
      r.answer.display = "a<abc>c" ∧ r.answer.text ≠ r'.answer.text := by
  intro author
  have hchain : ∀ c, quotingService.chain? "chat" = some c → ∀ r ∈ c.rules, ∀ i ∈ r.actions,
      i.action.Unmarked := by
    intro c hc r hr i hi
    obtain rfl := Option.some.inj hc
    obtain rfl := List.mem_singleton.1 hr
    rcases List.mem_pair.1 hi with rfl | rfl
    · exact ⟨"replace", "<%string%>", rfl, by decide +kernel⟩
    · exact ⟨"points", "6", rfl, by decide +kernel⟩
  have htable : AllActions quotingService.scores.table Action.Unmarked := by
    intro h hh
    obtain rfl := List.mem_singleton.1 hh
    refine ⟨fun a ha => ?_, fun a ha => absurd ha List.not_mem_nil⟩
    obtain rfl := List.mem_singleton.1 ha
    exact ⟨"warn", "%ORIGINAL%", rfl, by decide +kernel⟩
  have hagrees := Service.evaluate_agrees quotingService "chat" "abc" "a§cb§ec" author rfl hchain
    htable not_mentions_standard (by decide +kernel)
  have hplain : (quotingService.evaluate "chat" "abc" author).map
      (fun r => (r.answer.display, r.answer.text)) = some ("a<abc>c", "a<abc>c") := by decide +kernel
  have hcoded : (quotingService.evaluate "chat" "a§cb§ec" author).map (·.answer.text) =
      some "a§c<abc>§ec" := by decide +kernel
  obtain ⟨r, hr, hshown⟩ := Option.map_eq_some_iff.1 hplain
  obtain ⟨r', hr', htext'⟩ := Option.map_eq_some_iff.1 hcoded
  obtain ⟨hdisplay, htext⟩ := Prod.mk.inj hshown
  rw [hr, hr'] at hagrees
  cases hagrees with
  | some hagrees =>
    refine ⟨r, r', hr, hr', hagrees, hdisplay, ?_⟩
    rw [htext, htext']
    decide

end Moderation
