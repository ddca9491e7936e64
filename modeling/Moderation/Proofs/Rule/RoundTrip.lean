import Moderation.Proofs.Failure
import Moderation.Proofs.Rule.Written

namespace Moderation

theorem WrittenPattern.readBody_body (p : WrittenPattern) (rest : List Char) :
    Matcher.readBody p.delimiter p.isLiteral (p.body ++ p.delimiter :: rest) = some (p.text, rest) := by
  cases p with
  | expression body ne_nil paired => exact Matcher.readBody_expression body paired rest
  | literal text ne_nil => exact Matcher.readBody_literal text rest

namespace WrittenRule

variable {w : WrittenRule} {after : List Char}

theorem readNegation_fromMatcher :
    Matcher.readNegation (w.fromMatcher after) = (w.negated, w.fromPattern after) := by
  obtain ⟨negated, pattern, caseless, segments⟩ := w
  cases negated <;> cases pattern <;> rfl

theorem readDelimiter_fromPattern : Matcher.readDelimiter (w.fromPattern after) =
    some (w.pattern.isLiteral, w.pattern.delimiter,
      w.pattern.body ++ w.pattern.delimiter :: (w.flags ++ after)) := by
  obtain ⟨negated, pattern, caseless, segments⟩ := w
  cases pattern <;> rfl

theorem isBlank_flags : ∀ c ∈ w.flags, Text.isBlank c = false := by
  unfold flags
  split
  · exact fun c hc => List.mem_singleton.1 hc ▸ rfl
  · exact fun c hc => absurd hc List.not_mem_nil

theorem readFlags_flags : Matcher.readFlags w.flags = .ok w.caseless := by
  unfold flags
  cases w.caseless <;> rfl

theorem source_eq : (if w.pattern.isLiteral then Regex.escape w.pattern.text else w.pattern.text) =
    w.pattern.source := by
  cases w.pattern <;> rfl

theorem read_fromMatcher {p : Pattern} (hp : Pattern.compile w.pattern.source w.caseless = .ok p)
    (hafter : ∀ c ∈ after.head?, Text.isBlank c = true) :
    Matcher.read (w.fromMatcher after) = .ok (⟨p, w.negated, w.caseless⟩, after) :=
  Matcher.read_iff.2 ⟨w.pattern.isLiteral, w.pattern.delimiter,
    w.pattern.body ++ w.pattern.delimiter :: (w.flags ++ after), w.pattern.text, w.flags ++ after,
    { negation := readNegation_fromMatcher
      delimiter := readDelimiter_fromPattern
      enclosed := w.pattern.readBody_body _
      ne_nil := w.pattern.text_ne_nil
      flags := by rw [Text.firstWord_append isBlank_flags hafter, readFlags_flags]
      pattern := by rw [source_eq, Matcher.compilePattern, hp]
      behind := Text.dropWhile_append_of_word isBlank_flags hafter }⟩

end WrittenRule

namespace WrittenSegment

theorem mem_splitOnP_of_heads {s rest : List Char} {k : Keyword} (h : Segment.Heads s k rest) :
    k.word ∈ s.splitOnP Text.isBlank := by
  have hword : ∀ c ∈ k.word, Text.isBlank c = false := fun c => Keyword.not_isBlank
  rw [h.eq]
  cases rest with
  | nil =>
    rw [List.append_nil, List.splitOnP_eq_singleton hword]
    exact List.mem_singleton_self _
  | cons c rest =>
    rw [List.splitOnP_append_cons_of_forall_mem hword c (h.blank c rfl)]
    exact List.mem_cons_self

theorem not_heads_of_plain {params a b : List Char} {c : Char}
    (plain : ∀ k : Keyword, k.word ∉ params.splitOnP Text.isBlank) (hc : Text.isBlank c = true)
    (h : ' ' :: params = a ++ c :: b) (k : Keyword) (rest : List Char) :
    ¬Segment.Heads b k rest := by
  intro hheads
  have hmem := mem_splitOnP_of_heads hheads
  cases a with
  | nil =>
    obtain ⟨rfl, rfl⟩ := List.cons.inj h
    exact plain k hmem
  | cons x a =>
    have hparams : params = a ++ c :: b := (List.cons.inj h).2
    refine plain k ?_
    rw [hparams, List.splitOnP_append_cons a b hc]
    exact List.mem_append_right _ hmem

theorem plain_of_isWord {w : List Char} (h : isWord w = true) : Segment.Plain w := by
  rintro a c b rfl hc
  rw [not_isBlank_of_isWord h c (by simp)] at hc
  cases hc

theorem plain_segment (s : WrittenSegment) : Segment.Plain s.segment.body := by
  cases s with
  | exemption permission word => exact plain_of_isWord word
  | action token params word trimmed plain =>
    rw [segment]
    split
    · exact plain_of_isWord word
    · intro a c b h hc
      rcases List.append_eq_append_iff.1 h with ⟨a', -, hparams⟩ | ⟨c', htoken, hparams⟩
      · exact not_heads_of_plain plain hc hparams
      · cases c' with
        | nil => exact not_heads_of_plain plain hc (a := []) hparams.symm
        | cons x c' =>
          obtain ⟨rfl, -⟩ := List.cons.inj hparams
          rw [not_isBlank_of_isWord word c (by rw [htoken]; simp)] at hc
          cases hc

theorem trim_segment (s : WrittenSegment) : Text.trim s.segment.body = s.segment.body := by
  cases s with
  | exemption permission word => exact Text.trim_of_forall (not_isBlank_of_isWord word)
  | action token params word trimmed plain =>
    rw [segment]
    split
    · exact Text.trim_of_forall (not_isBlank_of_isWord word)
    · rename_i hparams
      refine Text.trim_eq_self (fun c hc => ?_) fun c hc => ?_
      · cases token with
        | nil => exact absurd rfl (ne_nil_of_isWord word)
        | cons x token => exact not_isBlank_of_isWord word c (by rw [← Option.some.inj hc]; simp)
      · have hlast := Text.isBlank_getLast_trim (s := params)
        rw [trimmed] at hlast
        rw [List.append_cons, List.getLast?_append_of_ne_nil _ hparams] at hc
        exact hlast c hc

end WrittenSegment

structure Invocation.Calls (registry : Registry) (call : List Char × List Char) (i : Invocation) :
    Prop where
  token : i.token = (String.ofList call.1).asciiLower
  params : i.params = String.ofList call.2
  action : registry.construct (String.ofList call.1) (String.ofList call.2) = .ok i.action

structure Rule.Gains (registry : Registry) (calls : List (List Char × List Char))
    (exemptions : List (List Char)) (r r' : Rule) : Prop where
  line : r'.line = r.line
  matcher : r'.matcher = r.matcher
  actions : ∃ called, List.Forall₂ (Invocation.Calls registry) calls called ∧
    r'.actions = r.actions ++ called
  exemptions : r'.exemptions = r.exemptions ++ exemptions.map String.ofList

theorem Rule.Gains.refl (registry : Registry) (r : Rule) : Rule.Gains registry [] [] r r :=
  ⟨rfl, rfl, ⟨[], .nil, (List.append_nil _).symm⟩, (List.append_nil _).symm⟩

theorem Rule.Gains.trans {registry : Registry} {calls calls' : List (List Char × List Char)}
    {exemptions exemptions' : List (List Char)} {r s t : Rule}
    (h : Rule.Gains registry calls exemptions r s)
    (h' : Rule.Gains registry calls' exemptions' s t) :
    Rule.Gains registry (calls ++ calls') (exemptions ++ exemptions') r t where
  line := h'.line.trans h.line
  matcher := h'.matcher.trans h.matcher
  actions := by
    obtain ⟨called, hcalled, hactions⟩ := h.actions
    obtain ⟨called', hcalled', hactions'⟩ := h'.actions
    exact ⟨called ++ called', List.rel_append hcalled hcalled',
      by rw [hactions', hactions, List.append_assoc]⟩
  exemptions := by rw [h'.exemptions, h.exemptions, List.map_append, List.append_assoc]

section Segments

variable {registry : Registry}

theorem Invocation.read_action {token params : List Char} (word : isWord token = true)
    (trimmed : Text.trim params = params) {action : Action}
    (h : registry.construct (String.ofList token) (String.ofList params) = .ok action) :
    Invocation.read registry (if params = [] then token else token ++ ' ' :: params) =
      .ok ⟨(String.ofList token).asciiLower, String.ofList params, action⟩ := by
  have hcut : Text.cutAtBlank (if params = [] then token else token ++ ' ' :: params) =
      (token, params) := by
    split
    · subst params
      have hend : Text.cutAtBlank (token ++ []) = (token, []) :=
        Text.cutAtBlank_append (not_isBlank_of_isWord word) fun _ h => by cases h
      rwa [List.append_nil] at hend
    · exact Text.cutAtBlank_append (not_isBlank_of_isWord word) fun c hc => Option.some.inj hc ▸ rfl
  have hempty : token.isEmpty = false := List.isEmpty_eq_false_iff.2 (ne_nil_of_isWord word)
  simp only [Invocation.read, hcut, hempty, Bool.false_eq_true, if_false, trimmed, h]

def Registry.Builds (registry : Registry) (calls : List (List Char × List Char)) : Prop :=
  ∀ call ∈ calls, ∃ action,
    registry.construct (String.ofList call.1) (String.ofList call.2) = .ok action

theorem Rule.addSegment_segment {s : WrittenSegment} (h : registry.Builds s.calls) (r : Rule) :
    ∃ r', Rule.addSegment registry r s.segment = .ok r' ∧
      Rule.Gains registry s.calls s.exemptions r r' := by
  cases s with
  | action token params word trimmed plain =>
    obtain ⟨action, haction⟩ := h (token, params) List.mem_cons_self
    have hread := Invocation.read_action word trimmed haction
    refine ⟨{ r with actions := r.actions ++
      [⟨(String.ofList token).asciiLower, String.ofList params, action⟩] }, ?_, rfl, rfl,
      ⟨_, .cons ⟨rfl, rfl, haction⟩ .nil, rfl⟩, (List.append_nil _).symm⟩
    simp only [WrittenSegment.segment, Rule.addSegment, hread]
    rfl
  | exemption permission word =>
    have hempty : permission.isEmpty = false := List.isEmpty_eq_false_iff.2 (ne_nil_of_isWord word)
    have hblank : permission.any Text.isBlank = false := by
      rw [List.any_eq_false]
      exact fun c hc => by rw [not_isBlank_of_isWord word c hc]; exact Bool.false_ne_true
    refine ⟨{ r with exemptions := r.exemptions ++ [String.ofList permission] }, ?_, rfl, rfl,
      ⟨[], .nil, (List.append_nil _).symm⟩, rfl⟩
    simp only [WrittenSegment.segment, Rule.addSegment, hempty, hblank]
    rfl

theorem Rule.foldlM_segments {segments : List WrittenSegment}
    (h : registry.Builds (segments.flatMap (·.calls))) (r : Rule) :
    ∃ r', (segments.map (·.segment)).foldlM (Rule.addSegment registry) r = .ok r' ∧
      Rule.Gains registry (segments.flatMap (·.calls)) (segments.flatMap (·.exemptions)) r r' := by
  induction segments generalizing r with
  | nil => exact ⟨r, rfl, .refl registry r⟩
  | cons s rest ih =>
    rw [List.flatMap_cons] at h
    obtain ⟨t, ht, hgains⟩ :=
      Rule.addSegment_segment (fun call hcall => h call (List.mem_append_left _ hcall)) r
    obtain ⟨u, hu, hgains'⟩ := ih (fun call hcall => h call (List.mem_append_right _ hcall)) t
    refine ⟨u, ?_, hgains.trans hgains'⟩
    rw [List.map_cons, List.foldlM_cons, ht]
    exact hu

end Segments

theorem Pattern.source_compile {source : List Char} {caseless : Bool} {p : Pattern}
    (h : Pattern.compile source caseless = .ok p) : p.source = String.ofList source := by
  unfold Pattern.compile at h
  cases hr : Regex.ofText caseless source with
  | error fault =>
    rw [hr] at h
    cases h
  | ok r =>
    rw [hr] at h
    change (if _ then _ else _) = _ at h
    split at h
    · cases h
    · obtain rfl := Except.ok.inj h
      rfl

structure WrittenRule.Means (registry : Registry) (w : WrittenRule) (number : Nat) (r : Rule) : Prop where
  line : r.line = number
  negated : r.matcher.negated = w.negated
  caseless : r.matcher.caseless = w.caseless
  pattern : Pattern.compile w.pattern.source w.caseless = .ok r.matcher.pattern
  source : r.matcher.source = String.ofList w.pattern.source
  actions : List.Forall₂ (Invocation.Calls registry) w.calls r.actions
  exemptions : r.exemptions = w.exemptions.map String.ofList

structure WrittenRule.Accepted (registry : Registry) (w : WrittenRule) : Prop where
  compiles : ∃ p, Pattern.compile w.pattern.source w.caseless = .ok p
  builds : registry.Builds w.calls

theorem WrittenRule.readText_line {registry : Registry} {w : WrittenRule} (h : w.Accepted registry)
    (number : Nat) :
    ∃ r, Rule.readText registry number w.line = .ok r ∧ w.Means registry number r := by
  obtain ⟨p, hp⟩ := h.compiles
  have hread := w.read_fromMatcher hp (Segment.isBlank_head_writeAll (w.segments.map (·.segment)))
  have hsplit : Segment.split (Segment.writeAll (w.segments.map (·.segment))) =
      .ok (w.segments.map (·.segment)) := by
    refine Segment.split_writeAll fun s hs => ?_
    obtain ⟨s, -, rfl⟩ := List.mem_map.1 hs
    exact ⟨s.plain_segment, s.trim_segment⟩
  obtain ⟨r, hr, hgains⟩ :=
    Rule.foldlM_segments h.builds ⟨number, ⟨p, w.negated, w.caseless⟩, [], []⟩
  obtain ⟨called, hcalled, hactions⟩ := hgains.actions
  rw [List.nil_append] at hactions
  refine ⟨r, ?_, hgains.line, ?_, ?_, ?_, ?_, hactions ▸ hcalled, hgains.exemptions⟩
  · rw [Rule.readText, WrittenRule.line, hread]
    change (Segment.split _ >>= _) = _
    rw [hsplit]
    exact hr
  · rw [hgains.matcher]
  · rw [hgains.matcher]
  · rw [hgains.matcher]
    exact hp
  · rw [Matcher.source, hgains.matcher]
    exact Pattern.source_compile hp

section Ends

def EndsInk (s : List Char) : Prop := ∀ c ∈ s.getLast?, Text.isBlank c = false

theorem EndsInk.append {s t : List Char} (hs : EndsInk s) (ht : EndsInk t) : EndsInk (s ++ t) := by
  intro c hc
  rw [List.getLast?_append] at hc
  cases hlast : t.getLast? with
  | none =>
    rw [hlast, Option.none_or] at hc
    exact hs c hc
  | some d =>
    rw [hlast, Option.some_or] at hc
    exact ht c (hlast ▸ hc)

theorem endsInk_of_forall {s : List Char} (h : ∀ c ∈ s, Text.isBlank c = false) : EndsInk s :=
  fun c hc => h c (List.mem_of_mem_getLast? hc)

theorem EndsInk.append_of_ne_nil {s t : List Char} (ht : EndsInk t) (hne : t ≠ []) :
    EndsInk (s ++ t) := by
  intro c hc
  rw [List.getLast?_append_of_ne_nil _ hne] at hc
  exact ht c hc

theorem WrittenSegment.body_ne_nil (s : WrittenSegment) : s.segment.body ≠ [] := by
  cases s with
  | exemption permission word => exact ne_nil_of_isWord word
  | action token params word trimmed plain =>
    rw [segment]
    split
    · exact ne_nil_of_isWord word
    · simp

theorem endsInk_writeAll (segments : List WrittenSegment) :
    EndsInk (Segment.writeAll (segments.map (·.segment))) := by
  induction segments with
  | nil => exact fun c hc => by cases hc
  | cons s rest ih =>
    have hbody : EndsInk s.segment.body := by
      have := Text.isBlank_getLast_trim (s := s.segment.body)
      rwa [s.trim_segment] at this
    exact (hbody.append_of_ne_nil s.body_ne_nil).append ih

namespace WrittenRule

variable (w : WrittenRule)

theorem isBlank_delimiter : Text.isBlank w.pattern.delimiter = false := by
  cases w.pattern <;> rfl

theorem endsInk_line : EndsInk w.line := by
  have hdelimiter : EndsInk (w.pattern.delimiter ::
      (w.flags ++ Segment.writeAll (w.segments.map (·.segment)))) := by
    refine EndsInk.append (s := [_]) (endsInk_of_forall ?_)
      ((endsInk_of_forall isBlank_flags).append (endsInk_writeAll w.segments))
    simpa using w.isBlank_delimiter
  have hpattern : EndsInk (w.fromPattern (Segment.writeAll (w.segments.map (·.segment)))) :=
    hdelimiter.append_of_ne_nil (s := w.pattern.delimiter :: w.pattern.body) (List.cons_ne_nil _ _)
  rw [line, fromMatcher]
  split
  · exact hpattern.append_of_ne_nil (s := ['!']) (List.cons_ne_nil _ _)
  · exact hpattern

theorem head?_line : ∃ c t, w.line = c :: t ∧ Text.isBlank c = false ∧ c ≠ '#' := by
  rw [line, fromMatcher]
  split
  · exact ⟨'!', _, rfl, rfl, by decide⟩
  · refine ⟨_, _, rfl, w.isBlank_delimiter, ?_⟩
    cases w.pattern <;> simp [WrittenPattern.delimiter]

theorem trim_line : Text.trim w.line = w.line := by
  obtain ⟨c, t, heq, hc, -⟩ := w.head?_line
  refine Text.trim_eq_self (fun d hd => ?_) w.endsInk_line
  rw [heq] at hd
  exact Option.some.inj hd ▸ hc

theorem isSkipped_line : LogicalLine.isSkipped w.line = false := by
  obtain ⟨c, t, heq, -, hc⟩ := w.head?_line
  rw [heq]
  simpa [LogicalLine.isSkipped] using hc

end WrittenRule

end Ends

theorem LogicalLine.joinFrom_lines {rules : List WrittenRule}
    (h : ∀ w ∈ rules, w.line.getLast? ≠ some '\\') (number : Nat) :
    LogicalLine.joinFrom number none (rules.map (·.line)) =
      .ok ((rules.zipIdx number).map fun x => ⟨x.2, x.1.line⟩) := by
  induction rules generalizing number with
  | nil => rfl
  | cons w rest ih =>
    have hsplit : LogicalLine.splitContinuation w.line = (w.line, false) :=
      if_neg (h w List.mem_cons_self)
    rw [List.map_cons, LogicalLine.joinFrom]
    simp only [w.trim_line, w.isSkipped_line, hsplit, Bool.and_false, Bool.false_eq_true, if_false]
    rw [ih fun v hv => h v (List.mem_cons_of_mem _ hv)]
    rfl

theorem Rule.mapM_read {registry : Registry} {rules : List WrittenRule}
    (h : ∀ w ∈ rules, w.Accepted registry) (number : Nat) :
    ∃ rs, ((rules.zipIdx number).map fun x => (⟨x.2, x.1.line⟩ : LogicalLine)).mapM
        (Rule.read registry) = .ok rs ∧
      List.Forall₂ (fun x r => x.1.Means registry x.2 r) (rules.zipIdx number) rs := by
  induction rules generalizing number with
  | nil => exact ⟨[], rfl, .nil⟩
  | cons w rest ih =>
    obtain ⟨r, hr, hmeans⟩ := w.readText_line (h w List.mem_cons_self) number
    obtain ⟨rs, hrs, hall⟩ := ih (fun v hv => h v (List.mem_cons_of_mem _ hv)) (number + 1)
    have hread : Rule.read registry ⟨number, w.line⟩ = .ok r := by
      simp only [Rule.read, hr]
    refine ⟨r :: rs, ?_, .cons hmeans hall⟩
    rw [List.zipIdx_cons, List.map_cons, List.mapM_cons, hread, hrs]
    rfl

theorem Chain.ofLines_written {registry : Registry} {rules : List WrittenRule}
    (haccepted : ∀ w ∈ rules, w.Accepted registry)
    (hends : ∀ w ∈ rules, w.line.getLast? ≠ some '\\') (name : String) :
    ∃ c, Chain.ofLines registry name (rules.map (·.line)) = .ok c ∧ c.name = name ∧
      List.Forall₂ (fun x r => x.1.Means registry x.2 r) (rules.zipIdx 1) c.rules := by
  obtain ⟨rs, hrs, hall⟩ := Rule.mapM_read haccepted 1
  refine ⟨⟨name, rs⟩, ?_, rfl, hall⟩
  rw [Chain.ofLines, LogicalLine.ofLines, LogicalLine.joinFrom_lines hends]
  change Except.bind (List.mapM (Rule.read registry) _) _ = _
  rw [hrs]
  rfl

def denying (word : String) : Registry := Registry.empty.register .core word fun _ => .ok .deny

def twoRules : List WrittenRule :=
  [ { negated := true
      pattern := .literal "a\"b".toList (by decide +kernel)
      caseless := false
      segments :=
        [ .action "Then".toList "thenceforth, please".toList (by decide +kernel)
            (by decide +kernel) (fun k => by cases k <;> decide +kernel),
          .exemption "unless".toList (by decide +kernel) ] },
    { negated := false
      pattern := .expression "x/[y]".toList (by decide +kernel) (by decide +kernel)
      caseless := false
      segments := [] } ]

example : twoRules.map (fun w => String.ofList w.line) =
    ["!\"a\\\"b\" then Then thenceforth, please unless unless", "/x\\/[y]/"] := by decide +kernel

theorem ofLines_written_twoRules :
    ∃ c, Chain.ofLines (denying "then") "chat" (twoRules.map (·.line)) = .ok c ∧ c.name = "chat" ∧
      List.Forall₂ (fun x r => x.1.Means (denying "then") x.2 r) (twoRules.zipIdx 1) c.rules := by
  have hcompiles : ∀ w ∈ twoRules, (Pattern.compile w.pattern.source w.caseless).isOk = true := by
    decide +kernel
  have hbuilds : ∀ w ∈ twoRules, ∀ call ∈ w.calls,
      ((denying "then").construct (String.ofList call.1) (String.ofList call.2)).isOk = true := by
    decide +kernel
  exact Chain.ofLines_written
    (fun w hw => ⟨exists_ok (hcompiles w hw), fun call hcall => exists_ok (hbuilds w hw call hcall)⟩)
    (by decide +kernel) "chat"

end Moderation
