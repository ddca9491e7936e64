import Moderation.Action.Vocabulary
import Moderation.Service.Evaluation
import Moderation.Proofs.Colored.Glyphs
import Moderation.Proofs.Evaluation.Order
import Moderation.Proofs.Regex.Escape
import Moderation.Proofs.Regex.Literal
import Moderation.Proofs.Rule.RoundTrip

namespace Moderation

open Regex

def substitute (s w : List Char) : List Char → List Char
  | [] => []
  | c :: rest =>
    if s <+: c :: rest then w ++ substitute s w (rest.drop (s.length - 1))
    else c :: substitute s w rest
termination_by text => text.length

section Substitution

variable {s : List Char} (w : List Char)

theorem substitute_append (hs : s ≠ []) (rest : List Char) :
    substitute s w (s ++ rest) = w ++ substitute s w rest := by
  obtain ⟨c, text, htext⟩ : ∃ c text, s ++ rest = c :: text :=
    List.exists_cons_of_ne_nil (List.append_ne_nil_of_left_ne_nil hs rest)
  have hprefix : s <+: c :: text := ⟨rest, htext⟩
  rw [htext, substitute, if_pos hprefix, drop_of_append_eq_cons hs htext]

theorem substitute_of_not_isInfix {text : List Char} (h : ¬s <:+: text) : substitute s w text = text := by
  induction text with
  | nil => rw [substitute]
  | cons c rest ih =>
    rw [List.infix_cons_iff, not_or] at h
    rw [substitute, if_neg h.1, ih h.2]

theorem spliceFrom_cons {pos : Nat} {c : Char} {rest : List Char} {rs : List ColoredText.Replacement}
    (h : ∀ r ∈ rs, pos + 1 ≤ r.start) :
    ColoredText.spliceFrom pos (c :: rest) rs = c :: ColoredText.spliceFrom (pos + 1) rest rs := by
  cases rs with
  | nil => rfl
  | cons r rs =>
    have hstart : r.start - pos = r.start - (pos + 1) + 1 := by
      have := h r List.mem_cons_self
      omega
    rw [ColoredText.spliceFrom, ColoredText.spliceFrom, hstart]
    rfl

theorem le_start_of_mem_occurrences {pos : Nat} {text : List Char} :
    ∀ span ∈ occurrences s pos text, pos ≤ span.start := by
  fun_induction occurrences s pos text with
  | case1 => exact fun _ h => absurd h List.not_mem_nil
  | case2 pos c rest _ ih =>
    intro span h
    rcases List.mem_cons.1 h with rfl | h
    · exact Nat.le_refl _
    · exact (Nat.le_add_right _ _).trans (ih span h)
  | case3 pos c rest _ ih => exact fun span h => Nat.le_of_succ_le (ih span h)

theorem spliceFrom_occurrences (hs : s ≠ []) (pos : Nat) (text : List Char) :
    ColoredText.spliceFrom pos text
      ((occurrences s pos text).map fun span => ⟨span.start, span.stop, w⟩) = substitute s w text := by
  fun_induction occurrences s pos text with
  | case1 pos => rw [substitute]; rfl
  | case2 pos c rest hprefix ih =>
    obtain ⟨t, ht⟩ := hprefix
    have htaken : (c :: rest).drop s.length = t := by rw [← ht, List.drop_left]
    rw [drop_of_append_eq_cons hs ht] at ih ⊢
    rw [← ht, substitute_append w hs, ← ih, ht]
    simp only [List.map_cons, ColoredText.spliceFrom, Nat.sub_self, List.take_zero, List.nil_append,
      List.drop_zero, Nat.add_sub_cancel_left, htaken]
  | case3 pos c rest hprefix ih =>
    rw [substitute, if_neg hprefix, ← ih]
    refine spliceFrom_cons fun r hr => ?_
    obtain ⟨span, hspan, rfl⟩ := List.mem_map.1 hr
    exact le_start_of_mem_occurrences span hspan

theorem glyphs_replaceMatches_literal (hs : s ≠ []) (source : String) (t : ColoredText) :
    (t.replaceMatches ⟨source, compile (literal s)⟩ fun _ => w).glyphs = substitute s w t.glyphs := by
  have hspans : Pattern.spans ⟨source, compile (literal s)⟩ t.glyphs = occurrences s 0 t.glyphs :=
    findAll_literal hs t.glyphs
  rw [ColoredText.replaceMatches, ColoredText.glyphs_replaceAll, ColoredText.replacements, hspans]
  exact spliceFrom_occurrences w hs 0 t.glyphs

end Substitution

def quoted (s : List Char) : List Char := s.flatMap fun c => if c = '"' ∨ c = '\\' then ['\\', c] else [c]

def literalLine (s w : List Char) : List Char := '"' :: quoted s ++ "\" then replace ".toList ++ w

def literalRule (s w : List Char) : Rule where
  line := 1
  matcher := ⟨⟨String.ofList (escape s), compile (literal s)⟩, false, false⟩
  actions := [⟨"replace", String.ofList w, .replace (String.ofList w)⟩]
  exemptions := []

section Reading

variable {s w : List Char}

theorem construct_replace (params : String) :
    Registry.standard.construct "replace" params = .ok (.replace params) := rfl

variable (hs : s ≠ []) (htrim : Text.trim w = w)
  (hwords : ∀ k : Keyword, k.word ∉ w.splitOnP Text.isBlank)

def writtenLiteral : WrittenRule where
  negated := false
  pattern := .literal s hs
  caseless := false
  segments := [.action "replace".toList w (by decide +kernel) htrim hwords]

theorem line_writtenLiteral : (writtenLiteral hs htrim hwords).line =
    '"' :: quoted s ++ "\" then replace".toList ++ if w = [] then [] else ' ' :: w := by
  have hbody : (writtenLiteral hs htrim hwords).segments.map (·.segment) =
      [⟨.andThen, "replace".toList ++ if w = [] then [] else ' ' :: w⟩] := by
    rw [writtenLiteral, List.map_singleton, WrittenSegment.segment]
    split <;> rfl
  rw [WrittenRule.line, hbody, Segment.writeAll, List.flatMap_singleton, Segment.write,
    List.cons_append, List.cons_append, List.append_assoc]
  rfl

theorem trim_literalLine : Text.trim (literalLine s w) = (writtenLiteral hs htrim hwords).line := by
  have htrimmed := (writtenLiteral hs htrim hwords).trim_line
  rw [line_writtenLiteral] at htrimmed ⊢
  have hline : literalLine s w = '"' :: quoted s ++ "\" then replace".toList ++ ' ' :: w := by
    rw [literalLine, List.append_cons _ ' ' w, List.append_assoc _ _ [' ']]
    rfl
  rw [hline]
  by_cases hw : w = []
  · rw [if_pos hw, List.append_nil] at htrimmed ⊢
    have hspace : ∀ c ∈ [' '], Text.isBlank c = true :=
      List.forall_mem_singleton.2 Segment.isBlank_space
    rw [hw, Text.trim_append_blanks hspace, htrimmed]
  · rw [if_neg hw] at htrimmed ⊢
    exact htrimmed

theorem getLast?_writtenLiteral (hends : w.getLast? ≠ some '\\') :
    (writtenLiteral hs htrim hwords).line.getLast? ≠ some '\\' := by
  rw [line_writtenLiteral]
  split
  · rw [List.append_nil, List.getLast?_append_of_ne_nil _ (by decide)]
    decide
  · rename_i hw
    rw [List.append_cons, List.getLast?_append_of_ne_nil _ hw]
    exact hends

theorem readText_literalLine (hsize : Pattern.compile (escape s) false ≠ .error .tooLarge) :
    Rule.readText .standard 1 (writtenLiteral hs htrim hwords).line = .ok (literalRule s w) := by
  have hcompile := Pattern.compile_escape hsize
  have haccepted : (writtenLiteral hs htrim hwords).Accepted .standard :=
    ⟨⟨_, hcompile⟩, fun call hcall => by
      obtain rfl := List.mem_singleton.1 hcall
      exact ⟨_, construct_replace _⟩⟩
  obtain ⟨r, hr, hmeans⟩ := WrittenRule.readText_line haccepted 1
  obtain ⟨line, ⟨pattern, negated, caseless⟩, actions, exemptions⟩ := r
  obtain rfl : line = 1 := hmeans.line
  obtain rfl : negated = false := hmeans.negated
  obtain rfl : caseless = false := hmeans.caseless
  obtain rfl : exemptions = [] := hmeans.exemptions
  obtain rfl := Except.ok.inj (hcompile.symm.trans hmeans.pattern)
  have hactions : actions = (literalRule s w).actions := by
    obtain _ | @⟨_, call, _, _, hcall, hrest⟩ := hmeans.actions
    obtain _ | _ := hrest
    obtain ⟨token, params, action⟩ := call
    have hword : (String.ofList "replace".toList).asciiLower = "replace" := by decide
    obtain rfl : token = "replace" := hcall.token.trans hword
    obtain rfl : params = String.ofList w := hcall.params
    obtain rfl : .replace (String.ofList w) = action :=
      Except.ok.inj ((construct_replace _).symm.trans hcall.action)
    rfl
  subst hactions
  exact hr

include hs htrim hwords in
theorem ofLines_literalLine (hends : w.getLast? ≠ some '\\')
    (hsize : Pattern.compile (escape s) false ≠ .error .tooLarge) (name : String) :
    Chain.ofLines .standard name [literalLine s w] = .ok ⟨name, [literalRule s w]⟩ := by
  have hsplit : LogicalLine.splitContinuation (writtenLiteral hs htrim hwords).line =
      ((writtenLiteral hs htrim hwords).line, false) :=
    if_neg (getLast?_writtenLiteral hs htrim hwords hends)
  have hlines : LogicalLine.ofLines [literalLine s w] =
      .ok [⟨1, (writtenLiteral hs htrim hwords).line⟩] := by
    simp only [LogicalLine.ofLines, LogicalLine.joinFrom, trim_literalLine hs htrim hwords,
      WrittenRule.isSkipped_line, hsplit, Bool.and_false, Bool.false_eq_true, if_false]
    rfl
  have hread : Rule.read .standard ⟨1, (writtenLiteral hs htrim hwords).line⟩ =
      .ok (literalRule s w) := by
    simp only [Rule.read, readText_literalLine hs htrim hwords hsize]
  rw [Chain.ofLines, hlines]
  change Except.bind (List.mapM (Rule.read .standard) _) _ = _
  rw [List.mapM_cons, hread]
  rfl

end Reading

section Evaluation

variable {s w : List Char}

theorem fill_of_not_mem {t : Tags} {template : String} (h : '%' ∉ template.toList) (c : Context) :
    t.fill template c = template := by
  rw [Tags.fill, if_neg]
  rwa [List.contains_iff_mem]

theorem perform_replace (env : Environment) (text : String) (s : Stage) :
    perform env (.replace text) s =
      some (.ok (s.withContext (s.context.replaceMatches fun _ => (env.fill s text).toList))) := by
  obtain ⟨fire, hfire⟩ := performWithin_eq_step env env.nesting
  rw [perform, hfire]
  rfl

theorem runRule_literalRule (hs : s ≠ []) (htags : '%' ∉ w) (env : Environment) (stage : Stage)
    (m : Metrics) :
    ∃ r, runRule env (literalRule s w) stage m = some r ∧
      r.1.context.matchedLines = stage.context.matchedLines ++ [1] ∧
      r.1.context.modified.glyphs = substitute s w stage.context.modified.glyphs := by
  have hfill : ∀ s : Stage, env.fill s (String.ofList w) = String.ofList w := fun s =>
    fill_of_not_mem (by rwa [String.toList_ofList]) s.context
  simp only [runRule, literalRule, runActions, perform_replace, hfill, String.toList_ofList,
    Option.bind_some, contained, Option.map_some]
  exact ⟨_, rfl, rfl, glyphs_replaceMatches_literal w hs _ _⟩

theorem runRules_literalRule (hs : s ≠ []) (htags : '%' ∉ w) (env : Environment) {stage : Stage}
    (hhalted : stage.context.halted = false) (m : Metrics) :
    ∃ r, runRules env [literalRule s w] stage m = some r ∧
      r.1.context.matchedLines = stage.context.matchedLines ++
        (if s <:+: stage.context.modified.glyphs then [1] else []) ∧
      r.1.context.modified.glyphs = substitute s w stage.context.modified.glyphs := by
  have hmatches : (literalRule s w).matcher.applies stage.context.modified.glyphs = true ↔
      s <:+: stage.context.modified.glyphs := by
    rw [Matcher.applies, bne_iff_ne, ← matches_literal]
    simp [literalRule, Pattern.isIn]
  have hexempts : (literalRule s w).exempts stage.context.author = false := rfl
  simp only [runRules, hhalted, hexempts, Bool.false_eq_true, if_false]
  by_cases hwithin : s <:+: stage.context.modified.glyphs
  · obtain ⟨r, hr, hlines, hglyphs⟩ := runRule_literalRule hs htags env stage
      { m with evaluated := m.evaluated + 1, matched := m.matched + 1 }
    rw [if_pos (hmatches.2 hwithin), if_pos hwithin, hr]
    exact ⟨r, rfl, hlines, hglyphs⟩
  · rw [if_neg fun h => hwithin (hmatches.1 h), if_neg hwithin, substitute_of_not_isInfix w hwithin]
    exact ⟨_, rfl, (List.append_nil _).symm, rfl⟩

end Evaluation

/-- A rule that replaces a literal is read from its line, and it replaces exactly the leftmost occurrences of
the literal that do not overlap; it matches if and only if there are any. -/
theorem literalRule_substitutes {s w : List Char} (hs : s ≠ []) (htrim : Text.trim w = w)
    (htags : '%' ∉ w) (hwords : ∀ k : Keyword, k.word ∉ w.splitOnP Text.isBlank)
    (hends : w.getLast? ≠ some '\\') (hsize : Pattern.compile (escape s) false ≠ .error .tooLarge)
    (name : String) :
    ∃ rule, Chain.ofLines .standard name [literalLine s w] = .ok ⟨name, [rule]⟩ ∧
      ∀ (service : Service) (text : String) (author : Author),
        service.chain? name = some ⟨name, [rule]⟩ →
        let shown := (ColoredText.ofString text).glyphs
        ∃ reply, service.evaluate name text author = some reply ∧
          reply.answer.matchedLines = (if s <:+: shown then [1] else []) ∧
          reply.answer.display = String.ofList (substitute s w shown) := by
  refine ⟨literalRule s w, ofLines_literalLine hs htrim hwords hends hsize name,
    fun service text author hchain => ?_⟩
  let stage : Stage := ⟨{ Context.ofString author text with chain := some name }, service.world⟩
  obtain ⟨r, hr, hlines, hglyphs⟩ := runRules_literalRule hs htags service.environment
    (show stage.context.halted = false from rfl) {}
  have hexecute : execute service.environment ⟨name, [literalRule s w]⟩
      ⟨.ofString author text, service.world⟩ = some r := hr
  simp only [Service.evaluate, hchain, hexecute, Option.map_some]
  exact ⟨_, rfl, hlines, congrArg String.ofList hglyphs⟩

theorem literalRule_substitutes_plusses :
    ∃ rule, Chain.ofLines .standard "chat" ["\"+\\\"+\" then replace -".toList] = .ok ⟨"chat", [rule]⟩ ∧
      ∃ reply, ((Service.initial .standard .standard .log true).putChain ⟨"chat", [rule]⟩).evaluate
          "chat" "x§c+\"+\"+\"+y" ⟨"steve", "steve", fun _ => false, fun _ _ => .ok ()⟩ = some reply ∧
        reply.answer.matchedLines = [1] ∧ reply.answer.display = "x-\"-y" := by
  have hsize : Pattern.compile (escape "+\"+".toList) false ≠ .error .tooLarge := by
    have hok : (Pattern.compile (escape "+\"+".toList) false).isOk = true := by decide +kernel
    intro h
    rw [h] at hok
    cases hok
  obtain ⟨rule, hrule, heval⟩ := literalRule_substitutes (s := "+\"+".toList) (w := "-".toList)
    (by decide) (by decide) (by decide) (fun k => by cases k <;> decide +kernel) (by decide) hsize
    "chat"
  obtain ⟨reply, hreply, hlines, hdisplay⟩ := heval
    ((Service.initial .standard .standard .log true).putChain ⟨"chat", [rule]⟩) "x§c+\"+\"+\"+y"
    ⟨"steve", "steve", fun _ => false, fun _ _ => .ok ()⟩ rfl
  refine ⟨rule, hrule, reply, hreply, hlines.trans ?_, hdisplay.trans ?_⟩
  · decide +kernel
  · decide +kernel

end Moderation
