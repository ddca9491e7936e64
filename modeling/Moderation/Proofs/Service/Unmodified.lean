import Moderation.Proofs.Service.Reading
import Moderation.Proofs.Service.Verdict

namespace Moderation

open ColoredText

structure Outcome.Carries (o : Outcome) (t : String) : Prop where
  text : o.text = t
  display : o.display = (ofString t).decolor.rawString

theorem Outcome.carries_untouched (text : String) : (Outcome.untouched text).Carries text where
  text := rawString_ofString text
  display := (rawString_decolor _).symm

namespace Service

variable {s : Service} {kind : FilterKind} {name text : String} {author : Author} {r : Reply Outcome}

theorem modified_evaluate (hkeeps : s.Allows name (Action.Keeps (·.received)))
    (h : s.evaluate name text author = some r) :
    r.answer.modified = false ↔ s.finalMessage name text author = some (.ofString text) := by
  unfold evaluate at h
  unfold finalMessage
  cases hchain : s.chain? name with
  | none =>
    rw [hchain] at h
    obtain rfl := Option.some.inj h
    exact ⟨fun _ => rfl, fun _ => rfl⟩
  | some chain =>
    rw [hchain] at h
    obtain ⟨⟨stage, m⟩, hrun, rfl⟩ := Option.map_eq_some_iff.1 h
    have hreceived : stage.context.received = .ofString text :=
      ((conserved_keeps s.environment fun _ _ _ _ _ _ _ _ => rfl).runRules
        (hkeeps.chain chain hchain) hkeeps.table hrun).field
    change (stage.context.modified != stage.context.received) = false ↔ _
    simp only [hrun, Option.map_some, Option.some.injEq]
    rw [hreceived, bne_eq_false_iff_eq]

theorem carries_evaluate (h : s.evaluate name text author = some r)
    (hsame : s.finalMessage name text author = some (.ofString text)) : r.answer.Carries text := by
  have hanswer := answer_evaluate s name text author
  rw [h, hsame, Option.map_some, Option.map_some] at hanswer
  obtain ⟨htext, hdisplay⟩ := Prod.mk.inj (Option.some.inj hanswer)
  exact ⟨htext.trans (rawString_ofString text), hdisplay.trans (rawString_decolor _).symm⟩

theorem cancelEmptied_eq (kind : FilterKind) (o : Outcome) :
    cancelEmptied kind o = { o with cancelled := (cancelEmptied kind o).cancelled } := by
  unfold cancelEmptied
  split <;> rfl

def decolors (s : Service) (text : String) (author : Author) : Bool :=
  s.config.decolor && !author.may colorPermission && (ofString text).hasCodes

theorem answer_carryOut_evaluated {target : FilterKind} {remember : Bool}
    (h : s.carryOut kind text author (.evaluated target remember) = some r) :
    if s.decolors text author then r.answer.modified = true
    else ∃ r', s.evaluate target.name text author = some r' ∧
      r.answer = cancelEmptied kind r'.answer := by
  obtain ⟨r', hr', rfl⟩ := Option.map_eq_some_iff.1 h
  simp only [evaluateRouted] at hr'
  unfold decolors
  split at hr'
  · rename_i hdecolors
    rw [if_pos hdecolors]
    obtain ⟨r'', -, rfl⟩ := Option.map_eq_some_iff.1 hr'
    dsimp only
    rw [cancelEmptied_eq]
  · rename_i hdecolors
    rw [if_neg hdecolors]
    have hanswer := answer_evaluate_remembering s text remember author.id target.name text author
    have hrun : (s.remembering text remember author.id).evaluate target.name text author = some r' := hr'
    rw [hrun] at hanswer
    obtain ⟨r'', hr'', heq⟩ := Option.map_eq_some_iff.1 hanswer.symm
    exact ⟨r'', hr'', congrArg (cancelEmptied kind) heq.symm⟩

theorem modified_filter (hkeeps : ∀ name, s.Allows name (Action.Keeps (·.received)))
    (h : s.filter kind text author = some r) :
    (r.answer.modified = false ↔
        ∀ target remember, s.verdict kind text author = .evaluated target remember →
          s.decolors text author = false ∧
            s.finalMessage target.name text author = some (.ofString text)) ∧
      (r.answer.modified = false → r.answer.Carries text) := by
  rw [filter_eq_carryOut] at h
  cases hverdict : s.verdict kind text author with
  | evaluated target remember =>
    rw [hverdict] at h
    have hanswer := answer_carryOut_evaluated h
    split at hanswer
    · -- Without its codes the message counts as modified, whatever the chain makes of it.
      rename_i hdecolors
      rw [hanswer]
      refine ⟨⟨fun hfalse => Bool.noConfusion hfalse, fun hall => ?_⟩, fun hfalse => Bool.noConfusion hfalse⟩
      have hnot := (hall target remember rfl).1
      rw [hdecolors] at hnot
      exact hnot
    · rename_i hdecolors
      obtain ⟨r', hr', heq⟩ := hanswer
      have hevaluate := modified_evaluate (hkeeps target.name) hr'
      rw [heq, cancelEmptied_eq]
      refine ⟨⟨fun hfalse target' remember' hsame => ?_, fun hall => ?_⟩, fun hfalse => ?_⟩
      · obtain ⟨rfl, rfl⟩ := Verdict.evaluated.inj hsame
        exact ⟨Bool.eq_false_iff.2 hdecolors, hevaluate.1 hfalse⟩
      · exact hevaluate.2 (hall target remember rfl).2
      · have hcarries := carries_evaluate hr' (hevaluate.1 hfalse)
        exact ⟨hcarries.text, hcarries.display⟩
  | _ =>
    rw [hverdict] at h
    obtain rfl := Option.some.inj h
    have hcarries := Outcome.carries_untouched text
    refine ⟨⟨fun _ target remember hsame => ?_, fun _ => rfl⟩, fun _ => ⟨hcarries.text, hcarries.display⟩⟩
    cases hsame

/-- An outcome that says that nothing was modified has the text that the host passed in, and shows it without its
codes. An evaluation says so exactly if its last message is its first one. A filter says so exactly if it does not
run the message through a chain, or if it takes no codes away and the chain says so. -/
theorem carries_of_not_modified (s : Service) (text : String) (author : Author)
    (hkeeps : ∀ name, s.Allows name (Action.Keeps (·.received))) :
    (∀ name r, s.evaluate name text author = some r →
      (r.answer.modified = false ↔ s.finalMessage name text author = some (.ofString text)) ∧
        (r.answer.modified = false → r.answer.Carries text)) ∧
      ∀ kind r, s.filter kind text author = some r →
        (r.answer.modified = false ↔
            ∀ target remember, s.verdict kind text author = .evaluated target remember →
              s.decolors text author = false ∧
                s.finalMessage target.name text author = some (.ofString text)) ∧
          (r.answer.modified = false → r.answer.Carries text) := by
  refine ⟨fun name r h => ?_, fun kind r h => modified_filter hkeeps h⟩
  have hmodified := modified_evaluate (hkeeps name) h
  exact ⟨hmodified, fun hfalse => carries_evaluate h (hmodified.1 hfalse)⟩

def echoingService : Service :=
  { Service.initial .empty .none .log true with
    config := { decolor := true }
    chains := [("chat", ⟨"chat", [⟨1, ⟨⟨"b", Regex.compile (.literal ['b'])⟩, false, false⟩,
      [⟨"replace", "b", .replace "b"⟩, ⟨"audit", "", .host fun c => .ok (c.note "audited")⟩], []⟩]⟩)] }

theorem keeps_echoing (name : String) : echoingService.Allows name (Action.Keeps (·.received)) where
  chain c hc r hr i hi := by
    have hlookup := hc.symm.trans (Points.Scoreboard.lookup_cons_eq_ite ..)
    split at hlookup
    · obtain rfl := Option.some.inj hlookup
      obtain rfl := List.mem_singleton.1 hr
      rcases List.mem_pair.1 hi with rfl | rfl
      · trivial
      · intro c c' hrun
        obtain rfl := Except.ok.inj hrun
        rfl
    · cases hlookup
  table t ht := by cases ht

theorem carries_of_not_modified_echoing :
    ∃ r r', echoingService.evaluate "chat" "a§cbc" steve = some r ∧ r.answer.Carries "a§cbc" ∧
      r.answer.notes = ["audited"] ∧ echoingService.filter .chat "a§cbc" steve = some r' ∧
      r'.answer.modified = true ∧ ¬r'.answer.Carries "a§cbc" := by
  have hevaluate : (echoingService.evaluate "chat" "a§cbc" steve).map
      (fun r => (r.answer.modified, r.answer.notes)) = some (false, ["audited"]) := by decide +kernel
  have hfilter : (echoingService.filter .chat "a§cbc" steve).map
      (fun r => (r.answer.modified, r.answer.text)) = some (true, "abc") := by decide +kernel
  obtain ⟨r, hr, heq⟩ := Option.map_eq_some_iff.1 hevaluate
  obtain ⟨hmodified, hnotes⟩ := Prod.mk.inj heq
  obtain ⟨r', hr', heq'⟩ := Option.map_eq_some_iff.1 hfilter
  obtain ⟨hmodified', htext'⟩ := Prod.mk.inj heq'
  have hcarries := (carries_of_not_modified echoingService "a§cbc" steve keeps_echoing).1 "chat" r hr
  refine ⟨r, r', hr, hcarries.2 hmodified, hnotes, hr', hmodified', fun h => ?_⟩
  have htext := h.text
  rw [htext'] at htext
  exact absurd htext (by decide)

end Service

end Moderation
