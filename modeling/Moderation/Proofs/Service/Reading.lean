import Moderation.Service.Evaluation
import Moderation.Proofs.Evaluation.Message
import Moderation.Proofs.Rule.LiteralRule

namespace Moderation.Service

open ColoredText

def finalMessage (s : Service) (name text : String) (author : Author) : Option ColoredText :=
  match s.chain? name with
  | none => some (.ofString text)
  | some chain =>
    (execute s.environment chain ⟨.ofString author text, s.world⟩).map (·.1.context.modified)

theorem answer_evaluate (s : Service) (name text : String) (author : Author) :
    (s.evaluate name text author).map (fun r => (r.answer.text, r.answer.display)) =
      (s.finalMessage name text author).map fun t => (t.rawString, t.plainString) := by
  unfold evaluate finalMessage
  cases s.chain? name with
  | none => rfl
  | some chain =>
    simp only [Option.map_map]
    rfl

structure Allows (s : Service) (name : String) (ok : Action → Prop) : Prop where
  chain : ∀ c, s.chain? name = some c → ∀ r ∈ c.rules, ∀ i ∈ r.actions, ok i.action
  table : AllActions s.scores.table ok

theorem Allows.mono {s : Service} {name : String} {ok ok' : Action → Prop} (h : s.Allows name ok)
    (hok : ∀ a, ok a → ok' a) : s.Allows name ok' where
  chain c hc r hr i hi := hok _ (h.chain c hc r hr i hi)
  table := h.table.mono hok

theorem finalMessage_keeps {s : Service} {name text : String} {author : Author} {t : ColoredText}
    {P : ColoredText → Prop} (h : s.Allows name (Action.KeepsText s.tags P))
    (htext : P (.ofString text)) (ht : s.finalMessage name text author = some t) : P t := by
  unfold finalMessage at ht
  cases hchain : s.chain? name with
  | none =>
    rw [hchain] at ht
    obtain rfl := Option.some.inj ht
    exact htext
  | some chain =>
    rw [hchain] at ht
    obtain ⟨⟨stage, m⟩, hrun, rfl⟩ := Option.map_eq_some_iff.1 ht
    have hrules : ∀ r ∈ chain.rules, ∀ i ∈ r.actions, i.action.KeepsText s.environment.tags P :=
      h.chain chain hchain
    exact modified_execute hrules h.table hrun htext

/-- The display text is what the text shows if it is read again exactly if the message is legible. It always is
if nothing is replaced, or if the message shows no marker at first and none is put in. -/
theorem display_eq_reread_iff (s : Service) (name text : String) (author : Author)
    {r : Reply Outcome} (h : s.evaluate name text author = some r) :
    ∃ t, s.finalMessage name text author = some t ∧
      r.answer.text = t.rawString ∧ r.answer.display = t.plainString ∧
      (r.answer.display = (ofString r.answer.text).plainString ↔ t.Legible) ∧
      (ofString r.answer.text = t ↔ t.Readable) ∧
      (s.Allows name Action.NeverReplaces → ofString r.answer.text = t) ∧
      (s.Allows name (Action.PutsNoMarker s.tags) → (ofString text).ShowsNoMarker →
        ofString r.answer.text = t) := by
  have hanswer := answer_evaluate s name text author
  rw [h, Option.map_some] at hanswer
  obtain ⟨t, ht, hpair⟩ := Option.map_eq_some_iff.1 hanswer.symm
  obtain ⟨htext, hdisplay⟩ := Prod.mk.inj hpair
  have hread : ofString t.rawString = ofRaw t.raw := by rw [ofString, rawString, String.toList_ofList]
  have hsame : ofString r.answer.text = t ↔ t.Readable := by rw [← htext, hread, ofRaw_raw_iff]
  refine ⟨t, ht, htext.symm, hdisplay.symm, ?_, hsame, fun hallows => ?_, fun hallows hshows => ?_⟩
  · rw [← hdisplay, ← htext, hread, ← glyphs_ofRaw_raw_iff]
    exact ⟨fun heq => (String.ofList_injective heq).symm, fun heq => congrArg String.ofList heq.symm⟩
  · exact hsame.2
      (finalMessage_keeps (hallows.mono fun _ ha => ha.keepsText s.tags) (readable_ofRaw _) ht)
  · exact hsame.2 (readable_of_showsNoMarker
      (finalMessage_keeps (hallows.mono fun _ ha => ha.keepsText) hshows ht))

def starringService : Service :=
  let darn : Matcher := ⟨⟨"darn", Regex.compile (.literal "darn".toList)⟩, false, false⟩
  { Service.initial .standard .standard .log true with
    chains :=
      [("coded", ⟨"coded", [⟨1, darn, [⟨"replace", "§c****§r", .replace "§c****§r"⟩], []⟩]⟩),
        ("plain", ⟨"plain", [⟨1, darn, [⟨"replace", "****", .replace "****"⟩], []⟩]⟩),
        ("loud", ⟨"loud", [⟨1, darn, [⟨"upper", "", .changeCase true⟩,
          ⟨"rewrite", "§c%string%§", .restate "§c%string%§"⟩], []⟩]⟩)] }

theorem allows_plain : starringService.Allows "plain" (Action.PutsNoMarker .standard) where
  chain c hc r hr i hi := by
    obtain rfl := Option.some.inj hc
    obtain rfl := List.mem_singleton.1 hr
    obtain rfl := List.mem_singleton.1 hi
    intro c _
    rw [fill_of_not_mem (by decide)]
    decide
  table t ht := by cases ht

theorem allows_loud : starringService.Allows "loud" Action.NeverReplaces where
  chain c hc r hr i hi := by
    obtain rfl := Option.some.inj hc
    obtain rfl := List.mem_singleton.1 hr
    simp only [List.mem_cons, List.not_mem_nil, or_false] at hi
    rcases hi with rfl | rfl
    · trivial
    · trivial
  table t ht := by cases ht

theorem display_eq_reread_iff_starring :
    let author : Author := ⟨"steve", "steve", fun _ => false, fun _ _ => .ok ()⟩
    (∃ r t, starringService.evaluate "coded" "darn it" author = some r ∧
      starringService.finalMessage "coded" "darn it" author = some t ∧ ¬t.Legible ∧
      r.answer.display = "§c****§r it" ∧ (ofString r.answer.text).plainString = "**** it") ∧
    (∃ r t, starringService.evaluate "plain" "§adarn it" author = some r ∧
      starringService.Allows "plain" (Action.PutsNoMarker .standard) ∧
      (ofString "§adarn it").ShowsNoMarker ∧ r.answer.text = "§a**** it" ∧
      starringService.finalMessage "plain" "§adarn it" author = some t ∧ ofString r.answer.text = t) ∧
    ∃ r t, starringService.evaluate "loud" "darn it§" author = some r ∧
      starringService.Allows "loud" Action.NeverReplaces ∧ r.answer.text = "§cDARN it§§" ∧
      starringService.finalMessage "loud" "darn it§" author = some t ∧ ofString r.answer.text = t := by
  intro author
  have hcoded : (starringService.evaluate "coded" "darn it" author).map (fun r =>
      (r.answer.display, (ofString r.answer.text).plainString)) = some ("§c****§r it", "**** it") := by
    decide +kernel
  have hplain : (starringService.evaluate "plain" "§adarn it" author).map (·.answer.text) =
      some "§a**** it" := by decide +kernel
  have hloud : (starringService.evaluate "loud" "darn it§" author).map (·.answer.text) =
      some "§cDARN it§§" := by decide +kernel
  refine ⟨?_, ?_, ?_⟩
  · obtain ⟨r, hr, hpair⟩ := Option.map_eq_some_iff.1 hcoded
    obtain ⟨hdisplay, hreread⟩ := Prod.mk.inj hpair
    obtain ⟨t, ht, -, -, hlegible, -⟩ := display_eq_reread_iff starringService "coded" "darn it" author hr
    refine ⟨r, t, hr, ht, fun h => ?_, hdisplay, hreread⟩
    have heq := hlegible.2 h
    rw [hdisplay, hreread] at heq
    exact absurd heq (by decide)
  · obtain ⟨r, hr, htext⟩ := Option.map_eq_some_iff.1 hplain
    have hshows : (ofString "§adarn it").ShowsNoMarker := by
      unfold ShowsNoMarker
      decide
    obtain ⟨t, ht, -, -, -, -, -, hreread⟩ :=
      display_eq_reread_iff starringService "plain" "§adarn it" author hr
    exact ⟨r, t, hr, allows_plain, hshows, htext, ht, hreread allows_plain hshows⟩
  · obtain ⟨r, hr, htext⟩ := Option.map_eq_some_iff.1 hloud
    obtain ⟨t, ht, -, -, -, -, hreread, -⟩ :=
      display_eq_reread_iff starringService "loud" "darn it§" author hr
    exact ⟨r, t, hr, allows_loud, htext, ht, hreread allows_loud⟩

end Moderation.Service
