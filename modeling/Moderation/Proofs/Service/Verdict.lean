import Moderation.Service.Filter
import Moderation.Proofs.Colored.Glyphs
import Moderation.Proofs.Service.Configuration

/-!
What is decided about a message before a chain sees it. The decision is made on the text with its color
codes, which are taken away only afterwards, so codes can change it.
-/

namespace Moderation

inductive Verdict where
  | untouched
  | muted
  | repeated
  /-- The message runs through a chain; `remember` tells whether it is kept as its author's last one. -/
  | evaluated (target : FilterKind) (remember : Bool)
  deriving DecidableEq, Repr

def Verdict.target? : Verdict → Option FilterKind
  | .untouched => none
  | .muted => some .chat
  | .repeated => some .chat
  | .evaluated target _ => some target

theorem route_eq_iff_target {c : Config} {kind : FilterKind} {text text' : String} :
    route c kind text = route c kind text' ↔
      (route c kind text).map Route.target = (route c kind text').map Route.target := by
  refine ⟨fun h => by rw [h], fun h => ?_⟩
  cases kind with
  | chat => rfl
  | console => rfl
  | command =>
    have hcases : ∀ t, route c .command t = some (.chat c.commands.spamFilter) ∨
        route c .command t = some (.chain .command) ∨ route c .command t = none := by
      intro t
      simp only [route]
      split
      · exact .inl rfl
      · split
        · exact .inr (.inl rfl)
        · exact .inr (.inr rfl)
    rcases hcases text with hr | hr | hr <;> rcases hcases text' with hr' | hr' | hr' <;>
      rw [hr, hr'] at h ⊢ <;> cases h

namespace Service

section Decision

variable (s : Service) (kind : FilterKind) (text : String) (author : Author)

def filters : Bool := s.config.enables kind && !author.may kind.bypass

def consultsMemory : Route → Bool
  | .chat spamFilter => !(s.muted && !author.may muteBypass) && (spamFilter && !author.may spamBypass)
  | .chain _ => false

def remembers (id : String) : Prop := s.lastMessages.lookup id = some text

instance (id : String) : Decidable (s.remembers text id) := inferInstanceAs (Decidable (_ = _))

def verdictOn : Route → Verdict
  | .chain kind => .evaluated kind false
  | .chat spamFilter =>
    if s.muted && !author.may muteBypass then .muted
    else if spamFilter && !author.may spamBypass then
      if s.remembers text author.id then .repeated else .evaluated .chat true
    else .evaluated .chat false

def verdict : Verdict :=
  if s.filters kind author then
    match route s.config kind text with
    | none => .untouched
    | some r => s.verdictOn text author r
  else .untouched

def remembering (remember : Bool) (id : String) : Service :=
  if remember then (s.checkRepeat id text).2 else s

def passage : Verdict → Gate
  | .untouched => .passed s
  | .muted => .stopped s []
  | .repeated => .stopped s (s.spamNotice author)
  | .evaluated _ remember => .passed (s.remembering text remember author.id)

def carryOut : Verdict → Option (Reply Outcome)
  | .untouched => some ⟨.untouched text, s, []⟩
  | .muted => some ⟨.blocked text, s, []⟩
  | .repeated => some ⟨.blocked text, s, s.spamNotice author⟩
  | .evaluated target remember =>
    ((s.remembering text remember author.id).evaluateRouted (.chain target)
      (s.config.decolor && !author.may colorPermission) text author).map fun reply =>
        { reply with answer := cancelEmptied kind reply.answer }

end Decision

variable {s : Service} {kind : FilterKind} {text text' : String} {author : Author}

theorem checkRepeat_of_remembers {id : String} (h : s.remembers text id) :
    s.checkRepeat id text = (true, s) := if_pos h

theorem checkRepeat_of_not_remembers {id : String} (h : ¬s.remembers text id) :
    s.checkRepeat id text = (false, s.remembering text true id) := by
  have hcheck : s.checkRepeat id text =
      (false, { s with lastMessages := (id, text) :: s.lastMessages.filter (fun e => e.1 != id) }) :=
    if_neg h
  rw [remembering, if_pos rfl, hcheck]

theorem target?_verdictOn (s : Service) (text : String) (author : Author) (r : Route) :
    (s.verdictOn text author r).target? = some r.target := by
  cases r with
  | chain kind => rfl
  | chat spamFilter =>
    simp only [verdictOn]
    split
    · rfl
    · split
      · split <;> rfl
      · rfl

theorem gate_eq_passage (r : Route) :
    s.gate r text author = s.passage text author (s.verdictOn text author r) := by
  cases r with
  | chain kind => rfl
  | chat spamFilter =>
    simp only [gate, verdictOn]
    by_cases hmuted : (s.muted && !author.may muteBypass) = true
    · rw [if_pos hmuted, if_pos hmuted]
      rfl
    · rw [if_neg hmuted, if_neg hmuted]
      by_cases hspam : (spamFilter && !author.may spamBypass) = true
      · rw [if_pos hspam, if_pos hspam]
        by_cases hrepeated : s.remembers text author.id
        · rw [if_pos hrepeated, checkRepeat_of_remembers hrepeated]
          rfl
        · rw [if_neg hrepeated, checkRepeat_of_not_remembers hrepeated]
          rfl
      · rw [if_neg hspam, if_neg hspam]
        rfl

theorem filter_eq_carryOut :
    s.filter kind text author = s.carryOut kind text author (s.verdict kind text author) := by
  have hskip : (!s.config.enables kind || author.may kind.bypass) = !s.filters kind author := by
    rw [filters, Bool.not_and, Bool.not_not]
  unfold filter verdict
  rw [hskip]
  cases s.filters kind author with
  | false => rfl
  | true =>
    rw [Bool.not_true, if_neg Bool.false_ne_true, if_pos rfl]
    cases route s.config kind text with
    | none => rfl
    | some r =>
      simp only [gate_eq_passage]
      have htarget := target?_verdictOn s text author r
      cases hverdict : s.verdictOn text author r with
      | untouched =>
        rw [hverdict] at htarget
        cases htarget
      | muted => rfl
      | repeated => rfl
      | evaluated target remember =>
        rw [hverdict] at htarget
        obtain rfl := Option.some.inj htarget
        rfl

theorem verdictOn_eq_iff (r : Route) :
    s.verdictOn text author r = s.verdictOn text' author r ↔
      (s.consultsMemory author r = true → (s.remembers text author.id ↔ s.remembers text' author.id)) := by
  cases r with
  | chain kind => simp [verdictOn, consultsMemory]
  | chat spamFilter =>
    simp only [verdictOn, consultsMemory]
    by_cases hmuted : (s.muted && !author.may muteBypass) = true
    · simp [hmuted]
    · by_cases hspam : (spamFilter && !author.may spamBypass) = true
      · rw [if_neg hmuted, if_neg hmuted, if_pos hspam, if_pos hspam]
        by_cases h : s.remembers text author.id <;> by_cases h' : s.remembers text' author.id <;>
          simp [hmuted, hspam, h, h']
      · rw [if_neg hmuted, if_neg hmuted, if_neg hspam, if_neg hspam]
        simp [hspam]

theorem target?_verdict (h : s.filters kind author = true) :
    (s.verdict kind text author).target? = (route s.config kind text).map Route.target := by
  rw [verdict, if_pos h]
  cases route s.config kind text with
  | none => rfl
  | some r => exact target?_verdictOn s text author r

theorem verdict_eq_iff :
    s.verdict kind text author = s.verdict kind text' author ↔
      (s.filters kind author = true → route s.config kind text = route s.config kind text' ∧
        ∀ r, route s.config kind text = some r → s.consultsMemory author r = true →
          (s.remembers text author.id ↔ s.remembers text' author.id)) := by
  by_cases hfilters : s.filters kind author = true
  · rw [imp_iff_right hfilters]
    constructor
    · intro h
      have hroute : route s.config kind text = route s.config kind text' := by
        rw [route_eq_iff_target, ← target?_verdict hfilters, ← target?_verdict hfilters, h]
      refine ⟨hroute, fun r hr => ?_⟩
      rw [verdict, verdict, if_pos hfilters, if_pos hfilters, ← hroute, hr] at h
      exact (verdictOn_eq_iff r).1 h
    · rintro ⟨hroute, hmemory⟩
      rw [verdict, verdict, if_pos hfilters, if_pos hfilters, ← hroute]
      cases hr : route s.config kind text with
      | none => rfl
      | some r => exact (verdictOn_eq_iff r).2 (hmemory r hr)
  · rw [verdict, verdict, if_neg hfilters, if_neg hfilters]
    exact ⟨fun _ h => absurd h hfilters, fun _ => rfl⟩

section Display

theorem answer_evaluate_remembering (s : Service) (text : String) (remember : Bool)
    (id name evaluated : String) (author : Author) :
    ((s.remembering text remember id).evaluate name evaluated author).map Reply.answer =
      (s.evaluate name evaluated author).map Reply.answer := by
  have hmemory : ∀ memory, ({ s with lastMessages := memory }.evaluate name evaluated author).map
      Reply.answer = (s.evaluate name evaluated author).map Reply.answer := by
    intro memory
    have hchain : chain? { s with lastMessages := memory } name = s.chain? name := rfl
    unfold evaluate
    rw [hchain]
    cases s.chain? name with
    | none => rfl
    | some chain =>
      simp only [Option.map_map]
      rfl
  unfold remembering checkRepeat
  split
  · split
    · rfl
    · exact hmemory _
  · rfl

def display? (reply : Option (Reply Outcome)) : Option String := reply.map (·.answer.display)

theorem display?_evaluateRouted (s : Service) (r : Route) (text : String) (author : Author) :
    display? (s.evaluateRouted r true text author) =
      display? (s.evaluate r.target.name (ColoredText.ofString text).decolor.rawString author) := by
  simp only [evaluateRouted, Bool.true_and]
  cases hcodes : (ColoredText.ofString text).hasCodes with
  | true =>
    rw [if_pos rfl, display?, Option.map_map]
    rfl
  | false =>
    rw [if_neg Bool.false_ne_true, ColoredText.decolor_of_hasCodes hcodes,
      ColoredText.rawString_ofString]

theorem display_cancelEmptied (kind : FilterKind) (o : Outcome) :
    (cancelEmptied kind o).display = o.display := by
  unfold cancelEmptied
  split <;> rfl

theorem display?_carryOut (hdecolor : s.config.decolor = true)
    (hcolor : author.may colorPermission = false) (v : Verdict) :
    display? (s.carryOut kind text author v) =
      match v with
      | .evaluated target _ =>
        display? (s.evaluate target.name (ColoredText.ofString text).decolor.rawString author)
      | _ => some (ColoredText.ofString text).decolor.rawString := by
  cases v with
  | untouched => rw [ColoredText.rawString_decolor]; rfl
  | muted => rw [ColoredText.rawString_decolor]; rfl
  | repeated => rw [ColoredText.rawString_decolor]; rfl
  | evaluated target remember =>
    have hanswer := congrArg (Option.map Outcome.display) (answer_evaluate_remembering s text remember
      author.id target.name (ColoredText.ofString text).decolor.rawString author)
    rw [Option.map_map, Option.map_map] at hanswer
    have hrouted := display?_evaluateRouted (s.remembering text remember author.id) (.chain target)
      text author
    rw [carryOut, hdecolor, hcolor, display?, Option.map_map]
    calc Option.map _ _ = display? ((s.remembering text remember author.id).evaluateRouted
            (.chain target) true text author) :=
          Option.map_congr fun reply _ => display_cancelEmptied kind reply.answer
      _ = _ := hrouted
      _ = _ := hanswer

/-- Taking the codes away beforehand leaves the decision what it was unless the message would go another
way or be looked up as a repetition with another answer. Where the decision is the same, so is what is
shown. -/
theorem verdict_decolored_iff (s : Service) (kind : FilterKind) (text : String) (author : Author)
    (hdecolor : s.config.decolor = true) (hcolor : author.may colorPermission = false) :
    let plain := (ColoredText.ofString text).decolor.rawString
    (∀ t, s.filter kind t author = s.carryOut kind t author (s.verdict kind t author)) ∧
      (s.verdict kind text author = s.verdict kind plain author ↔
        (s.filters kind author = true → route s.config kind text = route s.config kind plain ∧
          ∀ r, route s.config kind text = some r → s.consultsMemory author r = true →
            (s.remembers text author.id ↔ s.remembers plain author.id))) ∧
      (s.verdict kind text author = s.verdict kind plain author →
        display? (s.filter kind text author) = display? (s.filter kind plain author)) := by
  intro plain
  have hplain : (ColoredText.ofString plain).decolor.rawString = plain := by
    rw [show plain = (ColoredText.ofString text).plainString from ColoredText.rawString_decolor _,
      ColoredText.rawString_decolor, ColoredText.ofString_plainString, ColoredText.plainString_decolor]
  refine ⟨fun t => filter_eq_carryOut, verdict_eq_iff, fun h => ?_⟩
  rw [filter_eq_carryOut, filter_eq_carryOut, ← h, display?_carryOut hdecolor hcolor,
    display?_carryOut hdecolor hcolor, hplain]

end Display

def steve : Author := ⟨"steve", "steve", fun _ => false, fun _ _ => .ok ()⟩

def guardedConfig : Config :=
  { decolor := true
    spamFilter := true
    filters := { command := true }
    commands := { asChat := ["tell"], whitelist := ["me"] } }

/-- A code hides a repetition, and one in the name of a command keeps the command from being filtered. -/
theorem verdict_decolored_iff_guarded :
    ∃ s s', (Service.initial .empty .none .log true).applyConfig guardedConfig = .ok s ∧
      (s.filter .chat "hi" steve).map Reply.service = some s' ∧
      s'.config.decolor = true ∧ steve.may colorPermission = false ∧
      s'.verdict .chat "§chi" steve ≠ s'.verdict .chat "hi" steve ∧
      s'.verdict .command "/§ctell hi" steve ≠ s'.verdict .command "/tell hi" steve := by
  have hplain : (ColoredText.ofString "§chi").decolor.rawString = "hi" := by decide +kernel
  have hplain' : (ColoredText.ofString "/§ctell hi").decolor.rawString = "/tell hi" := by
    decide +kernel
  rcases Change.outcome_configure (Service.initial .empty .none .log true) guardedConfig with
    ⟨-, e, he⟩ | ⟨-, scores, -, hok⟩
  · have hisOk : ((Change.configure guardedConfig).outcome
        (Service.initial .empty .none .log true)).1.isOk = true := by decide +kernel
    rw [he] at hisOk
    cases hisOk
  · refine ⟨_, _, by rw [applyConfig, changed, hok], rfl, rfl, rfl, fun h => ?_, fun h => ?_⟩
    · have hsame := (verdict_decolored_iff _ .chat "§chi" steve rfl rfl).2.1.1 (hplain.symm ▸ h)
      rw [hplain] at hsame
      have hhidden : some "hi" = some "§chi" := ((hsame rfl).2 _ rfl rfl).2 rfl
      exact absurd hhidden (by decide)
    · have hsame := (verdict_decolored_iff _ .command "/§ctell hi" steve rfl rfl).2.1.1
        (hplain'.symm ▸ h)
      rw [hplain'] at hsame
      have hroutes : route guardedConfig .command "/§ctell hi" ≠
          route guardedConfig .command "/tell hi" := by decide +kernel
      exact hroutes (hsame rfl).1

end Service

end Moderation
