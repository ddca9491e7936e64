import Moderation.Action.Vocabulary
import Moderation.Proofs.Points.Scoreboard
import Moderation.Proofs.Text.Blank

namespace Moderation

namespace Action

def texts : Action → List String
  | .replace text => [text]
  | .restate text => [text]
  | .console text => [text]
  | .broadcast text => [text]
  | .notify _ text => [text]
  | .penalize _ text => text.toList
  | .command text => [text]
  | _ => []

def isHost : Action → Bool
  | .host _ => true
  | _ => false

structure DrawnFrom (params : String) (a : Action) : Prop where
  notHost : a.isHost = false
  texts : ∀ t ∈ a.texts, t.toList <:+: params.toList

end Action

def ActionBuilder.Draws (build : ActionBuilder) : Prop :=
  ∀ params a, build params = .ok a → a.DrawnFrom params

section Builders

theorem trimBlanks_isInfix (s : String) : s.trimBlanks.toList <:+: s.toList := by
  rw [String.trimBlanks, String.toList_ofList]
  exact Text.trim_isInfix _

theorem requiredMessage_isInfix {params text : String} (h : requiredMessage params = .ok text) :
    text.toList <:+: params.toList := by
  dsimp only [requiredMessage] at h
  split at h
  · cases h
  · obtain rfl := Except.ok.inj h
    exact trimBlanks_isInfix params

theorem optionalMessage_isInfix {params text : String} (h : optionalMessage params = some text) :
    text.toList <:+: params.toList := by
  dsimp only [optionalMessage] at h
  split at h
  · cases h
  · obtain rfl := Option.some.inj h
    exact trimBlanks_isInfix params

theorem behindFirstWord_isInfix (params : String) :
    Text.trim (Text.cutAtBlank (Text.trim params.toList)).2 <:+: params.toList :=
  (Text.trim_isInfix _).trans ((Text.cutAtBlank_suffix _).isInfix.trans (Text.trim_isInfix _))

theorem splitAmount_isInfix {params : String} {r : Float × String} (h : splitAmount params = .ok r) :
    r.2.toList <:+: params.toList := by
  dsimp only [splitAmount] at h
  split at h
  · cases h
  · split at h
    · obtain rfl := Except.ok.inj h
      rw [String.toList_ofList]
      exact behindFirstWord_isInfix params
    · cases h

namespace ActionBuilder

theorem draws_of_text {build : String → Action} (hhost : ∀ p, (build p).isHost = false)
    (htexts : ∀ p, ∀ t ∈ (build p).texts, t = p) : Draws fun p => .ok (build p) := by
  intro params a h
  obtain rfl := Except.ok.inj h
  exact ⟨hhost params, fun t ht => htexts params t ht ▸ List.infix_refl _⟩

theorem draws_of_required {build : String → Action} (hhost : ∀ p, (build p).isHost = false)
    (htexts : ∀ p, ∀ t ∈ (build p).texts, t = p) : Draws fun p => (requiredMessage p).map build := by
  intro params a h
  dsimp only at h
  cases hmessage : requiredMessage params with
  | error e =>
    rw [hmessage] at h
    cases h
  | ok text =>
    rw [hmessage] at h
    obtain rfl := Except.ok.inj h
    exact ⟨hhost text, fun t ht => htexts text t ht ▸ requiredMessage_isInfix hmessage⟩

theorem draws_of_optional (penalty : Penalty) :
    Draws fun p => .ok (.penalize penalty (optionalMessage p)) := by
  intro params a h
  obtain rfl := Except.ok.inj h
  exact ⟨rfl, fun t ht => optionalMessage_isInfix (Option.mem_toList.1 ht)⟩

theorem draws_buildNotify : Draws buildNotify := by
  intro params a h
  dsimp only [buildNotify] at h
  split at h
  · cases h
  · obtain rfl := Except.ok.inj h
    refine ⟨rfl, fun t ht => ?_⟩
    obtain rfl := List.mem_singleton.1 ht
    rw [String.toList_ofList]
    exact behindFirstWord_isInfix params

theorem draws_buildPoints : Draws buildPoints := by
  intro params a h
  unfold buildPoints at h
  cases hsplit : splitAmount params with
  | error e =>
    rw [hsplit] at h
    cases h
  | ok r =>
    rw [hsplit] at h
    change (if r.2.isEmpty = true then _ else _) = _ at h
    split at h
    · obtain rfl := Except.ok.inj h
      exact ⟨rfl, fun t ht => absurd ht List.not_mem_nil⟩
    · cases h

theorem draws_buildFine : Draws buildFine := by
  intro params a h
  unfold buildFine at h
  cases hsplit : splitAmount params with
  | error e =>
    rw [hsplit] at h
    cases h
  | ok r =>
    rw [hsplit] at h
    change (if r.1 < 0 then _ else _) = _ at h
    split at h
    · cases h
    · obtain rfl := Except.ok.inj h
      refine ⟨rfl, fun t ht => ?_⟩
      have hoptional : optionalMessage r.2 = some t := Option.mem_toList.1 ht
      exact (optionalMessage_isInfix hoptional).trans (splitAmount_isInfix hsplit)

theorem draws_buildCommand : Draws buildCommand := by
  intro params a h
  dsimp only [buildCommand] at h
  split at h
  · cases h
  · obtain rfl := Except.ok.inj h
    refine ⟨rfl, fun t ht => ?_⟩
    obtain rfl := List.mem_singleton.1 ht
    rw [String.dropSlashes, String.toList_ofList]
    exact (List.dropWhile_suffix _).isInfix.trans (trimBlanks_isInfix params)

theorem draws_coreVocabulary : ∀ e ∈ coreVocabulary, Draws e.2 := by
  simp only [coreVocabulary, List.forall_mem_cons]
  refine ⟨draws_of_text ?_ ?_, draws_of_text ?_ ?_, draws_of_text ?_ ?_, draws_of_text ?_ ?_,
    draws_of_text ?_ ?_, draws_of_text ?_ ?_, draws_of_text ?_ ?_, draws_of_required ?_ ?_,
    draws_of_required ?_ ?_, draws_buildNotify, draws_buildPoints,
    fun e he => absurd he List.not_mem_nil⟩
  all_goals simp [Action.isHost, Action.texts]

theorem draws_targetedVocabulary : ∀ e ∈ targetedVocabulary, Draws e.2 := by
  simp only [targetedVocabulary, List.forall_mem_cons]
  exact ⟨draws_of_optional .warn, draws_of_optional .kick, draws_of_optional .kill, draws_buildFine,
    draws_buildCommand, fun e he => absurd he List.not_mem_nil⟩

end ActionBuilder

end Builders

namespace Registry

theorem find?_register (r : Registry) (group : ActionGroup) (word token : String)
    (build : ActionBuilder) :
    (r.register group word build).find? token =
      if token.asciiLower = word.asciiLower then some ⟨group, build⟩ else r.find? token :=
  Points.Scoreboard.lookup_cons_filter word.asciiLower token.asciiLower (⟨group, build⟩ : RegistryEntry)
    r.entries

theorem foldl_register {P : ActionBuilder → Prop} (group : ActionGroup)
    (words : List (String × ActionBuilder)) (hwords : ∀ e ∈ words, P e.2) {r : Registry}
    (hr : ∀ token e, r.find? token = some e → P e.build) :
    ∀ token e, (words.foldl (fun r e => r.register group e.1 e.2) r).find? token = some e →
      P e.build := by
  induction words generalizing r with
  | nil => exact hr
  | cons word rest ih =>
    refine ih (fun e he => hwords e (List.mem_cons_of_mem _ he)) fun token e he => ?_
    rw [find?_register] at he
    split at he
    · obtain rfl := Option.some.inj he
      exact hwords word List.mem_cons_self
    · exact hr token e he

theorem drawnFrom_of_standard {token params : String} {a : Action}
    (h : Registry.standard.construct token params = .ok a) : a.DrawnFrom params := by
  have hempty : ∀ token e, Registry.empty.find? token = some e → ActionBuilder.Draws e.build :=
    fun token e h => by cases h
  have hdraws : ∀ token e, Registry.standard.find? token = some e → ActionBuilder.Draws e.build := by
    dsimp only [Registry.standard]
    have hcore := foldl_register .core coreVocabulary ActionBuilder.draws_coreVocabulary hempty
    exact foldl_register .targeted targetedVocabulary ActionBuilder.draws_targetedVocabulary hcore
  unfold construct at h
  split at h
  · rename_i e he
    exact hdraws token e he params a h
  · cases h

end Registry

end Moderation
