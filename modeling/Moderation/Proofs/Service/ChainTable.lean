import Moderation.Action.Vocabulary
import Moderation.Proofs.Service.Session

namespace Moderation

open Points

theorem Chain.name_of_ofSource {registry : Registry} {name source : String} {c : Chain}
    (h : Chain.ofSource registry name source = .ok c) : c.name = name := by
  obtain ⟨logical, -, h⟩ := bind_ok h
  obtain ⟨rules, -, h⟩ := bind_ok h
  obtain rfl := Except.ok.inj h
  rfl

namespace Service

section Lookup

variable (s : Service)

theorem chain?_putChain (c : Chain) (name : String) :
    (s.putChain c).chain? name = if name = c.name then some c else s.chain? name :=
  Scoreboard.lookup_cons_filter c.name name c s.chains

theorem chain?_unloadChain (name name' : String) :
    (s.unloadChain name).2.chain? name' = if name' = name then none else s.chain? name' :=
  Scoreboard.lookup_filter_ne name name' s.chains

end Lookup

end Service

structure Origin where
  registry : Registry
  source : String

def Event.origin? (name : String) (e : Event) : Option (Option Origin) :=
  match e.request, e.reply.answer with
  | .load name' source, .loaded (.ok _) =>
    if name' = name then some (some ⟨e.before.registry, source⟩) else none
  | .loadFile name' _ (.ok source), .loaded (.ok _) =>
    if name' = name then some (some ⟨e.before.registry, source⟩) else none
  | .loadDirectory files, .names loaded =>
    if name ∈ loaded then
      (files (Service.rulePath e.before.config name)).toOption.map fun source =>
        some ⟨e.before.registry, source⟩
    else none
  | .unload name', _ => if name' = name then some none else none
  | _, _ => none

namespace Service

def HoldsChain (s : Service) (name : String) : Option Origin → Prop
  | none => s.chain? name = none
  | some o => ∃ c, Chain.ofSource o.registry name o.source = .ok c ∧ s.chain? name = some c

variable {s : Service}

theorem chain?_putChain_ofSource {name source : String} {c : Chain}
    (h : Chain.ofSource s.registry name source = .ok c) (name' : String) :
    match if name = name' then some (some (⟨s.registry, source⟩ : Origin)) else none with
    | none => (s.putChain c).chain? name' = s.chain? name'
    | some o => (s.putChain c).HoldsChain name' o := by
  have hput := s.chain?_putChain c name'
  rw [Chain.name_of_ofSource h] at hput
  by_cases hname : name = name'
  · subst hname
    rw [if_pos rfl] at hput ⊢
    exact ⟨c, h, hput⟩
  · rw [if_neg hname]
    rwa [if_neg (Ne.symm hname)] at hput

theorem chain?_loadKinds (files : Files) (kinds : List FilterKind) (s : Service) (name : String) :
    (name ∈ (loadKinds files kinds s).1 →
      ∃ source, files (rulePath s.config name) = .ok source ∧
        (loadKinds files kinds s).2.HoldsChain name (some ⟨s.registry, source⟩)) ∧
      (name ∉ (loadKinds files kinds s).1 → (loadKinds files kinds s).2.chain? name = s.chain? name) := by
  induction kinds generalizing s with
  | nil => exact ⟨fun h => absurd h List.not_mem_nil, fun _ => rfl⟩
  | cons k rest ih =>
    simp only [loadKinds]
    split
    · rcases s.loadFile_cases k.name (rulePath s.config k.name) (files (rulePath s.config k.name)) with
        ⟨source, c, hfile, hread, hload⟩ | ⟨e, hload⟩
      · -- The rest of the files is read in the same words and by the same configuration.
        obtain ⟨hloaded, hkept⟩ := ih (s.putChain c)
        rw [chain?_putChain, Chain.name_of_ofSource hread] at hkept
        rw [hload]
        dsimp only
        refine ⟨fun hmem => ?_, fun hmem => ?_⟩
        · by_cases hlater : name ∈ (loadKinds files rest (s.putChain c)).1
          · exact hloaded hlater
          · obtain rfl : name = k.name := (List.mem_cons.1 hmem).resolve_right hlater
            have hchain := hkept hlater
            rw [if_pos rfl] at hchain
            exact ⟨source, hfile, c, hread, hchain⟩
        · have hchain := hkept (List.not_mem_of_not_mem_cons hmem)
          rwa [if_neg (List.ne_of_not_mem_cons hmem)] at hchain
      · rw [hload]
        exact ih s
    · exact ih s

theorem Settled.chain?_eq {t : Service} (h : s.Settled t) (name : String) :
    t.chain? name = s.chain? name := by
  obtain ⟨_, _⟩ := h
  rfl

theorem chain?_recalling (kind : FilterKind) (text : String) (author : Author) (name : String) :
    (s.recalling kind text author).chain? name = s.chain? name := by
  rw [recalling_eq]
  rfl

theorem chain?_configure (config : Config) (name : String) :
    ((Change.configure config).outcome s).2.chain? name = s.chain? name := by
  rcases Change.outcome_configure s config with ⟨-, e, he⟩ | ⟨-, scores, -, hok⟩
  · rw [he]
  · rw [hok]
    rfl

theorem chain?_answer {q : Request} {r : Reply Answer} (h : s.answer q = some r) (name : String) :
    match Event.origin? name ⟨s, q, r⟩ with
    | none => r.service.chain? name = s.chain? name
    | some o => r.service.HoldsChain name o := by
  cases q with
  | load name' source =>
    obtain rfl := Option.some.inj h
    rcases s.loadChain_cases name' source with ⟨c, hread, hload⟩ | ⟨e, hload⟩
    · simp only [hload, Event.origin?]
      exact chain?_putChain_ofSource hread name
    · simp only [hload, Event.origin?]
  | loadFile name' path file =>
    obtain rfl := Option.some.inj h
    rcases s.loadFile_cases name' path file with ⟨source, c, rfl, hread, hload⟩ | ⟨e, hload⟩
    · simp only [hload, Event.origin?]
      exact chain?_putChain_ofSource hread name
    · simp only [hload, Event.origin?]
  | loadDirectory files =>
    obtain rfl := Option.some.inj h
    obtain ⟨hloaded, hkept⟩ := chain?_loadKinds files FilterKind.all s name
    simp only [Event.origin?]
    by_cases hname : name ∈ (s.loadDirectory files).1
    · obtain ⟨source, hfile, hchain⟩ := hloaded hname
      simp only [if_pos hname, hfile, Except.toOption, Option.map_some]
      exact hchain
    · rw [if_neg hname]
      exact hkept hname
  | unload name' =>
    obtain rfl := Option.some.inj h
    have hunload := s.chain?_unloadChain name' name
    simp only [Event.origin?]
    by_cases hname : name' = name
    · rw [if_pos hname]
      rw [if_pos hname.symm] at hunload
      exact hunload
    · rw [if_neg hname]
      rw [if_neg (Ne.symm hname)] at hunload
      exact hunload
  | filter kind text author =>
    exact ((settled_answer h).chain?_eq name).trans (chain?_recalling kind text author name)
  | configure config => exact ((settled_answer h).chain?_eq name).trans (chain?_configure config name)
  | call c => cases c <;> exact (settled_answer h).chain?_eq name
  | _ => exact (settled_answer h).chain?_eq name

theorem holdsChain_answer {q : Request} {r : Reply Answer} {name : String} {o : Option Origin}
    (h : s.answer q = some r) (hs : s.HoldsChain name o) :
    r.service.HoldsChain name ((Event.origin? name ⟨s, q, r⟩).getD o) := by
  have hanswer := chain?_answer h name
  cases horigin : Event.origin? name ⟨s, q, r⟩ with
  | some o' =>
    rw [horigin] at hanswer
    exact hanswer
  | none =>
    rw [horigin] at hanswer
    rw [Option.getD_none]
    cases o with
    | none => exact hanswer.trans hs
    | some o =>
      obtain ⟨c, hread, hchain⟩ := hs
      exact ⟨c, hread, hanswer.trans hchain⟩

theorem service_of_failed_load {q : Request} {r : Reply Answer} {e : FilterError}
    (h : s.answer q = some r) (hfailed : r.answer = .loaded (.error e)) : r.service = s := by
  cases q with
  | load name source =>
    obtain rfl := Option.some.inj h
    rcases s.loadChain_cases name source with ⟨c, -, hload⟩ | ⟨e', hload⟩
    · simp only [hload] at hfailed
      cases hfailed
    · simp only [hload]
  | loadFile name path file =>
    obtain rfl := Option.some.inj h
    rcases s.loadFile_cases name path file with ⟨source, c, -, -, hload⟩ | ⟨e', hload⟩
    · simp only [hload] at hfailed
      cases hfailed
    · simp only [hload]
  | evaluate name text author =>
    obtain ⟨r', -, rfl⟩ := Option.map_eq_some_iff.1 h
    cases hfailed
  | filter kind text author =>
    obtain ⟨r', -, rfl⟩ := Option.map_eq_some_iff.1 h
    cases hfailed
  | call c =>
    cases c with
    | release id =>
      obtain rfl := Option.some.inj h
      cases hfailed
    | _ =>
      obtain ⟨r', -, rfl⟩ := Option.map_eq_some_iff.1 h
      cases hfailed
  | _ =>
    obtain rfl := Option.some.inj h
    cases hfailed

section Registry

def speaking (s : Service) (registry : Registry) : Service := { s with registry := registry }

def registerAll (s : Service) (registrations : List (ActionGroup × String × ActionBuilder)) : Service :=
  registrations.foldl (fun s x => (s.registerAction x.1 x.2.1 x.2.2).2) s

theorem registerAll_eq (s : Service) (registrations : List (ActionGroup × String × ActionBuilder)) :
    s.registerAll registrations = s.speaking (s.registerAll registrations).registry := by
  induction registrations generalizing s with
  | nil => rfl
  | cons x rest ih => exact ih (s.registerAction x.1 x.2.1 x.2.2).2

def speakingReply {α : Type} (registry : Registry) (r : Reply α) : Reply α :=
  { r with service := r.service.speaking registry }

variable (s : Service) (registry : Registry)

theorem evaluate_speaking (name text : String) (author : Author) :
    (s.speaking registry).evaluate name text author =
      (s.evaluate name text author).map (speakingReply registry) := by
  have hchain : (s.speaking registry).chain? name = s.chain? name := rfl
  unfold evaluate
  rw [hchain]
  cases s.chain? name with
  | none => rfl
  | some chain =>
    rw [Option.map_map]
    rfl

theorem evaluateRouted_speaking (route : Route) (decolor : Bool) (text : String) (author : Author) :
    (s.speaking registry).evaluateRouted route decolor text author =
      (s.evaluateRouted route decolor text author).map (speakingReply registry) := by
  unfold evaluateRouted
  dsimp only
  rw [evaluate_speaking, evaluate_speaking]
  split
  · rw [Option.map_map, Option.map_map]
    rfl
  · rfl

theorem filter_speaking (kind : FilterKind) (text : String) (author : Author) :
    (s.speaking registry).filter kind text author =
      (s.filter kind text author).map (speakingReply registry) := by
  have hverdict : (s.speaking registry).verdict kind text author = s.verdict kind text author := rfl
  rw [filter_eq_carryOut, filter_eq_carryOut, hverdict]
  cases s.verdict kind text author with
  | evaluated target remember =>
    have hremembering : (s.speaking registry).remembering text remember author.id =
        (s.remembering text remember author.id).speaking registry := by
      have hmemory : (s.speaking registry).lastMessages = s.lastMessages := rfl
      simp only [remembering, checkRepeat, hmemory]
      cases remember with
      | true =>
        simp only [if_true]
        split <;> rfl
      | false => rfl
    have hconfig : (s.speaking registry).config = s.config := rfl
    rw [carryOut, carryOut, hremembering, hconfig, evaluateRouted_speaking, Option.map_map,
      Option.map_map]
    rfl
  | _ => rfl

end Registry

end Service

/-- The chain of a name is at any time the one that its last successful load read, in the words of that moment,
unless the name was unloaded since; then there is none. A load that fails changes nothing, and neither does one
from a directory where it passes by a file. Words that are registered later do not change what chains do. -/
theorem holdsChain_of_performAll {registry : Registry} {tags : Tags} {sink : Sink} {hasRuntime : Bool}
    {requests : List Request} {h : Session}
    (hrun : Session.performAll requests (.opening (.initial registry tags sink hasRuntime)) = some h) :
    (∀ name, h.service.HoldsChain name (Session.latest (Event.origin? name) h.past)) ∧
      (∀ q r, h.service.answer q = some r →
        (∀ e, r.answer = .loaded (.error e) → r.service = h.service) ∧
          ∀ name, Event.origin? name ⟨h.service, q, r⟩ = none →
            r.service.chain? name = h.service.chain? name) ∧
      ∀ registrations,
        let t := h.service.registerAll registrations
        (∀ name, t.chain? name = h.service.chain? name) ∧
          (∀ name text author, t.evaluate name text author =
            (h.service.evaluate name text author).map (Service.speakingReply t.registry)) ∧
          ∀ kind text author, t.filter kind text author =
            (h.service.filter kind text author).map (Service.speakingReply t.registry) := by
  refine ⟨fun name => ?_, fun q r hr => ⟨fun e he => ?_, fun name hname => ?_⟩, fun registrations => ?_⟩
  · exact Session.latest_of_answer (P := fun o s => s.HoldsChain name o)
      Service.holdsChain_answer hrun rfl
  · exact Service.service_of_failed_load hr he
  · have hanswer := Service.chain?_answer hr name
    rw [hname] at hanswer
    exact hanswer
  · intro t
    have ht : t = h.service.speaking t.registry := h.service.registerAll_eq registrations
    refine ⟨fun name => ?_, fun name text author => ?_, fun kind text author => ?_⟩
    · rw [ht]
      rfl
    · calc t.evaluate name text author
        _ = (h.service.speaking t.registry).evaluate name text author := by rw [← ht]
        _ = _ := h.service.evaluate_speaking t.registry name text author
    · calc t.filter kind text author
        _ = (h.service.speaking t.registry).filter kind text author := by rw [← ht]
        _ = _ := h.service.filter_speaking t.registry kind text author

def reloads : List Request :=
  [.load "chat" "/b/ then deny", .load "spam" "/x/ then log",
    .register (.host "quiet") "deny" (fun _ => .ok .log), .load "chat" "/b/ then deny\n/c then deny",
    .unload "spam"]

theorem holdsChain_of_performAll_reloads :
    ∃ h o, Session.performAll reloads (.opening (.initial .standard .standard .log true)) = some h ∧
      Session.latest (Event.origin? "chat") h.past = some o ∧ o.source = "/b/ then deny" ∧
      h.service.HoldsChain "chat" (some o) ∧ h.service.HoldsChain "spam" none ∧
      (h.service.evaluate "chat" "abc" Service.steve).map (·.answer.cancelled) = some true := by
  have htells : (Session.performAll reloads (.opening (.initial .standard .standard .log true))).any
      (fun h => (Session.latest (Event.origin? "chat") h.past).any (·.source = "/b/ then deny") &&
        (Session.latest (Event.origin? "spam") h.past).isNone &&
        (h.service.evaluate "chat" "abc" Service.steve).map (·.answer.cancelled) = some true) = true := by
    decide +kernel
  obtain ⟨h, hrun, htells⟩ := (Option.any_eq_true _ _).1 htells
  simp only [Bool.and_eq_true, decide_eq_true_eq] at htells
  obtain ⟨⟨hchat, hspam⟩, hcancelled⟩ := htells
  obtain ⟨o, ho, hsource⟩ := (Option.any_eq_true _ _).1 hchat
  have hholds := (holdsChain_of_performAll hrun).1
  exact ⟨h, o, hrun, ho, of_decide_eq_true hsource, ho ▸ hholds "chat",
    Option.isNone_iff_eq_none.1 hspam ▸ hholds "spam", hcancelled⟩

end Moderation
