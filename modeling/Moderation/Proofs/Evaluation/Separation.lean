import Moderation.Proofs.Action.Vocabulary
import Moderation.Proofs.Evaluation.Parallel
import Moderation.Proofs.Evaluation.Requests

namespace Moderation

open Points

namespace World

def effectsOn (w : World) (id : String) : List Effect := w.effects.filter (·.reaches id)

structure Shares (id : String) (w w' : World) : Prop where
  enabled : w'.scores.enabled = w.scores.enabled
  settings : w'.scores.settings = w.scores.settings
  record : w'.scores.find? id = w.scores.find? id
  felt : w'.effectsOn id = w.effectsOn id

structure Alters (id : String) (es : List Effect) (w u : World) : Prop where
  enabled : u.scores.enabled = w.scores.enabled
  settings : u.scores.settings = w.scores.settings
  others : ∀ id', id' ≠ id → u.scores.find? id' = w.scores.find? id'
  effects : u.effects = w.effects ++ es
  stay : ∀ e ∈ es, e.StaysWith id

structure Beside (id : String) (w w' u u' : World) : Prop where
  shares : u.Shares id u'
  alters : ∃ es, w.Alters id es u ∧ w'.Alters id es u'

structure Indistinct (w w' : World) : Prop where
  enabled : w'.scores.enabled = w.scores.enabled
  settings : w'.scores.settings = w.scores.settings
  records : ∀ id, w'.scores.find? id = w.scores.find? id
  felt : ∀ id, w'.effectsOn id = w.effectsOn id
  effects : w'.effects.Perm w.effects

variable {id a b : String} {es fs : List Effect} {t u v w w' x y : World}

theorem effectsOn_emit (w : World) (e : Effect) (id : String) :
    (w.emit e).effectsOn id = w.effectsOn id ++ [e].filter (·.reaches id) :=
  List.filter_append ..

theorem deedsOn_eq (w : World) (id : String) : w.deedsOn id = (w.effectsOn id).filterMap (·.deedOn? id) := by
  rw [deedsOn, effectsOn, List.filterMap_filter]
  congr 1
  funext e
  cases e with
  | deed id' d => simp [Effect.reaches, Effect.deedOn?]
  | announce a => rfl
  | log e => cases e <;> simp [Effect.reaches, Effect.deedOn?]

theorem Shares.refl (id : String) (w : World) : w.Shares id w := ⟨rfl, rfl, rfl, rfl⟩

theorem Shares.emit (h : w.Shares id w') (e : Effect) : (w.emit e).Shares id (w'.emit e) where
  enabled := h.enabled
  settings := h.settings
  record := h.record
  felt := by rw [effectsOn_emit, effectsOn_emit, h.felt]

namespace Alters

theorem refl (id : String) (w : World) : w.Alters id [] w :=
  ⟨rfl, rfl, fun _ _ => rfl, (List.append_nil _).symm, fun _ h => by cases h⟩

theorem table (h : w.Alters id es u) : u.scores.table = w.scores.table :=
  congrArg (·.installed.table) h.settings

theorem emit {e : Effect} (h : w.Alters id es u) (he : e.StaysWith id) : w.Alters id (es ++ [e]) (u.emit e) where
  enabled := h.enabled
  settings := h.settings
  others := h.others
  effects := by rw [World.emit, h.effects, List.append_assoc]
  stay e' he' := by
    rcases List.mem_append.1 he' with hes | hlast
    · exact h.stay e' hes
    · obtain rfl := List.mem_singleton.1 hlast
      exact he

theorem store (h : w.Alters id es u) (e : Entry Float Action) :
    w.Alters id es { u with scores := u.scores.store id e } where
  enabled := h.enabled
  settings := h.settings
  others id' hid := by
    dsimp only
    rw [Scoreboard.find?_store, if_neg hid]
    exact h.others id' hid
  effects := h.effects
  stay := h.stay

theorem effectsOn (h : w.Alters id es u) (id' : String) :
    u.effectsOn id' = w.effectsOn id' ++ es.filter (·.reaches id') := by
  rw [World.effectsOn, h.effects, List.filter_append, World.effectsOn]

theorem unfelt (h : w.Alters id es u) {id' : String} (hid : id' ≠ id) : es.filter (·.reaches id') = [] :=
  List.filter_eq_nil_iff.2 fun e he => by rw [h.stay e he id' hid]; exact Bool.false_ne_true

theorem shares (h : w.Alters b es u) (hab : a ≠ b) : w.Shares a u :=
  ⟨h.enabled, h.settings, h.others a hab, by rw [h.effectsOn, h.unfelt hab, List.append_nil]⟩

end Alters

section Coupled

theorem Shares.entryFor (h : w.Shares id w') {author : Author} (hauthor : author.id = id) (now : Time) :
    w'.scores.entryFor author now = w.scores.entryFor author now := by
  rw [Scoreboard.entryFor, Scoreboard.entryFor, hauthor, h.record, h.settings]

theorem Shares.crossed_add (h : w.Shares id w') {author : Author} (hauthor : author.id = id) (delta : Float)
    (now : Time) : (w.scores.add author delta now).2 = (w'.scores.add author delta now).2 := by
  unfold Scoreboard.add
  rw [h.entryFor hauthor, h.settings]

theorem Shares.store (h : w.Shares id w') (e : Entry Float Action) :
    Shares id { w with scores := w.scores.store id e } { w' with scores := w'.scores.store id e } where
  enabled := h.enabled
  settings := h.settings
  record := by
    dsimp only
    rw [Scoreboard.find?_store, Scoreboard.find?_store, if_pos rfl, if_pos rfl]
  felt := h.felt

theorem Beside.refl (h : w.Shares id w') : Beside id w w' w w' :=
  ⟨h, [], .refl id w, .refl id w'⟩

theorem Beside.store (h : Beside id w w' u v) (e : Entry Float Action) :
    Beside id w w' { u with scores := u.scores.store id e } { v with scores := v.scores.store id e } := by
  obtain ⟨es, hu, hv⟩ := h.alters
  exact ⟨h.shares.store e, es, hu.store e, hv.store e⟩

theorem Beside.add (h : Beside id w w' u v) {author : Author} (hauthor : author.id = id) (delta : Float)
    (now : Time) : Beside id w w' (u.add author delta now) (v.add author delta now) := by
  have hentry := h.shares.entryFor hauthor now
  unfold World.add Scoreboard.add
  dsimp only
  rw [hentry, h.shares.settings, hauthor]
  exact h.store _

theorem coupling_beside (hkeeps : AllActions w.scores.table Action.KeepsAuthor) (id : String) (w' : World) :
    Coupling id (Beside id w w') where
  enabled h := h.shares.enabled.symm
  table h := congrArg (·.installed.table) h.shares.settings.symm
  keeps h := by
    obtain ⟨es, hu, -⟩ := h.alters
    exact hu.table ▸ hkeeps
  deeds h := by rw [World.deedsOn_eq, World.deedsOn_eq, h.shares.felt]
  emit he h := by
    obtain ⟨es, hu, hv⟩ := h.alters
    exact ⟨h.shares.emit _, _, hu.emit he, hv.emit he⟩
  crossed delta now hauthor h := h.shares.crossed_add hauthor delta now
  add delta now hauthor h := h.add hauthor delta now

theorem Shares.tick (h : w.Shares id w') (now : Time) :
    (w.scores.tick id now).2 = (w'.scores.tick id now).2 ∧
      Beside id w w' (w.tick id now) (w'.tick id now) := by
  unfold World.tick Scoreboard.tick
  rw [h.record]
  cases w.scores.find? id with
  | none => exact ⟨rfl, .refl h⟩
  | some e =>
    dsimp only
    rw [h.settings]
    exact ⟨rfl, (Beside.refl h).store _⟩

end Coupled

namespace Indistinct

theorem refl (w : World) : w.Indistinct w := ⟨rfl, rfl, fun _ => rfl, fun _ => rfl, .refl _⟩

theorem trans (h : u.Indistinct v) (h' : v.Indistinct w) : u.Indistinct w where
  enabled := h'.enabled.trans h.enabled
  settings := h'.settings.trans h.settings
  records id := (h'.records id).trans (h.records id)
  felt id := (h'.felt id).trans (h.felt id)
  effects := h'.effects.trans h.effects

theorem shares (h : w.Indistinct w') (id : String) : w.Shares id w' :=
  ⟨h.enabled, h.settings, h.records id, h.felt id⟩

theorem beside (h : w.Indistinct w') (hb : Beside id w w' u v) : u.Indistinct v := by
  obtain ⟨es, hu, hv⟩ := hb.alters
  refine ⟨hb.shares.enabled, hb.shares.settings, fun id' => ?_, fun id' => ?_, ?_⟩
  · by_cases hid : id' = id
    · exact hid ▸ hb.shares.record
    · rw [hv.others id' hid, hu.others id' hid, h.records]
  · rw [hv.effectsOn, hu.effectsOn, h.felt]
  · rw [hv.effects, hu.effects]
    exact h.effects.append_right es

theorem of_beside (hab : a ≠ b) (hfirst : Beside a w v u y) (hsecond : Beside b w u v x) :
    x.Indistinct y := by
  obtain ⟨es, hu, hy⟩ := hfirst.alters
  obtain ⟨fs, hv, hx⟩ := hsecond.alters
  refine ⟨?_, ?_, fun id => ?_, fun id => ?_, ?_⟩
  · rw [hy.enabled, hv.enabled, hx.enabled, hu.enabled]
  · rw [hy.settings, hv.settings, hx.settings, hu.settings]
  · by_cases ha : id = a
    · subst ha
      rw [hx.others id hab, hfirst.shares.record]
    · rw [hy.others id ha]
      by_cases hb : id = b
      · exact hb ▸ hsecond.shares.record.symm
      · rw [hv.others id hb, hx.others id hb, hu.others id ha]
  · -- No effect is felt by both.
    rw [hy.effectsOn, hv.effectsOn, hx.effectsOn, hu.effectsOn]
    by_cases ha : id = a
    · subst ha
      rw [hv.unfelt hab, List.append_nil, List.append_nil]
    · rw [hu.unfelt ha, List.append_nil, List.append_nil]
  · rw [hy.effects, hv.effects, hx.effects, hu.effects, List.append_assoc, List.append_assoc]
    exact List.perm_append_comm.append_left w.effects

end Indistinct

section Leaks

variable {env : Environment}

theorem leakOne_beside (env : Environment) (hw : w.Orderly) (h : w.Shares id w') :
    Option.Rel (Beside id w w') (leakOne env id w) (leakOne env id w') := by
  obtain ⟨hcrossed, hticked⟩ := h.tick env.now
  refine leakOne_along (congrArg (·.installed.table) h.settings.symm) hcrossed hticked
    fun author crossed hauthor => ?_
  rw [hw.kept.author_tick hauthor]
  exact coupling_beside hw.keeps id w'

theorem alters_of_leakOne (hw : w.Orderly) (h : leakOne env id w = some u) : ∃ es, w.Alters id es u := by
  have hrel := leakOne_beside env hw (.refl id w)
  rw [h] at hrel
  cases hrel with
  | some hbeside =>
    obtain ⟨es, hu, -⟩ := hbeside.alters
    exact ⟨es, hu⟩

theorem Orderly.leakOne (hw : w.Orderly) (h : leakOne env id w = some u) : u.Orderly := by
  obtain ⟨es, hu⟩ := alters_of_leakOne hw h
  exact ⟨upheld_wellKept.leakOne hw.kept h, hu.table ▸ hw.keeps⟩

theorem leakOne_bind_none (hab : a ≠ b) (hw : w.Orderly) (h : leakOne env a w = none) :
    (leakOne env b w).bind (leakOne env a) = none := by
  cases hb : leakOne env b w with
  | none => rfl
  | some v =>
    obtain ⟨fs, hv⟩ := alters_of_leakOne hw hb
    have hrel := leakOne_beside env hw (hv.shares hab)
    rw [h] at hrel
    exact eq_none_of_rel hrel

theorem leakOne_swap (env : Environment) (hab : a ≠ b) (hw : w.Orderly) :
    Option.Rel Indistinct ((leakOne env a w).bind (leakOne env b)) ((leakOne env b w).bind (leakOne env a)) := by
  cases ha : leakOne env a w with
  | none =>
    rw [leakOne_bind_none hab hw ha]
    exact .none
  | some u =>
    cases hb : leakOne env b w with
    | none =>
      have hnone := leakOne_bind_none hab.symm hw hb
      rw [ha] at hnone
      rw [hnone]
      exact .none
    | some v =>
      obtain ⟨es, hu⟩ := alters_of_leakOne hw ha
      obtain ⟨fs, hv⟩ := alters_of_leakOne hw hb
      -- Whatever was done to the one author, the other's record and the settings are what they were.
      have hfirst := leakOne_beside env hw (hv.shares hab)
      have hsecond := leakOne_beside env hw (hu.shares hab.symm)
      rw [ha] at hfirst
      rw [hb] at hsecond
      obtain ⟨y, hy, hfirst⟩ := exists_of_rel_left hfirst
      obtain ⟨x, hx, hsecond⟩ := exists_of_rel_left hsecond
      rw [Option.bind_some, Option.bind_some, hx, hy]
      exact .some (.of_beside hab hfirst hsecond)

theorem leakEach_indistinct (order : List String) (hw : w.Orderly) (hw' : w'.Orderly)
    (h : w.Indistinct w') : Option.Rel Indistinct (leakEach env order w) (leakEach env order w') := by
  induction order generalizing w w' with
  | nil => exact .some h
  | cons id rest ih =>
    have hrel := leakOne_beside env hw (h.shares id)
    rw [leakEach, leakEach]
    cases hfirst : leakOne env id w with
    | none =>
      rw [hfirst] at hrel
      rw [eq_none_of_rel hrel]
      exact .none
    | some u =>
      rw [hfirst] at hrel
      obtain ⟨u', hfirst', hbeside⟩ := exists_of_rel_left hrel
      rw [hfirst']
      exact ih (hw.leakOne hfirst) (hw'.leakOne hfirst') (h.beside hbeside)

theorem leakEach_cons_cons (env : Environment) (a b : String) (rest : List String) (w : World) :
    leakEach env (a :: b :: rest) w =
      ((leakOne env a w).bind (leakOne env b)).bind (leakEach env rest) := by
  rw [Option.bind_assoc]
  rfl

theorem Orderly.leakOne_bind (hw : w.Orderly)
    (h : (Moderation.leakOne env a w).bind (Moderation.leakOne env b) = some u) : u.Orderly := by
  obtain ⟨v, hv, hu⟩ := Option.bind_eq_some_iff.1 h
  exact (hw.leakOne hv).leakOne hu

theorem leakEach_perm {order order' : List String} (h : order.Perm order') (hw : w.Orderly) :
    Option.Rel Indistinct (leakEach env order w) (leakEach env order' w) := by
  induction h generalizing w with
  | nil => exact .some (.refl w)
  | cons id _ ih =>
    rw [leakEach, leakEach]
    cases hfirst : leakOne env id w with
    | none => exact .none
    | some u => exact ih (hw.leakOne hfirst)
  | swap a b rest =>
    by_cases hab : b = a
    · subst hab
      exact rel_refl Indistinct.refl _
    · have hswap := leakOne_swap env hab hw
      rw [leakEach_cons_cons, leakEach_cons_cons]
      cases hx : (leakOne env b w).bind (leakOne env a) with
      | none =>
        rw [hx] at hswap
        rw [eq_none_of_rel hswap]
        exact .none
      | some x =>
        rw [hx] at hswap
        obtain ⟨y, hy, hxy⟩ := exists_of_rel_left hswap
        rw [hy]
        exact leakEach_indistinct rest (hw.leakOne_bind hx) (hw.leakOne_bind hy) hxy
  | trans _ _ ih ih' => exact rel_trans (R := Indistinct) (fun _ _ _ => .trans) (ih hw) (ih' hw)

end Leaks

section Additions

variable {env : Environment} {message : Context} {delta : Float} {r : Float × Stage}

theorem addPoints_beside (hw : w.Orderly) (h : w.Shares message.author.id w')
    (hr : addPoints env delta ⟨message, w⟩ = some r) :
    ∃ r', addPoints env delta ⟨message, w'⟩ = some r' ∧ r'.1 = r.1 ∧ r'.2.context = r.2.context ∧
      Beside message.author.id w w' r.2.world r'.2.world := by
  have hrel := addPoints_along (coupling_beside hw.keeps _ w') env rfl delta (.refl h)
  rw [hr] at hrel
  obtain ⟨r', hr', hscore, halong⟩ := exists_of_rel_left hrel
  exact ⟨r', hr', hscore.symm, halong.context.symm, halong.world⟩

theorem alters_of_addPoints (hw : w.Orderly) (hr : addPoints env delta ⟨message, w⟩ = some r) :
    ∃ es, w.Alters message.author.id es r.2.world := by
  obtain ⟨r', -, -, -, hbeside⟩ := addPoints_beside hw (.refl _ w) hr
  obtain ⟨es, hu, -⟩ := hbeside.alters
  exact ⟨es, hu⟩

end Additions

end World

/-- Points for two authors may be added in either order: both have a result, the scores, the messages and everything
that an author feels are the same. A tick may leak the records in any order, or has no result in any of them. -/
theorem authors_are_independent {requests : List (Environment × ScoreRequest)} {w : World}
    (hrun : runRequests requests .initial = some w) (hkeeps : AllActions w.scores.table Action.KeepsAuthor)
    (env : Environment) :
    (∀ (first second : Context) (delta delta' : Float) (r r' : Float × Stage),
      first.author.id ≠ second.author.id → addPoints env delta ⟨first, w⟩ = some r →
      addPoints env delta' ⟨second, w⟩ = some r' →
      ∃ t t', addPoints env delta' ⟨second, r.2.world⟩ = some t' ∧
        addPoints env delta ⟨first, r'.2.world⟩ = some t ∧
        t'.1 = r'.1 ∧ t'.2.context = r'.2.context ∧ t.1 = r.1 ∧ t.2.context = r.2.context ∧
        t'.2.world.Indistinct t.2.world) ∧
    ∀ order : List String, order.Perm w.scores.ids →
      Option.Rel World.Indistinct (leakAll env w) ((ScoreCall.tick order).perform env w) := by
  have hw : w.Orderly := ⟨wellKept_of_runRequests hrun, hkeeps⟩
  refine ⟨fun first second delta delta' r r' hids hr hr' => ?_, fun order horder => ?_⟩
  · obtain ⟨es, hu⟩ := World.alters_of_addPoints hw hr
    obtain ⟨fs, hv⟩ := World.alters_of_addPoints hw hr'
    obtain ⟨t, ht, hscore, hcontext, hfirst⟩ := World.addPoints_beside hw (hv.shares hids) hr
    obtain ⟨t', ht', hscore', hcontext', hsecond⟩ := World.addPoints_beside hw (hu.shares hids.symm) hr'
    exact ⟨t, t', ht', ht, hscore', hcontext', hscore, hcontext, .of_beside hids hfirst hsecond⟩
  · simp only [leakAll, ScoreCall.perform]
    split
    · exact World.leakEach_perm horder.symm hw
    · exact .some (.refl w)

def escalation : List (Threshold Float Action) :=
  [⟨"five", 5, [.penalize .warn none, .points 6], [.points (-1)]⟩,
    ⟨"ten", 10, [.penalize .kick none], [.command "say calm again"]⟩]

theorem ofList_escalation : Table.ofList escalation = .ok ⟨escalation⟩ :=
  Table.ofList_of_ascending (by decide +kernel) (by decide +kernel) (by decide +kernel)

def quietMessage (id : String) : Context := .blank ⟨id, id, fun _ => false, fun _ _ => .ok ()⟩

def rivals : List (Environment × ScoreRequest) :=
  [(plainEnvironment 0, .enable .standard escalation),
    (plainEnvironment 0, .call (.add (quietMessage "steve") 7)),
    (plainEnvironment 0, .call (.add (quietMessage "alex") 7))]

theorem authors_are_independent_rivals :
    let later := plainEnvironment 600000
    ∃ w r r' t t', runRequests rivals .initial = some w ∧
      addPoints later 7 ⟨quietMessage "steve", w⟩ = some r ∧
      addPoints later 8 ⟨quietMessage "alex", w⟩ = some r' ∧
      addPoints later 8 ⟨quietMessage "alex", r.2.world⟩ = some t' ∧
      addPoints later 7 ⟨quietMessage "steve", r'.2.world⟩ = some t ∧
      t'.2.world.Indistinct t.2.world ∧ (t.2.world.effectsOn "steve").length = 11 ∧
      (leakAll later w).isSome = true ∧
      Option.Rel World.Indistinct (leakAll later w) ((ScoreCall.tick ["alex", "steve"]).perform later w) := by
  intro later
  have htells : (runRequests rivals .initial).any (fun w =>
      w.scores.ids == ["steve", "alex"] && w.scores.table.sorted.all (fun t =>
          (t.ascending ++ t.descending).all fun a => !a.isHost) && (leakAll later w).isSome &&
        (addPoints later 7 ⟨quietMessage "steve", w⟩).isSome &&
        (addPoints later 8 ⟨quietMessage "alex", w⟩).any fun r' =>
          (addPoints later 7 ⟨quietMessage "steve", r'.2.world⟩).any fun t =>
            (t.2.world.effectsOn "steve").length == 11) = true := by
    have henable := World.enable_eq .standard ofList_escalation (by decide)
    simp only [rivals, runRequests, ScoreRequest.perform, henable]
    decide +kernel
  obtain ⟨w, hrun, hw⟩ := (Option.any_eq_true _ _).1 htells
  simp only [Bool.and_eq_true, beq_iff_eq, Option.isSome_iff_exists] at hw
  obtain ⟨⟨⟨⟨hids, hhosts⟩, hleak⟩, ⟨r, hr⟩⟩, hafter⟩ := hw
  obtain ⟨r', hr', hafter⟩ := (Option.any_eq_true _ _).1 hafter
  obtain ⟨hadds, hticks⟩ := authors_are_independent hrun (.of_no_host hhosts) later
  obtain ⟨t, t', ht', ht, -, -, -, -, hindistinct⟩ :=
    hadds (quietMessage "steve") (quietMessage "alex") 7 8 r r' (by decide) hr hr'
  rw [ht, Option.any_some, beq_iff_eq] at hafter
  have horder : ["alex", "steve"].Perm w.scores.ids := hids ▸ .swap "steve" "alex" []
  exact ⟨w, r, r', t, t', hrun, hr, hr', ht', ht, hindistinct, hafter, Option.isSome_iff_exists.2 hleak,
    hticks _ horder⟩

end Moderation
