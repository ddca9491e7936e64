import Moderation.Proofs.Evaluation.OncePerCrossing
import Moderation.Service.Clock
import Moderation.Proofs.Service.Configuration

/-!
Releasing authors. A record is dropped if its score has leaked to zero by now, but the thresholds that
the stored score had reached are then never passed downward: their sets stay one ahead.
-/

namespace Moderation

open Points

def Reply.world {α : Type} (r : Reply α) : World := ⟨r.service.scores, r.effects⟩

theorem World.firedFor_append (b b' b'' : Scores) (es es' : List Effect) (id : String) :
    World.firedFor ⟨b, es ++ es'⟩ id = World.firedFor ⟨b', es⟩ id ++ World.firedFor ⟨b'', es'⟩ id := by
  simp [World.firedFor]

theorem exists_map {γ δ : Type} {o : Option γ} {f : γ → δ} {P : γ → Prop} {Q : δ → Prop}
    (h : ∃ c, o = some c ∧ P c) (hf : ∀ c, P c → Q (f c)) : ∃ d, o.map f = some d ∧ Q d := by
  obtain ⟨c, rfl, hc⟩ := h
  exact ⟨f c, rfl, hf c hc⟩

theorem not_points_le_zero {t : ThresholdTable} (ht : t.Valid) {place : Nat}
    {threshold : Threshold Float Action} (hp : t.get? place = some threshold) :
    ¬threshold.points ≤ (Scalar.zero : Float) :=
  of_decide_eq_false
    (Table.not_atMost_zero_of_isPositive (ht.positive threshold (List.mem_of_getElem? hp)))

namespace World.Proceeds

theorem behind {b : Scores} {w : World} (h : World.Proceeds ⟨b, []⟩ w) (effects : List Effect) :
    World.Proceeds ⟨b, effects⟩ ⟨w.scores, effects ++ w.effects⟩ where
  enabled := h.enabled
  settings := h.settings
  consistent := h.consistent
  authors id := by
    obtain ⟨fired, hwalk, hfired⟩ := h.authors id
    refine ⟨fired, hwalk, ?_⟩
    rw [World.firedFor_append _ b w.scores, show World.firedFor ⟨w.scores, w.effects⟩ id = fired from
      hfired]

theorem setTicker {w w' : World} (h : w.Proceeds w') (ticker : Option Ticker) :
    w.Proceeds ⟨{ w'.scores with ticker := ticker }, w'.effects⟩ where
  enabled := h.enabled
  settings := h.settings
  consistent hw := by
    have hw' := h.consistent hw
    exact ⟨hw'.valid, fun id e he =>
      have := hw'.settled id e he
      ⟨this.author, this.stamp, this.level⟩⟩
  authors := h.authors

end World.Proceeds

namespace Service

structure Steady (s : Service) : Prop where
  consistent : s.scores.Consistent
  quiet : AllActions s.scores.table Action.Quiet

theorem Steady.of_proceeds {s s' : Service} {es : List Effect} (hs : s.Steady)
    (h : World.Proceeds s.world ⟨s'.scores, es⟩) : s'.Steady :=
  ⟨h.consistent hs.consistent, h.table ▸ hs.quiet⟩

theorem addPoints_steady {s : Service} (hs : s.Steady) (author : Author) (text : String)
    (delta : Float) :
    ∃ r, s.addPoints author text delta = some r ∧ s.world.Proceeds r.world := by
  obtain ⟨r, cs, hr, hadv⟩ := Moderation.addPoints_quiet s.environment delta
    (s := ⟨.ofString author text, s.world⟩) hs.consistent hs.quiet
  exact exists_map (P := (· = r)) ⟨r, hr, rfl⟩ fun _ h =>
    h ▸ .of_advances hadv.world

theorem leakAll_steady {s : Service} (hs : s.Steady) :
    ∃ r, s.leakAll = some r ∧ s.world.Proceeds r.world := by
  rw [leakAll, leakAll_eq_tick]
  exact exists_map (perform_quiet s.environment (.tick s.scores.ids) hs.consistent hs.quiet) fun _ h => h

theorem serveTick_steady {s : Service} (hs : s.Steady) :
    ∃ r, s.serveTick = some r ∧ s.world.Proceeds r.world := by
  unfold serveTick
  split
  · exact ⟨_, rfl, .refl _⟩
  · rename_i ticker _
    have hdue : Steady { s with now := ticker.due } := ⟨hs.consistent, hs.quiet⟩
    exact exists_map (leakAll_steady hdue) fun _ h => h.setTicker (some ticker.next)

theorem serveTicks_steady (n : Nat) {s : Service} (hs : s.Steady) :
    ∃ r, serveTicks n s = some r ∧ s.world.Proceeds r.world := by
  induction n generalizing s with
  | zero => exact ⟨_, rfl, .refl _⟩
  | succ n ih =>
    obtain ⟨first, hfirst, hproceeds⟩ := serveTick_steady hs
    obtain ⟨rest, hrest, hproceeds'⟩ := ih (hs.of_proceeds hproceeds)
    exact ⟨{ rest with effects := first.effects ++ rest.effects },
      by simp [serveTicks, hfirst, hrest],
      hproceeds.trans (hproceeds'.behind first.effects)⟩

theorem advance_steady {s : Service} (hs : s.Steady) (length : Time) :
    ∃ r, s.advance length = some r ∧ s.world.Proceeds r.world :=
  exists_map (serveTicks_steady _ hs) fun _ h => h

theorem jump_steady {s : Service} (hs : s.Steady) (length : Time) :
    ∃ r, s.jump length = some r ∧ s.world.Proceeds r.world := by
  have hlater : Steady { s with now := s.now + length } := ⟨hs.consistent, hs.quiet⟩
  unfold jump
  dsimp only
  split
  · exact ⟨_, rfl, .refl _⟩
  · split
    · exact ⟨_, rfl, .refl _⟩
    · exact exists_map (leakAll_steady hlater) fun _ h => h.setTicker _

theorem releaseAuthor_scores (s : Service) (id : String) :
    (s.releaseAuthor id).2.scores =
      if (s.releaseAuthor id).1 then s.scores.drop id else s.scores := by
  have hrelease := Scoreboard.release_eq s.scores id s.now
  have hscores := congrArg Prod.fst hrelease
  rw [apply_ite Prod.fst] at hscores
  exact hscores

inductive Call where
  | add (author : Author) (text : String) (delta : Float)
  | leak
  | advance (length : Time)
  | jump (length : Time)
  | release (id : String)

end Service

structure History where
  service : Service
  effects : List Effect
  dropped : List (String × Float)

namespace History

def opening (s : Service) : History := ⟨s, [], []⟩

def world (h : History) : World := ⟨h.service.scores, h.effects⟩

def lost (h : History) (id : String) : List Float :=
  (h.dropped.filter fun x => x.1 == id).map Prod.snd

def after {α : Type} (h : History) (r : Reply α) : History :=
  ⟨r.service, h.effects ++ r.effects, h.dropped⟩

def release (h : History) (id : String) : History :=
  let (dropped, service) := h.service.releaseAuthor id
  ⟨service, h.effects,
    if dropped then (id, h.service.scores.stored id) :: h.dropped else h.dropped⟩

def perform (h : History) : Service.Call → Option History
  | .add author text delta => (h.service.addPoints author text delta).map h.after
  | .leak => h.service.leakAll.map h.after
  | .advance length => (h.service.advance length).map h.after
  | .jump length => (h.service.jump length).map h.after
  | .release id => some (h.release id)

def performAll : List Service.Call → History → Option History
  | [], h => some h
  | call :: rest, h => (h.perform call).bind (performAll rest)

/-- For every author and threshold, the ascending set was run once more than the descending one for each
dropped score at the threshold or above it, and once more if the score is there now. -/
structure Balanced (t : ThresholdTable) (h : History) : Prop where
  steady : h.service.Steady
  table_eq : h.service.scores.table = t
  counts : ∀ id place threshold, t.get? place = some threshold →
    (passages place (h.world.firedFor id)).count .ascending =
      (passages place (h.world.firedFor id)).count .descending +
        (h.lost id).countP (fun score => threshold.points ≤ score) +
        if threshold.points ≤ h.service.scores.stored id then 1 else 0

variable {t : ThresholdTable} {h : History}

theorem Balanced.after {α : Type} (hh : h.Balanced t) {r : Reply α}
    (hr : h.service.world.Proceeds r.world) : (h.after r).Balanced t where
  steady := hh.steady.of_proceeds hr
  table_eq := hr.table.trans hh.table_eq
  counts id place threshold hp := by
    have hcount := hh.counts id place threshold hp
    obtain ⟨fired, hwalk, hfired⟩ := (hr.behind h.effects).authors id
    have hpassed := hwalk.count_passages place
    have hbefore := lt_level_iff_stored hh.steady.consistent id (hh.table_eq ▸ hp)
    have hafter := lt_level_iff_stored (hr.consistent hh.steady.consistent) id
      (hr.table.trans hh.table_eq ▸ hp)
    simp only [hbefore, hafter] at hpassed
    have hworld : (h.after r).world.firedFor id = h.world.firedFor id ++ fired := hfired
    rw [hworld, passages_append, List.count_append, List.count_append]
    change _ = _ + (h.lost id).countP _ + if threshold.points ≤ r.world.scores.stored id then 1 else 0
    omega

theorem Balanced.drop (hh : h.Balanced t) (id : String) {s : Service}
    (hs : s.scores = h.service.scores.drop id) :
    Balanced t ⟨s, h.effects, (id, h.service.scores.stored id) :: h.dropped⟩ where
  steady := ⟨hs ▸ Scoreboard.consistent_drop hh.steady.consistent id, hs ▸ hh.steady.quiet⟩
  table_eq := hs ▸ hh.table_eq
  counts id' place threshold hp := by
    have hcount := hh.counts id' place threshold hp
    have hstored := Scoreboard.stored_drop h.service.scores id id'
    rw [← hs] at hstored
    simp only [lost, world] at hcount ⊢
    by_cases hid : id' = id
    · subst hid
      have hzero := not_points_le_zero (hh.table_eq ▸ hh.steady.consistent.valid) hp
      rw [hstored, if_pos rfl, if_neg hzero, List.filter_cons_of_pos (by simp), List.map_cons,
        List.countP_cons]
      simp only [decide_eq_true_eq, Nat.add_zero, ← Nat.add_assoc]
      exact hcount
    · have hid' : ¬id = id' := fun h => hid h.symm
      rw [hstored, if_neg hid, List.filter_cons_of_neg (by simpa using hid')]
      exact hcount

theorem Balanced.release (hh : h.Balanced t) (id : String) : (h.release id).Balanced t := by
  have hscores := Service.releaseAuthor_scores h.service id
  have heq : h.release id = ⟨(h.service.releaseAuthor id).2, h.effects,
    if (h.service.releaseAuthor id).1 then (id, h.service.scores.stored id) :: h.dropped
    else h.dropped⟩ := rfl
  rw [heq]
  split at hscores
  case isTrue hdropped =>
    rw [if_pos hdropped]
    exact hh.drop id hscores
  case isFalse hkept =>
    rw [if_neg hkept]
    refine ⟨⟨hscores ▸ hh.steady.consistent, hscores ▸ hh.steady.quiet⟩, hscores ▸ hh.table_eq, ?_⟩
    simp only [hscores, world]
    exact hh.counts

theorem Balanced.perform (hh : h.Balanced t) (call : Service.Call) :
    ∃ h', h.perform call = some h' ∧ h'.Balanced t := by
  cases call with
  | add author text delta =>
    exact exists_map (Service.addPoints_steady hh.steady author text delta) fun _ => hh.after
  | leak => exact exists_map (Service.leakAll_steady hh.steady) fun _ => hh.after
  | advance length => exact exists_map (Service.advance_steady hh.steady length) fun _ => hh.after
  | jump length => exact exists_map (Service.jump_steady hh.steady length) fun _ => hh.after
  | release id => exact ⟨_, rfl, hh.release id⟩

theorem Balanced.performAll (hh : h.Balanced t) (calls : List Service.Call) :
    ∃ h', History.performAll calls h = some h' ∧ h'.Balanced t := by
  induction calls generalizing h with
  | nil => exact ⟨h, rfl, hh⟩
  | cons call rest ih =>
    obtain ⟨v, hv, hbalanced⟩ := hh.perform call
    obtain ⟨u, hu, hbalanced'⟩ := ih hbalanced
    exact ⟨u, by simp [History.performAll, hv, hu], hbalanced'⟩

theorem balanced_opening {s : Service} (hs : s.Steady) (hnone : ∀ id, s.scores.find? id = none) :
    (opening s).Balanced s.scores.table where
  steady := hs
  table_eq := rfl
  counts id place threshold hp := by
    have hstored : s.scores.stored id = Scalar.zero := by
      rw [Scoreboard.stored, hnone]
      rfl
    change 0 = 0 + 0 + if threshold.points ≤ s.scores.stored id then 1 else 0
    rw [hstored, if_neg (not_points_le_zero hs.consistent.valid hp)]

end History

theorem valid_of_buildTable {r : Registry} {ts : List ThresholdSettings} {t : ThresholdTable}
    (h : buildTable r ts = .ok t) : t.Valid := by
  obtain ⟨built, -, hbuilt⟩ := bind_ok h
  split at hbuilt
  · rename_i table htable
    obtain rfl := Except.ok.inj hbuilt
    exact Table.valid_of_ofList htable
  · cases hbuilt

theorem valid_empty : (Table.empty : ThresholdTable).Valid :=
  ⟨.nil, fun _ h => by cases h⟩

section Opening

variable {registry : Registry} {tags : Tags} {sink : Sink} {hasRuntime : Bool} {config : Config}
  {s : Service}

theorem applyConfig_opening
    (h : (Service.initial registry tags sink hasRuntime).applyConfig config = .ok s) :
    s.scores.Consistent ∧ ∀ id, s.scores.find? id = none := by
  have hscores : s.scores.table.Valid ∧ s.scores.entries = [] := by
    have hrescored := Service.rescored_of_applyConfig h
    generalize s.scores = scores at hrescored ⊢
    cases hrescored with
    | on _ _ htable => exact ⟨valid_of_buildTable htable, rfl⟩
    | off _ => exact ⟨valid_empty, rfl⟩
  obtain ⟨hvalid, hentries⟩ := hscores
  have hnone : ∀ id, s.scores.find? id = none := fun id => by
    rw [Scoreboard.find?, hentries]
    rfl
  exact ⟨⟨hvalid, fun id e he => by rw [hnone id] at he; cases he⟩, hnone⟩

/-- When a record is dropped, the sets of a threshold are even if and only if the author has lost no record
with a stored score at the threshold or above it, the dropped record among them. -/
theorem release_even_iff
    (hconfig : (Service.initial registry tags sink hasRuntime).applyConfig config = .ok s)
    (hpoints : AllActions s.scores.table fun a => a.addsPoints = false)
    (hkeeps : AllActions s.scores.table Action.KeepsAuthor) (calls : List Service.Call) :
    ∃ h, History.performAll calls (.opening s) = some h ∧
      ∀ id, (h.service.releaseAuthor id).1 = true → ∀ place threshold,
        s.scores.table.get? place = some threshold →
          ((passages place ((h.release id).world.firedFor id)).count .ascending =
              (passages place ((h.release id).world.firedFor id)).count .descending ↔
            ∀ score ∈ (h.release id).lost id, ¬threshold.points ≤ score) := by
  obtain ⟨hconsistent, hnone⟩ := applyConfig_opening hconfig
  have hquiet := Action.quiet_of hpoints hkeeps
  obtain ⟨h, hh, hbalanced⟩ :=
    (History.balanced_opening ⟨hconsistent, hquiet⟩ hnone).performAll calls
  refine ⟨h, hh, fun id hdropped place threshold hp => ?_⟩
  have hcount := (hbalanced.release id).counts id place threshold hp
  have hscores := Service.releaseAuthor_scores h.service id
  rw [if_pos hdropped] at hscores
  have hstored : (h.release id).service.scores.stored id = Scalar.zero := by
    have := Scoreboard.stored_drop h.service.scores id id
    rwa [if_pos rfl, ← hscores] at this
  rw [hstored, if_neg (not_points_le_zero hconsistent.valid hp)] at hcount
  have hlost : (∀ score ∈ (h.release id).lost id, ¬threshold.points ≤ score) ↔
      ((h.release id).lost id).countP (fun score => threshold.points ≤ score) = 0 := by
    rw [List.countP_eq_zero]
    simp only [decide_eq_true_eq]
  rw [hlost]
  omega

end Opening

def leakyConfig : Config :=
  { points :=
      { enabled := true
        leak := ⟨10, 10⟩
        thresholds := [⟨"five", 5, [], []⟩] } }

def tells (config : Config) (calls : List Service.Call) (test : Service → History → Bool) : Bool :=
  ((Service.initial .empty .none .log true).applyConfig config).toOption.any fun s =>
    (History.performAll calls (.opening s)).any (test s)

theorem tells_eq {config : Config} {s : Service} {calls : List Service.Call} {h : History}
    (hs : (Service.initial .empty .none .log true).applyConfig config = .ok s)
    (hh : History.performAll calls (.opening s) = some h) (test : Service → History → Bool) :
    tells config calls test = test s h := by
  simp only [tells, hs, Except.toOption, hh, Option.any_some]

/-- Six points leak to nothing in seven seconds, before the ticker is due: the threshold was passed upward
and is never passed downward. -/
theorem release_even_iff_leaky :
    ∃ s h, (Service.initial .empty .none .log true).applyConfig leakyConfig = .ok s ∧
      History.performAll [.add ⟨"steve", "steve", fun _ => false, fun _ _ => .ok ()⟩ "" 6,
        .advance 7000] (.opening s) = some h ∧
      (h.service.releaseAuthor "steve").1 = true ∧
      (passages 0 ((h.release "steve").world.firedFor "steve")).count .ascending ≠
        (passages 0 ((h.release "steve").world.firedFor "steve")).count .descending := by
  cases hs : (Service.initial .empty .none .log true).applyConfig leakyConfig with
  | error e =>
    have hok : ((Service.initial .empty .none .log true).applyConfig leakyConfig).isOk = true := by
      decide +kernel
    rw [hs] at hok
    cases hok
  | ok s =>
    have hsets : ∀ t ∈ s.scores.table.sorted, t.ascending = [] ∧ t.descending = [] := by
      have : tells leakyConfig [] (fun s _ => s.scores.table.sorted.all fun t =>
          t.ascending.isEmpty && t.descending.isEmpty) = true := by decide +kernel
      rw [tells_eq hs rfl] at this
      simpa using this
    obtain ⟨h, hh, heven⟩ := release_even_iff hs
      (fun t ht => by simp [hsets t ht]) (fun t ht => by simp [hsets t ht])
      [.add ⟨"steve", "steve", fun _ => false, fun _ _ => .ok ()⟩ "" 6, .advance 7000]
    have hdropped := tells_eq hs hh fun _ h => (h.service.releaseAuthor "steve").1
    have hlost := tells_eq hs hh fun s h => (s.scores.table.get? 0).any fun t =>
      ((h.release "steve").lost "steve").any fun score => t.points ≤ score
    rw [show tells _ _ _ = true by decide +kernel] at hdropped hlost
    obtain ⟨t, ht, hscore⟩ := (Option.any_eq_true _ _).1 hlost.symm
    obtain ⟨score, hmem, hle⟩ := List.any_eq_true.1 hscore
    refine ⟨s, h, rfl, hh, hdropped.symm, fun heq => ?_⟩
    exact (heven "steve" hdropped.symm 0 t ht).1 heq score hmem (of_decide_eq_true hle)

end Moderation
