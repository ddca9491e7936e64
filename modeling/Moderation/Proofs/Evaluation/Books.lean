import Moderation.Proofs.Evaluation.Conservation
import Moderation.Proofs.Evaluation.OncePerCrossing
import Moderation.Proofs.Points.Ticks

namespace Moderation

open Points

def ScoreCall.posting : ScoreCall → Posting Float
  | .add message delta => .add message.author delta
  | .tick order => .tick order

structure World.Books (before : World) (l : Ledger Float Action) (w : World) : Prop where
  board : l.board = w.scores
  fired : ∀ id, w.firedFor id = before.firedFor id ++ l.crossedFor id

theorem World.Books.opening (w : World) : w.Books (.opening w.scores) w :=
  ⟨rfl, fun _ => (List.append_nil _).symm⟩

theorem conserved_scores (env : Environment) :
    Conserved env Action.Quiet fun s t => t.world.scores = s.world.scores where
  refl _ := rfl
  trans h h' := h'.trans h
  table h := congrArg Scoreboard.table h
  acts _ hpoints h := scores_step hpoints h
  enters _ _ _ _ := rfl
  logs _ _ := rfl
  scores _ _ hquiet := by cases hquiet.1
  blank h := h

section Sets

variable {env : Environment} {table : ThresholdTable} {c : Crossing} {cs : List Crossing}
  {s s' : Stage}

theorem fireSet_scores (ht : AllActions table Action.Quiet)
    (hs : AllActions s.world.scores.table Action.Quiet)
    (h : fireSet (fire env) table c s = some s') : s'.world.scores = s.world.scores :=
  (conserved_scores env).fireSet (conserved_scores env).fires ht hs h

theorem fireAll_scores (ht : AllActions table Action.Quiet)
    (hs : AllActions s.world.scores.table Action.Quiet)
    (h : fireAll (fire env) table cs s = some s') : s'.world.scores = s.world.scores :=
  (conserved_scores env).fireAll (conserved_scores env).fires ht hs h

theorem fireSets_scores (ht : AllActions table Action.Quiet)
    (hs : AllActions s.world.scores.table Action.Quiet)
    (h : fireSets (fire env) table cs s = some s') : s'.world.scores = s.world.scores := by
  induction cs generalizing s with
  | nil =>
    obtain rfl := Option.some.inj h
    rfl
  | cons c rest ih =>
    obtain ⟨t, hfirst, hrest⟩ := Option.bind_eq_some_iff.1 h
    have hscores := fireSet_scores ht hs hfirst
    exact (ih (hscores ▸ hs) hrest).trans hscores

end Sets

namespace World.Books

variable {before w w' : World} {l : Ledger Float Action} {env : Environment}

theorem post (h : before.Books l w) {board : Scores} {id : String} {cs : List Crossing}
    (hscores : w'.scores = board) (hadv : World.Advances ⟨board, w.effects⟩ id [] cs w') :
    before.Books (l.post board id cs) w' where
  board := hscores.symm
  fired id' := by
    rw [Ledger.crossedFor_post]
    split
    · rename_i hid
      rw [hid, hadv.fired, ← List.append_assoc, ← h.fired]
      rfl
    · rename_i hid
      rw [hadv.others id' hid, ← h.fired]
      rfl

theorem leakOne (h : before.Books l w) (hw : w.scores.Consistent)
    (ht : AllActions w.scores.table Action.Quiet) {id : String} (hrun : leakOne env id w = some w') :
    before.Books (l.tickOne env.now id) w' := by
  unfold Moderation.leakOne at hrun
  unfold Ledger.tickOne
  rw [h.board]
  dsimp only at hrun
  split at hrun
  case h_1 scores heq =>
    obtain rfl := Scoreboard.tick_none heq
    obtain rfl := Option.some.inj hrun
    rw [heq]
    exact h
  case h_2 scores a crossed heq =>
    rw [heq]
    obtain ⟨rfl, hmoves, -, hindex⟩ := Scoreboard.tick_some hw heq
    have htable : scores.table = w.scores.table := congrArg (·.installed.table) hmoves.settings
    have hstart : AllActions scores.table Action.Quiet := htable ▸ ht
    obtain ⟨s', hs', hadv⟩ := foldlM_quiet (fun c hc => fireSet_quiet env ht (hindex c hc))
      ⟨.blank a, { w with scores := scores }⟩
    rw [← fireSets_eq_foldlM] at hs'
    obtain ⟨t, hfired, rfl⟩ := Option.map_eq_some_iff.1 hrun
    obtain rfl : s' = t := Option.some.inj (hs'.symm.trans hfired)
    exact h.post (fireSets_scores ht hstart hs') hadv.world

theorem leakEach (h : before.Books l w) (hw : w.scores.Consistent)
    (ht : AllActions w.scores.table Action.Quiet) {order : List String}
    (hrun : leakEach env order w = some w') : before.Books (order.foldl (Ledger.tickOne env.now) l) w' := by
  induction order generalizing l w with
  | nil =>
    obtain rfl := Option.some.inj hrun
    exact h
  | cons id rest ih =>
    obtain ⟨v, hv, hrest⟩ := Option.bind_eq_some_iff.1 hrun
    obtain ⟨v', cs, hv', hadv⟩ := leakOne_quiet env id hw ht
    obtain rfl : v' = v := Option.some.inj (hv'.symm.trans hv)
    exact ih (h.leakOne hw ht hv) (hadv.consistent hw) (hadv.table ▸ ht) hrest

theorem addPoints (h : before.Books l w) (henabled : w.scores.enabled = true)
    (hw : w.scores.Consistent) (ht : AllActions w.scores.table Action.Quiet) {message : Context}
    {delta : Float} {r : Float × Stage} (hrun : addPoints env delta ⟨message, w⟩ = some r) :
    before.Books (l.add message.author delta env.now) r.2.world := by
  have hadd := add_advances (s := ⟨message, w⟩) hw delta env.now
  have hindex : ∀ c ∈ (w.scores.add message.author delta env.now).2.1, c.index < w.scores.table.size :=
    fun c hc => Scoreboard.add_index_lt hw hc
  rw [Moderation.addPoints, addPointsWith_eq henabled] at hrun
  rw [Ledger.add, h.board]
  dsimp only at hrun hadd ⊢
  generalize w.scores.add message.author delta env.now = moved at hrun hadd hindex
  have hstart : AllActions moved.1.table Action.Quiet := hadd.world.table ▸ ht
  obtain ⟨s', hs', hadv⟩ := foldlM_quiet (fun c hc => fireCrossing_quiet env ht (hindex c hc))
    ⟨message, { w with scores := moved.1 }⟩
  rw [← fireAll_eq_foldlM] at hs'
  obtain ⟨t, hfired, rfl⟩ := Option.map_eq_some_iff.1 hrun
  obtain rfl : s' = t := Option.some.inj (hs'.symm.trans hfired)
  exact h.post (fireAll_scores ht hstart hs') hadv.world

theorem perform (h : before.Books l w) (henabled : w.scores.enabled = true)
    (hw : w.scores.Consistent) (ht : AllActions w.scores.table Action.Quiet) {call : ScoreCall}
    (hrun : call.perform env w = some w') : before.Books (l.perform env.now call.posting) w' := by
  cases call with
  | add message delta =>
    obtain ⟨r, hr, rfl⟩ := Option.map_eq_some_iff.1 hrun
    exact h.addPoints henabled hw ht hr
  | tick order =>
    rw [ScoreCall.perform, if_pos henabled] at hrun
    exact h.leakEach hw ht hrun

theorem runCalls (h : before.Books l w) (henabled : w.scores.enabled = true)
    (hw : w.scores.Consistent) (ht : AllActions w.scores.table Action.Quiet)
    (calls : List (Environment × ScoreCall)) :
    ∃ w', runCalls calls w = some w' ∧
      before.Books (l.run (calls.map fun c => (c.1.now, c.2.posting))) w' := by
  induction calls generalizing l w with
  | nil => exact ⟨w, rfl, h⟩
  | cons first rest ih =>
    obtain ⟨v, hv, hproceeds⟩ := perform_quiet first.1 first.2 hw ht
    obtain ⟨u, hu, hbooks⟩ := ih (h.perform henabled hw ht hv) (hproceeds.enabled.trans henabled)
      (hproceeds.consistent hw) (hproceeds.table ▸ ht)
    exact ⟨u, by simp [Moderation.runCalls, hv, hu], hbooks⟩

end World.Books

/-- As long as scoring is on and no set adds points, a run gives the scores of a ledger to which its calls are
posted and performs the sets of the ledger's crossings. In a ledger in exact arithmetic any ticks may be added:
from the end of the run on every score reads the same, and once all records are ticked at one time each author has
met the same crossings. -/
theorem ticks_unseen :
    (∀ (calls : List (Environment × ScoreCall)) (w : World), w.scores.enabled = true →
      w.scores.Consistent → AllActions w.scores.table (fun a => a.addsPoints = false) →
      AllActions w.scores.table Action.KeepsAuthor →
      ∃ w', runCalls calls w = some w' ∧
        w.Books (.run (.opening w.scores) (calls.map fun c => (c.1.now, c.2.posting))) w') ∧
    ∀ {β : Type} (l : Ledger ℚ β) (start stop : Time) (ps qs : List (Time × Posting ℚ)),
      l.UpTo start → Ledger.TicksAdded ps qs → Ledger.Timed stop start qs →
      (∀ id t, stop ≤ t → (l.run ps).board.points id t = (l.run qs).board.points id t) ∧
      ∀ order order' : List String,
        (l.run ps).board.ids ⊆ order → (l.run qs).board.ids ⊆ order' →
        ∀ id, (l.run (ps ++ [(stop, .tick order)])).crossedFor id =
          (l.run (qs ++ [(stop, .tick order')])).crossedFor id := by
  refine ⟨fun calls w henabled hw hpoints hkeeps => ?_, fun l start stop ps qs hl hadded htimed => ?_⟩
  · exact (World.Books.opening w).runCalls henabled hw (Action.quiet_of hpoints hkeeps) calls
  · obtain ⟨hagree, hps, hqs⟩ := Ledger.agree_run hadded htimed (.refl start l) hl hl
    refine ⟨fun id t ht => (hagree.later hps hqs ht).points id, fun order order' horder horder' id => ?_⟩
    rw [Ledger.run_append, Ledger.run_append]
    calc ((l.run ps).perform stop (.tick order)).crossedFor id = (l.run ps).due id stop :=
          Ledger.crossedFor_tick hps horder id
      _ = (l.run qs).due id stop := hagree.due id
      _ = ((l.run qs).perform stop (.tick order')).crossedFor id :=
          (Ledger.crossedFor_tick hqs horder' id).symm

def stepsBoard : Scoreboard ℚ Action :=
  ⟨true, ⟨⟨1, 10000⟩, ⟨1, ⟨[⟨"five", 5, [], []⟩, ⟨"ten", 10, [], []⟩]⟩⟩⟩, [], none, 2⟩

def stepsPostings : List (Time × Posting ℚ) :=
  let steve : Author := ⟨"steve", "steve", fun _ => false, fun _ _ => .ok ()⟩
  [(0, .add steve 12), (60000, .add steve 3)]

def tickedPostings : List (Time × Posting ℚ) :=
  let steve : Author := ⟨"steve", "steve", fun _ => false, fun _ _ => .ok ()⟩
  [(0, .add steve 12), (20000, .tick ["steve"]), (25000, .tick ["steve"]), (60000, .add steve 3),
    (60000, .tick ["steve", "alex"])]

theorem ticks_unseen_steps :
    let start : Ledger ℚ Action := .opening stepsBoard
    start.UpTo 0 ∧ Ledger.TicksAdded stepsPostings tickedPostings ∧
      Ledger.Timed 100000 0 tickedPostings ∧
      (start.run stepsPostings).board.ids ⊆ ["steve"] ∧
      (start.run tickedPostings).board.ids ⊆ ["steve"] ∧
      (start.run stepsPostings).board.points "steve" 130000 = 2 ∧
      (start.run tickedPostings).board.points "steve" 130000 = 2 ∧
      (start.run (stepsPostings ++ [(100000, .tick ["steve"])])).crossedFor "steve" =
        [.up 0, .up 1, .down 1] ∧
      (start.run (tickedPostings ++ [(100000, .tick ["steve"])])).crossedFor "steve" =
        [.up 0, .up 1, .down 1] ∧
      ∃ w', runCalls [pointsFor "steve" 20 0, (plainEnvironment 600000, .tick ["steve"])]
          (.opening .standard ⟨twoSteps⟩ 0) = some w' ∧
        w'.firedFor "steve" = (Ledger.run (.opening (World.opening .standard ⟨twoSteps⟩ 0).scores)
          [(0, .add ⟨"steve", "steve", fun _ => false, fun _ _ => .ok ()⟩ 20),
            (600000, .tick ["steve"])]).crossedFor "steve" := by
  intro start
  have hupTo : start.UpTo 0 := by
    refine ⟨⟨⟨?_, ?_⟩, fun _ _ h => by cases h⟩, fun _ _ h => by cases h⟩
    · decide +kernel
    · decide +kernel
  have hadded : Ledger.TicksAdded stepsPostings tickedPostings :=
    .keep _ (.tick _ _ (.tick _ _ (.keep _ (.tick _ _ .nil))))
  have htimed : Ledger.Timed 100000 0 tickedPostings := by simp [Ledger.Timed, tickedPostings]
  have hids : (start.run stepsPostings).board.ids ⊆ ["steve"] := by decide +kernel
  have hids' : (start.run tickedPostings).board.ids ⊆ ["steve"] := by decide +kernel
  have hpoints : (start.run stepsPostings).board.points "steve" 130000 = 2 := by decide +kernel
  have hcrossed : (start.run (stepsPostings ++ [(100000, .tick ["steve"])])).crossedFor "steve" =
      [.up 0, .up 1, .down 1] := by decide +kernel
  obtain ⟨hruns, hexact⟩ := ticks_unseen
  obtain ⟨hreads, hmeets⟩ := hexact start 0 100000 stepsPostings tickedPostings hupTo hadded htimed
  obtain ⟨w', hw', hbooks⟩ := hruns [pointsFor "steve" 20 0, (plainEnvironment 600000, .tick ["steve"])]
    (.opening .standard ⟨twoSteps⟩ 0) rfl
    (consistent_opening .standard (Table.valid_of_ofList ofList_twoSteps) 0)
    (by simp [AllActions, World.opening, Scoreboard.enable, Scoreboard.table, twoSteps, Action.addsPoints])
    (by simp [AllActions, World.opening, Scoreboard.enable, Scoreboard.table, twoSteps, Action.KeepsAuthor])
  have hfired := hbooks.fired "steve"
  rw [World.opening_firedFor, List.nil_append] at hfired
  exact ⟨hupTo, hadded, htimed, hids, hids', hpoints, (hreads "steve" 130000 (by decide)).symm.trans hpoints,
    hcrossed, (hmeets ["steve"] ["steve"] hids hids' "steve").symm.trans hcrossed,
    w', hw', hfired⟩

end Moderation
