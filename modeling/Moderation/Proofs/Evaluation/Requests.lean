import Moderation.Proofs.Evaluation.Conservation
import Moderation.Proofs.Evaluation.OncePerCrossing
import Moderation.Proofs.Points.Bookkeeping

namespace Moderation

open Points

inductive ScoreRequest where
  | enable (leak : LeakRate Float) (thresholds : List (Threshold Float Action))
  | disable
  | release (id : String)
  | evaluate (chain : Chain) (message : Context)
  | call (c : ScoreCall)

def World.install (w : World) (leak : LeakRate Float) (table : ThresholdTable) (now : Time) : World :=
  { w with scores := w.scores.enable leak table now }

/-- Turns scoring on or reconfigures it, unless the interval is empty or the thresholds make no table. -/
def World.enable (w : World) (leak : LeakRate Float) (thresholds : List (Threshold Float Action)) (now : Time) :
    World :=
  match Table.ofList thresholds with
  | .error _ => w
  | .ok table => if leak.interval = 0 then w else w.install leak table now

def ScoreRequest.perform (env : Environment) (w : World) : ScoreRequest → Option World
  | .enable leak thresholds => some (w.enable leak thresholds env.now)
  | .disable => some { w with scores := w.scores.disable }
  | .release id => some { w with scores := (w.scores.release id env.now).1 }
  | .evaluate chain message => (execute env chain ⟨message, w⟩).map fun r => r.1.world
  | .call c => c.perform env w

/-- Requests one after another, each in an environment of its own, which tells the time of the request. -/
def runRequests : List (Environment × ScoreRequest) → World → Option World
  | [], w => some w
  | (env, request) :: rest, w => (request.perform env w).bind (runRequests rest)

theorem World.enable_eq (leak : LeakRate Float) {thresholds : List (Threshold Float Action)}
    {table : ThresholdTable} (hofList : Table.ofList thresholds = .ok table) (hinterval : leak.interval ≠ 0)
    (w : World) (now : Time) : w.enable leak thresholds now = w.install leak table now := by
  simp only [World.enable, hofList, hinterval, if_false]

def World.initial : World := ⟨.initial, []⟩

theorem AllActions.unrestricted (t : ThresholdTable) : AllActions t fun _ => True :=
  fun _ _ => ⟨fun _ _ => trivial, fun _ _ => trivial⟩

structure Upheld (P : Scores → Prop) : Prop where
  enable {b : Scores} {table : ThresholdTable} (leak : LeakRate Float) (now : Time) : table.Valid → P b →
    P (b.enable leak table now)
  disable {b : Scores} : P b → P b.disable
  drop {b : Scores} (id : String) : P b → P (b.drop id)
  add {b : Scores} (a : Author) (delta : Float) (now : Time) : P b → P (b.add a delta now).1
  tick {b : Scores} (id : String) (now : Time) : P b → P (b.tick id now).1

theorem upheld_wellKept : Upheld Scoreboard.WellKept where
  enable leak now ht hb := hb.enable ht leak now
  disable hb := hb.disable
  drop id hb := hb.drop id
  add a delta now hb := hb.add a delta now
  tick id now hb := hb.tick id now

namespace Upheld

variable {P : Scores → Prop} (h : Upheld P)

structure Passes (P : Scores → Prop) (s t : Stage) : Prop where
  table : t.world.scores.table = s.world.scores.table
  passes : P s.world.scores → P t.world.scores

include h

theorem conserved (env : Environment) : Conserved env (fun _ => True) (Passes P) where
  refl _ := ⟨rfl, fun hs => hs⟩
  trans hst htu := ⟨htu.table.trans hst.table, fun hs => htu.passes (hst.passes hs)⟩
  table hst := hst.table
  acts _ hpoints hrun :=
    have hscores := scores_step hpoints hrun
    ⟨congrArg (·.table) hscores, fun hs => hscores.symm ▸ hs⟩
  enters _ _ _ _ := ⟨rfl, fun hs => hs⟩
  logs _ _ := ⟨rfl, fun hs => hs⟩
  scores s delta _ := ⟨rfl, h.add s.context.author delta env.now⟩
  blank hst := ⟨hst.table, hst.passes⟩

theorem leakOne {env : Environment} {id : String} {w w' : World} (hw : P w.scores)
    (hrun : leakOne env id w = some w') : P w'.scores := by
  have htick := h.tick id env.now hw
  rw [leakOne_eq] at hrun
  split at hrun
  · obtain rfl := Option.some.inj hrun
    exact htick
  · obtain ⟨s', hsets, rfl⟩ := Option.map_eq_some_iff.1 hrun
    exact ((h.conserved env).fireSets (h.conserved env).fires (.unrestricted _) (.unrestricted _) hsets).passes
      htick

theorem leakEach {env : Environment} {order : List String} {w w' : World} (hw : P w.scores)
    (hrun : leakEach env order w = some w') : P w'.scores := by
  induction order generalizing w with
  | nil =>
    obtain rfl := Option.some.inj hrun
    exact hw
  | cons id rest ih =>
    obtain ⟨v, hfirst, hrest⟩ := Option.bind_eq_some_iff.1 hrun
    exact ih (h.leakOne hw hfirst) hrest

theorem call {env : Environment} {call : ScoreCall} {w w' : World} (hw : P w.scores)
    (hrun : call.perform env w = some w') : P w'.scores := by
  cases call with
  | add message delta =>
    obtain ⟨r, hadd, rfl⟩ := Option.map_eq_some_iff.1 hrun
    exact ((h.conserved env).addPointsWith (h.conserved env).fires trivial (.unrestricted _) hadd).passes hw
  | tick order =>
    simp only [ScoreCall.perform] at hrun
    split at hrun
    · exact h.leakEach hw hrun
    · obtain rfl := Option.some.inj hrun
      exact hw

theorem perform {env : Environment} {request : ScoreRequest} {w w' : World} (hw : P w.scores)
    (hrun : request.perform env w = some w') : P w'.scores := by
  cases request with
  | enable leak thresholds =>
    obtain rfl := Option.some.inj hrun
    unfold World.enable
    split
    · exact hw
    · rename_i table htable
      split
      · exact hw
      · exact h.enable leak env.now (Table.valid_of_ofList htable) hw
  | disable =>
    obtain rfl := Option.some.inj hrun
    exact h.disable hw
  | release id =>
    obtain rfl := Option.some.inj hrun
    dsimp only
    rw [Scoreboard.release_eq]
    split
    · exact h.drop id hw
    · exact hw
  | evaluate chain message =>
    obtain ⟨r, hexecute, rfl⟩ := Option.map_eq_some_iff.1 hrun
    exact ((h.conserved env).runRules (fun _ _ _ _ => trivial) (.unrestricted _) hexecute).passes hw
  | call c => exact h.call hw hrun

theorem runRequests {requests : List (Environment × ScoreRequest)} {w w' : World} (hw : P w.scores)
    (hrun : runRequests requests w = some w') : P w'.scores := by
  induction requests generalizing w with
  | nil =>
    obtain rfl := Option.some.inj hrun
    exact hw
  | cons first rest ih =>
    obtain ⟨v, hfirst, hrest⟩ := Option.bind_eq_some_iff.1 hrun
    exact ih (h.perform hw hfirst) hrest

end Upheld

variable {requests : List (Environment × ScoreRequest)} {w : World}

theorem wellKept_of_runRequests (h : runRequests requests .initial = some w) : w.scores.WellKept :=
  upheld_wellKept.runRequests Scoreboard.wellKept_initial h

/-- Whatever was asked of the scores, and whatever thresholds did meanwhile, every record has a score and the
level of that score in the table that it is on, and every score that is reported is one. -/
theorem records_hold_scores (hrun : runRequests requests .initial = some w) :
    (∀ id e, w.scores.find? id = some e → IsScore e.record.points ∧
      e.record.level = e.record.installed.table.sorted.countP (fun t => t.points ≤ e.record.points) ∧
      e.record.level ≤ e.record.installed.table.size) ∧
    (∀ id now, IsScore (w.scores.points id now)) ∧
    ∀ fire now delta s total s', addPointsWith fire now delta s = some (total, s') → IsScore total := by
  have hkept := wellKept_of_runRequests hrun
  refine ⟨fun id e he => ?_, w.scores.isScore_points, fun fire now delta s total s' hadd => ?_⟩
  · have hsound := (hkept.files id e he).sound
    refine ⟨isScore_of_atMost hsound.score, ?_, hsound.level ▸ Table.level_le_size _ _⟩
    rw [hsound.level, Table.level_eq_countP hsound.valid]
    rfl
  · cases henabled : s.world.scores.enabled with
    | false =>
      rw [addPointsWith_of_disabled henabled] at hadd
      obtain ⟨rfl, -⟩ := Prod.mk.inj (Option.some.inj hadd)
      exact isScore_zero
    | true =>
      rw [addPointsWith_eq henabled] at hadd
      obtain ⟨t, -, heq⟩ := Option.map_eq_some_iff.1 hadd
      obtain ⟨rfl, -⟩ := Prod.mk.inj heq
      exact s.world.scores.isScore_add s.context.author delta now

def upheaval : List (Environment × ScoreRequest) :=
  let add (id : String) (delta : Float) (now : Time) : Environment × ScoreRequest :=
    (plainEnvironment now, .call (pointsFor id delta now).2)
  [(plainEnvironment 0, .enable .standard twoSteps), add "steve" (0 / 0) 0, add "steve" 7 0, add "alex" (1 / 0) 0,
    (plainEnvironment 0, .enable ⟨1 / 0, 1⟩ stumble), add "alex" 12 5, (plainEnvironment 9, .call (.tick ["alex"])),
    (plainEnvironment 9, .release "alex"), add "alex" 4 9]

theorem records_hold_scores_upheaval :
    ∃ w steve alex, runRequests upheaval .initial = some w ∧ w.scores.find? "steve" = some steve ∧
      w.scores.find? "alex" = some alex ∧
      steve.record.installed.stamp < alex.record.installed.stamp ∧ steve.record.level = 1 ∧
      steve.record.level =
        steve.record.installed.table.sorted.countP (fun t => t.points ≤ steve.record.points) ∧
      IsScore (w.scores.points "alex" 100) := by
  have htells : (runRequests upheaval .initial).any (fun w =>
      (w.scores.find? "steve").any fun steve => (w.scores.find? "alex").any fun alex =>
        steve.record.installed.stamp < alex.record.installed.stamp && steve.record.level == 1) = true := by
    -- The sort of a table does not compute; tables in ascending order are known.
    have hfirst := World.enable_eq .standard ofList_twoSteps (by decide)
    have hsecond := World.enable_eq ⟨1 / 0, 1⟩ ofList_stumble (by decide)
    simp only [upheaval, runRequests, ScoreRequest.perform, hfirst, hsecond]
    decide +kernel
  obtain ⟨w, hrun, hw⟩ := (Option.any_eq_true _ _).1 htells
  obtain ⟨steve, hsteve, hrecords⟩ := (Option.any_eq_true _ _).1 hw
  obtain ⟨alex, halex, hstamp⟩ := (Option.any_eq_true _ _).1 hrecords
  simp only [Bool.and_eq_true, decide_eq_true_eq, beq_iff_eq] at hstamp
  obtain ⟨hheld, hreported, -⟩ := records_hold_scores hrun
  exact ⟨w, steve, alex, hrun, hsteve, halex, hstamp.1, hstamp.2, (hheld "steve" steve hsteve).2.1,
    hreported "alex" 100⟩

end Moderation
