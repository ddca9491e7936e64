import Moderation.Proofs.Evaluation.Parallel
import Moderation.Proofs.Evaluation.Requests
import Moderation.Proofs.Points.Course

/-!
How deep thresholds set off one another. If sets for the way up only give points and sets for the way down only take
them, then on either way each call that crosses anything leaves fewer thresholds to the calls that its sets make; so
all of them come to an end, and at most two calls more are open at once than there are thresholds.
-/

namespace Moderation

open Points

section Depth

def stepAdding (env : Environment) (add : Float → Stage → Option (Float × Stage)) (a : Action) (s : Stage) :
    Option (Except ActionError Stage) :=
  match a with
  | .points amount =>
    if s.world.scores.enabled then
      (add amount s).map fun (total, s) =>
        .ok (s.withContext (s.context.note (pointsNote amount total s.context.author.name)))
    else some (.ok s)
  | a => step env (fun _ _ => none) a s

theorem step_eq_stepAdding (env : Environment) (fire : Firing) :
    step env fire = stepAdding env (addPointsWith fire env.now) := by
  funext a s
  cases a <;> rfl

/-- Adds points where the calls that do so nest at most `depth` deep, this one included. -/
def addNested (env : Environment) : Nat → Float → Stage → Option (Float × Stage)
  | 0 => fun _ _ => none
  | depth + 1 => addPointsWith (performEach (stepAdding env (addNested env depth))) env.now

def fireNested (env : Environment) (depth : Nat) : Firing := performEach (stepAdding env (addNested env depth))

def leakOneWith (fire : Firing) (now : Time) (id : String) (w : World) : Option World :=
  match (w.scores.tick id now).2 with
  | none => some (w.tick id now)
  | some (author, crossed) =>
    (fireSets fire w.scores.table crossed ⟨.blank author, w.tick id now⟩).map (·.world)

def leakAllWith (fire : Firing) (now : Time) (w : World) : Option World :=
  if w.scores.enabled then w.scores.ids.foldlM (fun w id => leakOneWith fire now id w) w else some w

theorem leakAll_eq (env : Environment) (w : World) : leakAll env w = leakAllWith (fire env) env.now w := by
  have hone : (fun w id => leakOne env id w) = fun w id => leakOneWith (fire env) env.now id w :=
    funext fun w => funext fun id => leakOne_eq env id w
  rw [leakAll, leakAllWith, leakEach_eq_foldlM, hone]

end Depth

section Below

variable {α β : Type} {env : Environment} {fire fire' : Firing}

def Below (f f' : α → Option β) : Prop := ∀ a b, f a = some b → f' a = some b

theorem Below.bind {x x' : Option α} {f f' : α → Option β} (hx : ∀ a, x = some a → x' = some a)
    (hf : Below f f') {b : β} (h : x.bind f = some b) : x'.bind f' = some b := by
  obtain ⟨a, ha, hb⟩ := Option.bind_eq_some_iff.1 h
  rw [hx a ha]
  exact hf a b hb

theorem Below.map {x x' : Option α} (f : α → β) (hx : ∀ a, x = some a → x' = some a) {b : β}
    (h : x.map f = some b) : x'.map f = some b := by
  obtain ⟨a, ha, rfl⟩ := Option.map_eq_some_iff.1 h
  rw [hx a ha]
  rfl

theorem Below.foldlM {f f' : α → β → Option α} (h : ∀ b, Below (f · b) (f' · b)) {bs : List β} {a c : α}
    (hrun : bs.foldlM f a = some c) : bs.foldlM f' a = some c := by
  induction bs generalizing a c with
  | nil => exact hrun
  | cons b rest ih =>
    rw [List.foldlM_cons] at hrun ⊢
    exact Below.bind (h b a) (fun _ _ => ih) hrun

theorem performEach_below {perform perform' : Action → Stage → Option (Except ActionError Stage)}
    (h : ∀ a, Below (perform a) (perform' a)) (as : List Action) :
    Below (performEach perform as) (performEach perform' as) := by
  induction as with
  | nil => exact fun _ _ h => h
  | cons a rest ih => exact fun s t hrun => Below.bind (h a s) (fun r => ih (contained s r).2) hrun

variable (h : ∀ as, Below (fire as) (fire' as)) (table : ThresholdTable)

include h

theorem fireSet_below (c : Crossing) : Below (fireSet fire table c) (fireSet fire' table c) := by
  intro s t hrun
  cases hget : table.get? c.index with
  | none =>
    rw [fireSet_of_get?_eq_none hget] at hrun ⊢
    exact hrun
  | some _ =>
    rw [fireSet_eq hget] at hrun ⊢
    exact h _ _ _ hrun

theorem fireCrossing_below (c : Crossing) : Below (fireCrossing fire table c) (fireCrossing fire' table c) := by
  intro s t hrun
  cases c with
  | up i => exact fireSet_below h table (.up i) s t hrun
  | down i => exact Below.map _ (fireSet_below h table (.down i) _) hrun

theorem addPointsWith_below (now : Time) (delta : Float) :
    Below (addPointsWith fire now delta) (addPointsWith fire' now delta) := by
  intro s r hrun
  cases henabled : s.world.scores.enabled with
  | false =>
    rw [addPointsWith_of_disabled henabled] at hrun ⊢
    exact hrun
  | true =>
    rw [addPointsWith_eq henabled] at hrun ⊢
    simp only [fireAll_eq_foldlM] at hrun ⊢
    exact Below.map _ (fun _ => Below.foldlM (fireCrossing_below h _)) hrun

theorem leakOneWith_below (now : Time) (id : String) : Below (leakOneWith fire now id) (leakOneWith fire' now id) := by
  intro w w' hrun
  unfold leakOneWith at hrun ⊢
  cases htick : (w.scores.tick id now).2 with
  | none =>
    rw [htick] at hrun
    exact hrun
  | some ticked =>
    rw [htick] at hrun
    simp only [fireSets_eq_foldlM] at hrun ⊢
    exact Below.map _ (fun _ => Below.foldlM (fireSet_below h _)) hrun

theorem leakAllWith_below (now : Time) : Below (leakAllWith fire now) (leakAllWith fire' now) := by
  intro w w' hrun
  unfold leakAllWith at hrun ⊢
  cases henabled : w.scores.enabled with
  | false =>
    rw [henabled] at hrun
    exact hrun
  | true =>
    rw [henabled] at hrun
    exact Below.foldlM (leakOneWith_below h now) hrun

omit h in
theorem stepAdding_below {add add' : Float → Stage → Option (Float × Stage)}
    (h : ∀ delta, Below (add delta) (add' delta)) (a : Action) :
    Below (stepAdding env add a) (stepAdding env add' a) := by
  intro s r hrun
  cases a with
  | points amount =>
    simp only [stepAdding] at hrun ⊢
    cases henabled : s.world.scores.enabled with
    | false =>
      rw [henabled] at hrun
      exact hrun
    | true =>
      rw [henabled] at hrun
      exact Below.map _ (h amount s) hrun
  | _ => exact hrun

omit h in
theorem fireNested_below {depth : Nat} {add : Float → Stage → Option (Float × Stage)}
    (h : ∀ delta, Below (addNested env depth delta) (add delta)) (as : List Action) :
    Below (fireNested env depth as) (performEach (stepAdding env add) as) :=
  performEach_below (stepAdding_below h) as

omit h in
theorem addNested_succ (env : Environment) (depth : Nat) (delta : Float) :
    Below (addNested env depth delta) (addNested env (depth + 1) delta) := by
  induction depth generalizing delta with
  | zero => exact fun _ _ h => by cases h
  | succ depth ih => exact addPointsWith_below (fireNested_below ih) env.now delta

omit h in
theorem addNested_mono {depth depth' : Nat} (hle : depth ≤ depth') (delta : Float) :
    Below (addNested env depth delta) (addNested env depth' delta) := by
  induction depth', hle using Nat.le_induction with
  | base => exact fun _ _ h => h
  | succ n _ ih => exact fun s r h => addNested_succ env n delta s r (ih s r h)

omit h in
theorem stepAdding_addNested_below (env : Environment) (n : Nat) (a : Action) :
    Below (stepAdding env (addNested env n) a) (performWithin env n a) := by
  induction n generalizing a with
  | zero =>
    rw [performWithin, step_eq_stepAdding]
    exact stepAdding_below (fun _ _ _ h => by cases h) a
  | succ n ih =>
    rw [performWithin, step_eq_stepAdding]
    exact stepAdding_below (addPointsWith_below (performEach_below ih) env.now) a

omit h in
theorem fireNested_below_fire {depth : Nat} (hdepth : depth ≤ env.nesting) (as : List Action) :
    Below (fireNested env depth as) (Moderation.fire env as) := fun s t h =>
  performEach_below (stepAdding_addNested_below env env.nesting) as s t
    (fireNested_below (addNested_mono hdepth) as s t h)

end Below

section Signs

def Action.Heads (d : Direction) : Action → Prop
  | .points amount => d.Admits amount
  | _ => True

instance (a : Action) (d : Direction) : Decidable (a.Heads d) :=
  match a with
  | .points amount => inferInstanceAs (Decidable (d.Admits amount))
  | .replace _ | .restate _ | .changeCase _ | .deny | .abort | .log | .console _ | .broadcast _ | .notify _ _
  | .penalize _ _ | .command _ | .host _ => inferInstanceAs (Decidable True)

def Disciplined (table : ThresholdTable) : Prop :=
  ∀ t ∈ table.sorted, (∀ a ∈ t.ascending, a.Heads .ascending) ∧ ∀ a ∈ t.descending, a.Heads .descending

instance (table : ThresholdTable) : Decidable (Disciplined table) :=
  inferInstanceAs (Decidable (∀ t ∈ table.sorted,
    (∀ a ∈ t.ascending, a.Heads .ascending) ∧ ∀ a ∈ t.descending, a.Heads .descending))

theorem Disciplined.of_get? {table : ThresholdTable} (h : Disciplined table) {i : Nat}
    {t : Threshold Float Action} (hi : table.get? i = some t) : ∀ d, ∀ a ∈ t.actions d, a.Heads d
  | .ascending => (h t (List.mem_of_getElem? hi)).1
  | .descending => (h t (List.mem_of_getElem? hi)).2

end Signs

section Ends

/-- From all that has the property the run comes to an end, at something that has the property. -/
def Ends {σ : Type} (I : σ → Prop) (run : σ → Option σ) : Prop := ∀ s, I s → ∃ t, run s = some t ∧ I t

theorem ends_foldlM {σ α : Type} {I : σ → Prop} {run : σ → α → Option σ} (as : List α)
    (h : ∀ a ∈ as, Ends I (run · a)) : Ends I (as.foldlM run) := by
  induction as with
  | nil => exact fun s hs => ⟨s, rfl, hs⟩
  | cons a rest ih =>
    intro s hs
    obtain ⟨t, hfirst, ht⟩ := h a List.mem_cons_self s hs
    obtain ⟨u, hrest, hu⟩ := ih (fun b hb => h b (List.mem_cons_of_mem a hb)) t ht
    exact ⟨u, by simp [List.foldlM_cons, hfirst, hrest], hu⟩

theorem ends_performEach {I : Stage → Prop} {perform : Action → Stage → Option (Except ActionError Stage)}
    {as : List Action} (h : ∀ a ∈ as, Ends I fun s => (perform a s).map fun r => (contained s r).2) :
    Ends I (performEach perform as) := by
  induction as with
  | nil => exact fun s hs => ⟨s, rfl, hs⟩
  | cons a rest ih =>
    intro s hs
    obtain ⟨t, hfirst, ht⟩ := h a List.mem_cons_self s hs
    obtain ⟨r, hperform, rfl⟩ := Option.map_eq_some_iff.1 hfirst
    obtain ⟨u, hrest, hu⟩ := ih (fun b hb => h b (List.mem_cons_of_mem a hb)) _ ht
    exact ⟨u, by simp [performEach, hperform, hrest], hu⟩

structure Stage.Poised (table : ThresholdTable) (id : String) (now : Time) (s : Stage) : Prop where
  author : s.context.author.id = id
  table : s.world.scores.table = table
  kept : s.world.scores.WellKept
  still : s.world.scores.StandsStill id now

structure Stage.Left (table : ThresholdTable) (id : String) (now : Time) (d : Direction) (k : Nat) (s : Stage) :
    Prop extends s.Poised table id now where
  ahead : s.world.scores.ahead id d ≤ k

variable {env : Environment} {table : ThresholdTable} {id : String} {d : Direction} {k : Nat} {s t : Stage}

theorem Stage.Left.of_scores (hs : s.Left table id env.now d k) (hauthor : t.context.author.id = s.context.author.id)
    (hscores : t.world.scores = s.world.scores) : t.Left table id env.now d k where
  author := hauthor.trans hs.author
  table := hscores ▸ hs.table
  kept := hscores ▸ hs.kept
  still := hscores ▸ hs.still
  ahead := hscores ▸ hs.ahead

theorem Stage.Poised.left (hs : s.Poised table id env.now) (d : Direction) :
    s.Left table id env.now d table.size where
  toPoised := hs
  ahead := hs.table ▸ s.world.scores.ahead_le_size id d

theorem Stage.poised_add (hkept : s.world.scores.WellKept) (delta : Float) (now : Time) :
    (s.add delta now).Poised s.world.scores.table s.context.author.id now where
  author := rfl
  table := rfl
  kept := hkept.add s.context.author delta now
  still := s.world.scores.standsStill_add s.context.author delta now

theorem stepAdding_of_not_addsPoints {add : Float → Stage → Option (Float × Stage)} {a : Action}
    (ha : a.addsPoints = false) : stepAdding env add a = step env (fun _ _ => none) a := by
  cases a with
  | points amount => cases ha
  | _ => rfl

theorem ends_stepAdding {add : Float → Stage → Option (Float × Stage)} {a : Action}
    (hadd : ∀ delta, d.Admits delta → Ends (Stage.Left table id env.now d k) fun s => (add delta s).map (·.2))
    (ha : a.Heads d) (hkeeps : a.KeepsAuthor) :
    Ends (Stage.Left table id env.now d k) fun s => (stepAdding env add a s).map fun r => (contained s r).2 := by
  intro s hs
  cases hpoints : a.addsPoints with
  | false =>
    obtain ⟨r, hr, hadv⟩ := step_of_not_addsPoints env (fun _ _ => none) hpoints hkeeps s
    refine ⟨(contained s r).2, ?_, hs.of_scores hadv.author (scores_step hpoints hr)⟩
    simp only [stepAdding_of_not_addsPoints hpoints, hr, Option.map_some]
  | true =>
    cases a with
    | points amount =>
      cases henabled : s.world.scores.enabled with
      | false => exact ⟨s, by simp [stepAdding, henabled, contained], hs⟩
      | true =>
        obtain ⟨t, ht, hleft⟩ := hadd amount ha s hs
        obtain ⟨r, hr, rfl⟩ := Option.map_eq_some_iff.1 ht
        refine ⟨_, ?_, hleft.of_scores (t := r.2.withContext
          (r.2.context.note (pointsNote amount r.1 r.2.context.author.name))) rfl rfl⟩
        simp [stepAdding, henabled, hr, contained]
    | _ => cases hpoints

variable {fire : Firing} {c : Crossing}

theorem ends_fireSet (hfire : ∀ t, table.get? c.index = some t →
      Ends (Stage.Left table id env.now d k) (fire (t.actions c.direction))) :
    Ends (Stage.Left table id env.now d k) (fireSet fire table c) := by
  intro s hs
  cases hget : table.get? c.index with
  | none => exact ⟨s, fireSet_of_get?_eq_none hget s, hs⟩
  | some t =>
    rw [fireSet_eq hget]
    exact hfire t hget _ (hs.of_scores (t := s.emit _) rfl rfl)

theorem ends_fireCrossing (h : Ends (Stage.Left table id env.now d k) (fireSet fire table c)) :
    Ends (Stage.Left table id env.now d k) (fireCrossing fire table c) := by
  intro s hs
  cases c with
  | up i => exact h s hs
  | down i =>
    obtain ⟨t, ht, hleft⟩ := h _ (hs.of_scores (t := s.withContext (.blank s.context.author)) rfl rfl)
    refine ⟨t.withContext s.context, by simp [fireCrossing, ht], hleft.of_scores ?_ rfl⟩
    exact hs.author.trans hleft.author.symm

theorem ends_addPointsWith {delta : Float} (hdelta : d.Admits delta)
    (hfire : ∀ l, l + 1 = k → ∀ c, c.direction = d → Ends (Stage.Left table id env.now d l) (fireSet fire table c)) :
    Ends (Stage.Left table id env.now d k) fun s => (addPointsWith fire env.now delta s).map (·.2) := by
  intro s hs
  obtain ⟨⟨rfl, rfl, hkept, hstill⟩, hahead⟩ := hs
  cases henabled : s.world.scores.enabled with
  | false => exact ⟨s, by simp [addPointsWith_of_disabled henabled], ⟨rfl, rfl, hkept, hstill⟩, hahead⟩
  | true =>
    obtain ⟨hcourse, hcount⟩ := hkept.add_course hstill hdelta
    have hposed := Stage.poised_add hkept delta env.now
    simp only [addPointsWith_eq henabled, fireAll_eq_foldlM, Option.map_map]
    cases hcrossed : (s.world.scores.add s.context.author delta env.now).2.1 with
    | nil =>
      rw [hcrossed] at hcount
      exact ⟨s.add delta env.now, rfl, hposed, (Nat.le_of_eq hcount).trans hahead⟩
    | cons c rest =>
      -- Something was crossed, so one threshold less is left to the calls of its sets.
      rw [hcrossed, List.length_cons] at hcount
      obtain ⟨l, rfl⟩ : ∃ l, k = l + 1 := Nat.exists_eq_succ_of_ne_zero (by omega)
      have hleft : (s.add delta env.now).Left s.world.scores.table s.context.author.id env.now d l :=
        ⟨hposed, by change (s.world.scores.add s.context.author delta env.now).1.ahead _ d ≤ l; omega⟩
      have hsets : ∀ c' ∈ c :: rest, Ends (Stage.Left s.world.scores.table s.context.author.id env.now d l)
          fun s' => fireCrossing fire s.world.scores.table c' s' := fun c' hc' =>
        ends_fireCrossing (hfire l rfl c' (hcourse c' (hcrossed ▸ hc')))
      obtain ⟨t, ht, hend⟩ := ends_foldlM _ hsets _ hleft
      exact ⟨t, Option.map_eq_some_iff.2 ⟨t, ht, rfl⟩, hend.toPoised, hend.ahead.trans (Nat.le_succ l)⟩

theorem ends_fireNested (hsigned : Disciplined table) (hkeeps : AllActions table Action.KeepsAuthor)
    (hadd : ∀ delta, d.Admits delta →
      Ends (Stage.Left table id env.now d k) fun s => (addNested env (k + 1) delta s).map (·.2))
    (hc : c.direction = d) :
    Ends (Stage.Left table id env.now d k) (fireSet (fireNested env (k + 1)) table c) := by
  refine ends_fireSet fun t hget => ends_performEach fun a ha => ?_
  exact ends_stepAdding hadd (hc ▸ hsigned.of_get? hget c.direction a ha) (hkeeps.of_get? hget c.direction a ha)

/-- Calls that lead in one direction nest as deep as there are thresholds left on the way, and once more. -/
theorem ends_addNested (hsigned : Disciplined table) (hkeeps : AllActions table Action.KeepsAuthor) (k : Nat) :
    ∀ delta, d.Admits delta →
      Ends (Stage.Left table id env.now d k) fun s => (addNested env (k + 1) delta s).map (·.2) := by
  induction k with
  | zero => exact fun delta hdelta => ends_addPointsWith hdelta fun l hl => by cases hl
  | succ k ih =>
    refine fun delta hdelta => ends_addPointsWith hdelta fun l hl c hc => ?_
    obtain rfl := Nat.succ.inj hl
    exact ends_fireNested hsigned hkeeps ih hc

theorem Ends.poised {run : Stage → Option Stage} (h : Ends (Stage.Left table id env.now d table.size) run) :
    Ends (Stage.Poised table id env.now) run := by
  intro s hs
  obtain ⟨t, ht, hleft⟩ := h s (hs.left d)
  exact ⟨t, ht, hleft.toPoised⟩

variable (env)

theorem ends_set (hsigned : Disciplined table) (hkeeps : AllActions table Action.KeepsAuthor) (c : Crossing) :
    Ends (Stage.Left table id env.now c.direction table.size)
      (fireSet (fireNested env (table.size + 1)) table c) :=
  ends_fireNested hsigned hkeeps (ends_addNested hsigned hkeeps table.size) rfl

theorem exists_addNested {w : World} (hkept : w.scores.WellKept) (hsigned : Disciplined w.scores.table)
    (hkeeps : AllActions w.scores.table Action.KeepsAuthor) (message : Context) (delta : Float) :
    ∃ r, addNested env (w.scores.table.size + 2) delta ⟨message, w⟩ = some r := by
  rw [addNested]
  cases henabled : w.scores.enabled with
  | false => exact ⟨_, addPointsWith_of_disabled (s := ⟨message, w⟩) henabled _ _ _⟩
  | true =>
    have hposed := Stage.poised_add (s := ⟨message, w⟩) hkept delta env.now
    obtain ⟨t, ht, -⟩ := ends_foldlM (w.scores.add message.author delta env.now).2.1
      (fun c _ => (ends_fireCrossing (ends_set env hsigned hkeeps c)).poised) _ hposed
    rw [addPointsWith_eq (s := ⟨message, w⟩) henabled]
    simp only [fireAll_eq_foldlM]
    exact ⟨(_, t), Option.map_eq_some_iff.2 ⟨t, ht, rfl⟩⟩

structure World.Tabled (table : ThresholdTable) (w : World) : Prop where
  table : w.scores.table = table
  kept : w.scores.WellKept

theorem ends_leakOneWith (hsigned : Disciplined table) (hkeeps : AllActions table Action.KeepsAuthor) (id : String) :
    Ends (World.Tabled table) (leakOneWith (fireNested env (table.size + 1)) env.now id) := by
  intro w hw
  obtain ⟨rfl, hkept⟩ := hw
  have htable : (w.tick id env.now).scores.table = w.scores.table :=
    congrArg (·.installed.table) (w.settings_tick id env.now)
  have hticked := hkept.tick id env.now
  unfold leakOneWith
  cases htick : (w.scores.tick id env.now).2 with
  | none => exact ⟨_, rfl, htable, hticked⟩
  | some ticked =>
    obtain ⟨author, crossed⟩ := ticked
    have hposed : Stage.Poised w.scores.table id env.now ⟨.blank author, w.tick id env.now⟩ :=
      ⟨hkept.author_tick htick, htable, hticked, w.scores.standsStill_tick id env.now⟩
    obtain ⟨t, ht, hend⟩ := ends_foldlM crossed (fun c _ => (ends_set env hsigned hkeeps c).poised) _ hposed
    simp only [fireSets_eq_foldlM]
    exact ⟨t.world, Option.map_eq_some_iff.2 ⟨t, ht, rfl⟩, hend.table, hend.kept⟩

theorem exists_leakAllWith {w : World} (hkept : w.scores.WellKept) (hsigned : Disciplined w.scores.table)
    (hkeeps : AllActions w.scores.table Action.KeepsAuthor) :
    ∃ w', leakAllWith (fireNested env (w.scores.table.size + 1)) env.now w = some w' := by
  unfold leakAllWith
  split
  · obtain ⟨w', hw', -⟩ := ends_foldlM w.scores.ids (fun id _ => ends_leakOneWith env hsigned hkeeps id) w ⟨rfl, hkept⟩
    exact ⟨w', hw'⟩
  · exact ⟨w, rfl⟩

end Ends

/-- If no set for the way up takes points and none for the way down gives any, then adding points and leaking come
to an end, whatever else the sets do to the messages at hand, and calls that add points nest at most two deeper than
there are thresholds. -/
theorem disciplined_sets_end (env : Environment) {w : World} (hkept : w.scores.WellKept)
    (hsigned : Disciplined w.scores.table) (hkeeps : AllActions w.scores.table Action.KeepsAuthor) :
    let n := w.scores.table.size
    (∀ message delta, ∃ r, addNested env (n + 2) delta ⟨message, w⟩ = some r ∧
      (n < env.nesting → addPoints env delta ⟨message, w⟩ = some r)) ∧
    ∃ w', leakAllWith (fireNested env (n + 1)) env.now w = some w' ∧ (n < env.nesting → leakAll env w = some w') := by
  intro n
  constructor
  · intro message delta
    obtain ⟨r, hr⟩ := exists_addNested env hkept hsigned hkeeps message delta
    exact ⟨r, hr, fun hn => addPointsWith_below (fireNested_below_fire hn) env.now delta _ r hr⟩
  · obtain ⟨w', hw'⟩ := exists_leakAllWith env hkept hsigned hkeeps
    refine ⟨w', hw', fun hn => ?_⟩
    rw [leakAll_eq]
    exact leakAllWith_below (fireNested_below_fire hn) env.now w w' hw'

def landslide : List (Threshold Float Action) := [⟨"five", 5, [.points 2], [.points (-10)]⟩]

theorem ofList_landslide : Table.ofList landslide = .ok ⟨landslide⟩ :=
  Table.ofList_of_ascending (by decide +kernel) (by decide +kernel) (by decide +kernel)

/-- Three points leak and three are given: the only threshold is passed on the way down and met again. The set for
the way down takes ten points and so sets itself off once more; with two calls open at once this is not done. -/
theorem disciplined_sets_end_landslide :
    let env : Environment := ⟨.none, .standard, .log, 90000, 2⟩
    let message := Context.blank ⟨"steve", "steve", fun _ => false, fun _ _ => .ok ()⟩
    ∃ w, runRequests [(plainEnvironment 0, .enable .standard landslide),
        (plainEnvironment 0, .call (pointsFor "steve" 5 0).2)] .initial = some w ∧
      (∃ r, addPoints env 3 ⟨message, w⟩ = some r) ∧ (∃ w', leakAll env w = some w') ∧
      addNested env 2 3 ⟨message, w⟩ = none := by
  intro env message
  have htells : (runRequests [(plainEnvironment 0, .enable .standard landslide),
      (plainEnvironment 0, .call (pointsFor "steve" 5 0).2)] .initial).any (fun w =>
        decide (Disciplined w.scores.table) && w.scores.table.sorted.all (fun t =>
          (t.ascending ++ t.descending).all fun a => !a.isHost) && decide (w.scores.table.size < env.nesting) &&
        (addNested env 2 3 ⟨message, w⟩).isNone) = true := by
    have henable := World.enable_eq .standard ofList_landslide (by decide)
    simp only [runRequests, ScoreRequest.perform, henable]
    decide +kernel
  obtain ⟨w, hrun, hw⟩ := (Option.any_eq_true _ _).1 htells
  simp only [Bool.and_eq_true, decide_eq_true_eq, Option.isNone_iff_eq_none] at hw
  obtain ⟨⟨⟨hsigned, hhosts⟩, hsize⟩, hdeep⟩ := hw
  obtain ⟨hadds, w', -, hleak⟩ :=
    disciplined_sets_end env (wellKept_of_runRequests hrun) hsigned (.of_no_host hhosts)
  obtain ⟨r, -, hadd⟩ := hadds message 3
  exact ⟨w, hrun, ⟨r, hadd hsize⟩, ⟨w', hleak hsize⟩, hdeep⟩

end Moderation
