import Moderation.Proofs.Evaluation.Conservation
import Moderation.Proofs.Evaluation.Run

/-!
Chronicles of runs. A call on the scores is told as it goes: what each update or tick of a record crosses, which
set is begun, which action of a set is performed. The recorded run is the run itself with its chronicle beside it.
-/

namespace Moderation

open Points

inductive Incident where
  | crossed (id : String) (cs : List Crossing)
  | began (id : String) (c : Crossing)
  | performed (a : Action)

abbrev Chronicle := List Incident

def crossedFor (id : String) : Chronicle → List Crossing
  | [] => []
  | .crossed id' cs :: h => if id' = id then cs ++ crossedFor id h else crossedFor id h
  | _ :: h => crossedFor id h

def begunFor (id : String) : Chronicle → List Crossing
  | [] => []
  | .began id' c :: h => if id' = id then c :: begunFor id h else begunFor id h
  | _ :: h => begunFor id h

theorem crossedFor_append (id : String) (h h' : Chronicle) :
    crossedFor id (h ++ h') = crossedFor id h ++ crossedFor id h' := by
  induction h with
  | nil => rfl
  | cons i h ih =>
    cases i with
    | crossed id' cs => by_cases hid : id' = id <;> simp [crossedFor, hid, ih]
    | _ => exact ih

theorem begunFor_append (id : String) (h h' : Chronicle) :
    begunFor id (h ++ h') = begunFor id h ++ begunFor id h' := by
  induction h with
  | nil => rfl
  | cons i h ih =>
    cases i with
    | began id' c => by_cases hid : id' = id <;> simp [begunFor, hid, ih]
    | _ => exact ih

namespace Recorded

section Run

def each {α σ : Type} (f : α → σ → Option (σ × Chronicle)) : List α → σ → Option (σ × Chronicle)
  | [], s => some (s, [])
  | a :: rest, s => (f a s).bind fun (t, h) => (each f rest t).map fun (u, h') => (u, h ++ h')

/-- What holds of each step adds up over all of them, as long as every step leads to where the next one may begin. -/
theorem each_induction {α σ : Type} {f : α → σ → Option (σ × Chronicle)} {I : σ → Prop}
    {Q : α → σ → Chronicle → σ → Prop} {R : List α → σ → Chronicle → σ → Prop}
    (hnext : ∀ {a s h t}, Q a s h t → I t) (hnil : ∀ {s}, I s → R [] s [] s)
    (hcons : ∀ {a as s h t h' u}, Q a s h t → R as t h' u → R (a :: as) s (h ++ h') u) {as : List α}
    (hf : ∀ a ∈ as, ∀ s t h, I s → f a s = some (t, h) → Q a s h t) {s u : σ} {h : Chronicle} (hs : I s)
    (hrun : each f as s = some (u, h)) : R as s h u := by
  induction as generalizing s h with
  | nil =>
    obtain ⟨rfl, rfl⟩ := Prod.mk.inj (Option.some.inj hrun)
    exact hnil hs
  | cons a rest ih =>
    obtain ⟨⟨t, h₁⟩, hfirst, hmapped⟩ := Option.bind_eq_some_iff.1 hrun
    obtain ⟨⟨v, h₂⟩, hrest, heq⟩ := Option.map_eq_some_iff.1 hmapped
    obtain ⟨rfl, rfl⟩ := Prod.mk.inj heq
    have hstep := hf a List.mem_cons_self s t h₁ hs hfirst
    exact hcons hstep (ih (fun b hb => hf b (List.mem_cons_of_mem a hb)) (hnext hstep) hrest)

variable (fire : List Action → Stage → Option (Stage × Chronicle)) (table : ThresholdTable)

def fireSet (c : Crossing) (s : Stage) : Option (Stage × Chronicle) :=
  match table.get? c.index with
  | none => some (s, [])
  | some t =>
    (fire (t.actions c.direction) (s.emit (.log (crossedLine s.context.author c.index t c.direction)))).map
      fun (s', h) => (s', .began s.context.author.id c :: h)

def fireCrossing (c : Crossing) (s : Stage) : Option (Stage × Chronicle) :=
  match c with
  | .up _ => fireSet fire table c s
  | .down _ =>
    (fireSet fire table c (s.withContext (.blank s.context.author))).map fun (s', h) =>
      (s'.withContext s.context, h)

def addPointsWith (now : Time) (delta : Float) (s : Stage) : Option ((Float × Stage) × Chronicle) :=
  if s.world.scores.enabled then
    let moved := s.world.scores.add s.context.author delta now
    (each (fireCrossing fire s.world.scores.table) moved.2.1 ⟨s.context, { s.world with scores := moved.1 }⟩).map
      fun (s', h) => ((moved.2.2, s'), .crossed s.context.author.id moved.2.1 :: h)
  else some ((0, s), [])

def step (env : Environment) (a : Action) (s : Stage) : Option (Except ActionError Stage × Chronicle) :=
  match a with
  | .points amount =>
    if s.world.scores.enabled then
      (addPointsWith fire env.now amount s).map fun ((total, s), h) =>
        (.ok (s.withContext (s.context.note (pointsNote amount total s.context.author.name))), h)
    else some (.ok s, [])
  | a => (Moderation.step env (fun _ _ => none) a s).map fun r => (r, [])

def performEach (perform : Action → Stage → Option (Except ActionError Stage × Chronicle)) :
    List Action → Stage → Option (Stage × Chronicle) :=
  each fun a s => (perform a s).map fun (r, h) => ((contained s r).2, .performed a :: h)

def performWithin (env : Environment) : Nat → Action → Stage → Option (Except ActionError Stage × Chronicle)
  | 0 => step (fun _ _ => none) env
  | nesting + 1 => step (performEach (performWithin env nesting)) env

end Run

variable (env : Environment)

def fire : List Action → Stage → Option (Stage × Chronicle) := performEach (performWithin env env.nesting)

def leakOne (id : String) (w : World) : Option (World × Chronicle) :=
  match (w.scores.tick id env.now).2 with
  | none => some (w.tick id env.now, [])
  | some (author, crossed) =>
    (each (fireSet (fire env) w.scores.table) crossed ⟨.blank author, w.tick id env.now⟩).map
      fun (s, h) => (s.world, .crossed author.id crossed :: h)

def call (w : World) : ScoreCall → Option (World × Chronicle)
  | .add message delta =>
    (addPointsWith (fire env) env.now delta ⟨message, w⟩).map fun (r, h) => (r.2.world, h)
  | .tick order => if w.scores.enabled then each (leakOne env) order w else some (w, [])

def runCalls (calls : List (Environment × ScoreCall)) (w : World) : Option (World × Chronicle) :=
  each (fun c w => call c.1 w c.2) calls w

end Recorded

section Forgetting

theorem fst_each {α σ : Type} {f : α → σ → Option (σ × Chronicle)} {g : σ → α → Option σ}
    (h : ∀ a s, (f a s).map Prod.fst = g s a) (as : List α) (s : σ) :
    (Recorded.each f as s).map Prod.fst = as.foldlM g s := by
  induction as generalizing s with
  | nil => rfl
  | cons a rest ih =>
    rw [List.foldlM_cons, ← h, Recorded.each]
    cases hf : f a s with
    | none => rfl
    | some x => simpa [Option.map_map, Function.comp_def] using ih x.1

section Firing

variable {fire : Firing} {fire' : List Action → Stage → Option (Stage × Chronicle)}
  (hfire : ∀ as s, (fire' as s).map Prod.fst = fire as s) (table : ThresholdTable)

include hfire

theorem fst_fireSet (c : Crossing) (s : Stage) :
    (Recorded.fireSet fire' table c s).map Prod.fst = fireSet fire table c s := by
  unfold Recorded.fireSet
  cases hget : table.get? c.index with
  | none => exact (fireSet_of_get?_eq_none hget s).symm
  | some t =>
    rw [fireSet_eq hget, ← hfire]
    simp [Option.map_map, Function.comp_def]

theorem fst_fireCrossing (c : Crossing) (s : Stage) :
    (Recorded.fireCrossing fire' table c s).map Prod.fst = fireCrossing fire table c s := by
  cases c with
  | up i => exact fst_fireSet hfire table (.up i) s
  | down i =>
    simp only [Recorded.fireCrossing, fireCrossing, ← fst_fireSet hfire, Option.map_map, Function.comp_def]

theorem fst_addPointsWith (now : Time) (delta : Float) (s : Stage) :
    (Recorded.addPointsWith fire' now delta s).map Prod.fst = addPointsWith fire now delta s := by
  cases henabled : s.world.scores.enabled with
  | false =>
    rw [addPointsWith_of_disabled henabled, Recorded.addPointsWith, henabled]
    rfl
  | true =>
    rw [addPointsWith_eq henabled, Recorded.addPointsWith, if_pos henabled]
    simp only [fireAll_eq_foldlM, ← fst_each (fst_fireCrossing hfire _), Option.map_map, Function.comp_def]

theorem fst_step (env : Environment) (a : Action) (s : Stage) :
    (Recorded.step fire' env a s).map Prod.fst = step env fire a s := by
  cases a with
  | points amount =>
    simp only [Recorded.step, step, ← fst_addPointsWith hfire]
    split
    · simp only [Option.map_map, Function.comp_def]
    · rfl
  | _ =>
    simp only [Recorded.step, Option.map_map, Function.comp_def, Option.map_id']
    rfl

end Firing

theorem fst_performEach {perform : Action → Stage → Option (Except ActionError Stage)}
    {perform' : Action → Stage → Option (Except ActionError Stage × Chronicle)}
    (h : ∀ a s, (perform' a s).map Prod.fst = perform a s) (as : List Action) (s : Stage) :
    (Recorded.performEach perform' as s).map Prod.fst = performEach perform as s := by
  rw [performEach_eq_foldlM]
  refine fst_each (fun a s => ?_) as s
  rw [← h]
  simp only [Option.map_map, Function.comp_def]

theorem fst_performWithin (env : Environment) (n : Nat) (a : Action) (s : Stage) :
    (Recorded.performWithin env n a s).map Prod.fst = performWithin env n a s := by
  induction n generalizing a s with
  | zero => exact fst_step (fun _ _ => rfl) env a s
  | succ n ih => exact fst_step (fst_performEach ih) env a s

theorem fst_fire (env : Environment) (as : List Action) (s : Stage) :
    (Recorded.fire env as s).map Prod.fst = fire env as s :=
  fst_performEach (fst_performWithin env env.nesting) as s

theorem fst_leakOne (env : Environment) (id : String) (w : World) :
    (Recorded.leakOne env id w).map Prod.fst = leakOne env id w := by
  rw [leakOne_eq, Recorded.leakOne]
  cases (w.scores.tick id env.now).2 with
  | none => rfl
  | some ticked =>
    simp only [fireSets_eq_foldlM, ← fst_each (fst_fireSet (fst_fire env) _), Option.map_map, Function.comp_def]

theorem fst_call (env : Environment) (w : World) (c : ScoreCall) :
    (Recorded.call env w c).map Prod.fst = c.perform env w := by
  cases c with
  | add message delta =>
    simp only [Recorded.call, ScoreCall.perform, addPoints, ← fst_addPointsWith (fst_fire env), Option.map_map,
      Function.comp_def]
  | tick order =>
    simp only [Recorded.call, ScoreCall.perform]
    split
    · rw [leakEach_eq_foldlM]
      exact fst_each (fst_leakOne env) order w
    · rfl

theorem fst_runCalls (calls : List (Environment × ScoreCall)) (w : World) :
    (Recorded.runCalls calls w).map Prod.fst = runCalls calls w := by
  rw [runCalls_eq_foldlM]
  exact fst_each (fun c w => fst_call c.1 w c.2) calls w

end Forgetting

end Moderation
