import Moderation.Proofs.Evaluation.Firing

namespace Moderation

open Points

theorem eq_foldlM {α σ : Type} {f : σ → α → Option σ} {run : List α → σ → Option σ} (hnil : ∀ s, run [] s = some s)
    (hcons : ∀ a as s, run (a :: as) s = (f s a).bind (run as)) (as : List α) (s : σ) : run as s = as.foldlM f s := by
  induction as generalizing s with
  | nil => exact hnil s
  | cons a as ih =>
    rw [hcons, List.foldlM_cons]
    exact congrArg _ (funext ih)

theorem fireAll_eq_foldlM (fire : Firing) (table : ThresholdTable) (cs : List Crossing) (s : Stage) :
    fireAll fire table cs s = cs.foldlM (fun s c => fireCrossing fire table c s) s :=
  eq_foldlM (fun _ => rfl) (fun _ _ _ => rfl) cs s

theorem fireSets_eq_foldlM (fire : Firing) (table : ThresholdTable) (cs : List Crossing)
    (s : Stage) : fireSets fire table cs s = cs.foldlM (fun s c => fireSet fire table c s) s :=
  eq_foldlM (fun _ => rfl) (fun _ _ _ => rfl) cs s

theorem performEach_eq_foldlM (perform : Action → Stage → Option (Except ActionError Stage)) (as : List Action)
    (s : Stage) : performEach perform as s =
      as.foldlM (fun s a => (perform a s).map fun r => (contained s r).2) s :=
  eq_foldlM (fun _ => rfl) (fun _ _ _ => (Option.bind_map ..).symm) as s

theorem leakEach_eq_foldlM (env : Environment) (order : List String) (w : World) :
    leakEach env order w = order.foldlM (fun w id => leakOne env id w) w :=
  eq_foldlM (fun _ => rfl) (fun _ _ _ => rfl) order w

theorem performWithin_eq_step (env : Environment) (n : Nat) :
    ∃ fire, performWithin env n = step env fire := by
  cases n with
  | zero => exact ⟨_, rfl⟩
  | succ n => exact ⟨_, rfl⟩

theorem Stage.Advances.of_emit {s s' : Stage} {crossed fired : List Crossing} {c : Crossing}
    {t : Threshold Float Action}
    (h : (s.emit (.log (crossedLine s.context.author c.index t c.direction))).Advances crossed fired s') :
    s.Advances crossed (c :: fired) s' where
  author := h.author
  world := (advances_emit_crossed s.world s.context.author c t).trans h.world

theorem Stage.Advances.of_blank {s s' : Stage} {crossed fired : List Crossing}
    (h : (s.withContext (.blank s.context.author)).Advances crossed fired s') :
    s.Advances crossed fired (s'.withContext s.context) where
  author := rfl
  world := h.world

section Quiet

def Action.Quiet (a : Action) : Prop := a.addsPoints = false ∧ a.KeepsAuthor

theorem performEach_quiet (env : Environment) (n : Nat) {as : List Action}
    (h : ∀ a ∈ as, a.Quiet) (s : Stage) :
    ∃ s', performEach (performWithin env n) as s = some s' ∧ s.Advances [] [] s' := by
  obtain ⟨fire, hfire⟩ := performWithin_eq_step env n
  rw [hfire]
  induction as generalizing s with
  | nil => exact ⟨s, rfl, .refl s⟩
  | cons a as ih =>
    obtain ⟨ha, hk⟩ := h a (by simp)
    obtain ⟨r, hr, hadv⟩ := step_of_not_addsPoints env fire ha hk s
    obtain ⟨s', hs', hadv'⟩ := ih (fun b hb => h b (by simp [hb])) (contained s r).2
    exact ⟨s', by simp [performEach, hr, hs'], hadv.trans hadv'⟩

variable {table : ThresholdTable} {c : Crossing} {cs : List Crossing}

theorem fireSet_quiet (env : Environment) (ht : AllActions table Action.Quiet)
    (hc : c.index < table.size) (s : Stage) :
    ∃ s', fireSet (fire env) table c s = some s' ∧ s.Advances [] [c] s' := by
  obtain ⟨t, htc⟩ := exists_get? hc
  rw [fireSet_eq htc]
  obtain ⟨s', hs', hadv⟩ := performEach_quiet env env.nesting (ht.of_get? htc c.direction) _
  exact ⟨s', hs', hadv.of_emit⟩

theorem fireCrossing_quiet (env : Environment) (ht : AllActions table Action.Quiet)
    (hc : c.index < table.size) (s : Stage) :
    ∃ s', fireCrossing (fire env) table c s = some s' ∧ s.Advances [] [c] s' := by
  cases c with
  | up i => exact fireSet_quiet env ht hc s
  | down i =>
    obtain ⟨s', hs', hadv⟩ := fireSet_quiet env ht hc (s.withContext (.blank s.context.author))
    exact ⟨_, by simp [fireCrossing, hs'], hadv.of_blank⟩

theorem foldlM_quiet {f : Stage → Crossing → Option Stage}
    (hf : ∀ c ∈ cs, ∀ s, ∃ s', f s c = some s' ∧ s.Advances [] [c] s') (s : Stage) :
    ∃ s', cs.foldlM f s = some s' ∧ s.Advances [] cs s' := by
  induction cs generalizing s with
  | nil => exact ⟨s, rfl, .refl s⟩
  | cons c cs ih =>
    obtain ⟨t, ht, hst⟩ := hf c (by simp) s
    obtain ⟨u, hu, htu⟩ := ih (fun d hd => hf d (by simp [hd])) t
    exact ⟨u, by simp [List.foldlM_cons, ht, hu], hst.trans htu⟩

theorem addPoints_quiet (env : Environment) (delta : Float) {s : Stage}
    (hs : s.world.scores.Consistent) (ht : AllActions s.world.scores.table Action.Quiet) :
    ∃ r cs, addPoints env delta s = some r ∧ s.Advances cs cs r.2 := by
  cases he : s.world.scores.enabled with
  | false => exact ⟨(0, s), [], addPointsWith_of_disabled he _ _ _, .refl s⟩
  | true =>
    have hadd := add_advances hs delta env.now
    have hindex : ∀ c ∈ (s.world.scores.add s.context.author delta env.now).2.1,
        c.index < s.world.scores.table.size := fun c hc => Scoreboard.add_index_lt hs hc
    rw [addPoints, addPointsWith_eq he]
    generalize s.world.scores.add s.context.author delta env.now = moved at hadd hindex
    obtain ⟨s', hs', hadv⟩ := foldlM_quiet (fun c hc => fireCrossing_quiet env ht (hindex c hc))
      ⟨s.context, { s.world with scores := moved.1 }⟩
    rw [← fireAll_eq_foldlM] at hs'
    refine ⟨(moved.2.2, s'), moved.2.1, by simp only [hs', Option.map_some], ?_⟩
    simpa using hadd.trans hadv

theorem leakOne_quiet (env : Environment) (id : String) {w : World} (hw : w.scores.Consistent)
    (ht : AllActions w.scores.table Action.Quiet) :
    ∃ w' cs, leakOne env id w = some w' ∧ w.Advances id cs cs w' := by
  unfold leakOne
  dsimp only
  split
  case h_1 scores heq =>
    obtain rfl := Scoreboard.tick_none heq
    exact ⟨_, [], rfl, .refl w id⟩
  case h_2 scores a crossed heq =>
    obtain ⟨rfl, hmoves, hcons, hindex⟩ := Scoreboard.tick_some hw heq
    obtain ⟨s', hs', hadv⟩ := foldlM_quiet (fun c hc => fireSet_quiet env ht (hindex c hc))
      ⟨.blank a, { w with scores := scores }⟩
    rw [← fireSets_eq_foldlM] at hs'
    have hmove : w.Advances a.id crossed [] { w with scores := scores } :=
      ⟨hmoves, fun _ => hcons, (List.append_nil _).symm, fun _ _ => rfl⟩
    refine ⟨s'.world, crossed, ?_, ?_⟩
    · rw [show w.scores.settings.installed.table = w.scores.table from rfl, hs']
      rfl
    · simpa using hmove.trans hadv.world

end Quiet

end Moderation
