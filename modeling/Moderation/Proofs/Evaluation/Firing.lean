import Moderation.Evaluation.Leak
import Moderation.Proofs.Action.Vocabulary

/-!
Which sets of actions a run performs. The log names every set just before its actions are performed, so
the log of one author is the order in which that author's sets are run.
-/

namespace Moderation

open Points

def Effect.firedFor? (id : String) : Effect → Option Crossing
  | .log (.crossed id' _ place _ _ direction) =>
    if id' = id then
      some (match direction with
        | .ascending => .up place
        | .descending => .down place)
    else none
  | _ => none

def World.firedFor (w : World) (id : String) : List Crossing := w.effects.filterMap (·.firedFor? id)

@[simp] theorem World.firedFor_emit (w : World) (e : Effect) (id : String) :
    (w.emit e).firedFor id = w.firedFor id ++ (e.firedFor? id).toList := by
  cases h : e.firedFor? id <;> simp [World.firedFor, World.emit, h]

@[simp] theorem Sink.firedFor?_deliver (sink : Sink) (a : Announcement) (id : String) :
    (sink.deliver a).firedFor? id = none := by
  cases sink <;> rfl

@[simp] theorem Stage.context_withContext (s : Stage) (c : Context) :
    (s.withContext c).context = c := rfl

@[simp] theorem Stage.world_emit (s : Stage) (e : Effect) : (s.emit e).world = s.world.emit e := rfl

namespace Action

def addsPoints : Action → Bool
  | .points _ => true
  | _ => false

/-- Actions of the host edit the message at hand; they do not hand it to another author. -/
def KeepsAuthor : Action → Prop
  | .host run => ∀ c c', run c = .ok c' → c'.author.id = c.author.id
  | _ => True

end Action

def AllActions (t : ThresholdTable) (P : Action → Prop) : Prop :=
  ∀ h ∈ t.sorted, (∀ a ∈ h.ascending, P a) ∧ ∀ a ∈ h.descending, P a

theorem AllActions.mono {t : ThresholdTable} {P Q : Action → Prop} (ht : AllActions t P)
    (hPQ : ∀ a, P a → Q a) : AllActions t Q := fun h hh =>
  ⟨fun a ha => hPQ a ((ht h hh).1 a ha), fun a ha => hPQ a ((ht h hh).2 a ha)⟩

theorem AllActions.of_no_host {t : ThresholdTable}
    (h : (t.sorted.all fun t => (t.ascending ++ t.descending).all fun a => !a.isHost) = true) :
    AllActions t Action.KeepsAuthor := by
  have hkeeps : ∀ a : Action, (!a.isHost) = true → a.KeepsAuthor := by
    intro a ha
    cases a with
    | host run => cases ha
    | _ => trivial
  simp only [List.all_append, List.all_eq_true, Bool.and_eq_true] at h
  exact fun t ht => ⟨fun a ha => hkeeps a ((h t ht).1 a ha), fun a ha => hkeeps a ((h t ht).2 a ha)⟩

def Points.Threshold.actions {α β : Type} (h : Threshold α β) : Direction → List β
  | .ascending => h.ascending
  | .descending => h.descending

theorem AllActions.of_get? {t : ThresholdTable} {P : Action → Prop} (ht : AllActions t P) {i : Nat}
    {h : Threshold Float Action} (hi : t.get? i = some h) (d : Direction) :
    ∀ a ∈ h.actions d, P a := by
  have hm := ht h (List.mem_of_getElem? hi)
  cases d
  · exact hm.1
  · exact hm.2

structure World.Advances (w : World) (id : String) (crossed fired : List Crossing) (w' : World) :
    Prop where
  moves : w.scores.Moves id crossed w'.scores
  consistent : w.scores.Consistent → w'.scores.Consistent
  fired : w'.firedFor id = w.firedFor id ++ fired
  others : ∀ id', id' ≠ id → w'.firedFor id' = w.firedFor id'

namespace World.Advances

theorem refl (w : World) (id : String) : w.Advances id [] [] w :=
  ⟨.refl _ _, fun h => h, by simp, fun _ _ => rfl⟩

theorem trans {u v w : World} {id : String} {crossed fired crossed' fired' : List Crossing}
    (h : u.Advances id crossed fired v) (h' : v.Advances id crossed' fired' w) :
    u.Advances id (crossed ++ crossed') (fired ++ fired') w where
  moves := h.moves.trans h'.moves
  consistent hu := h'.consistent (h.consistent hu)
  fired := by rw [h'.fired, h.fired, List.append_assoc]
  others id' hid := (h'.others id' hid).trans (h.others id' hid)

theorem table {w w' : World} {id : String} {crossed fired : List Crossing}
    (h : w.Advances id crossed fired w') : w'.scores.table = w.scores.table :=
  congrArg (·.installed.table) h.moves.settings

end World.Advances

theorem advances_of_same {w w' : World} (id : String) (hs : w'.scores = w.scores)
    (hf : ∀ id', w'.firedFor id' = w.firedFor id') : w.Advances id [] [] w' where
  moves := hs ▸ .refl _ _
  consistent h := hs ▸ h
  fired := by rw [hf, List.append_nil]
  others id' _ := hf id'

theorem advances_emit_crossed (w : World) (a : Author) (c : Crossing) (t : Threshold Float Action) :
    w.Advances a.id [] [c] (w.emit (.log (crossedLine a c.index t c.direction))) where
  moves := .refl _ _
  consistent h := h
  fired := by cases c <;> simp [Effect.firedFor?, crossedLine, Crossing.index, Crossing.direction]
  others id' hid := by
    have hid' : ¬a.id = id' := fun h => hid h.symm
    simp [Effect.firedFor?, crossedLine, hid']

theorem attempt_same {w w' : World} {a : Author} {d : Deed} (h : w.attempt a d = .ok w') :
    w'.scores = w.scores ∧ ∀ id, w'.firedFor id = w.firedFor id := by
  unfold World.attempt at h
  split at h
  · obtain rfl := Except.ok.inj h
    exact ⟨rfl, fun id => by simp [Effect.firedFor?]⟩
  · cases h

structure Stage.Advances (s : Stage) (crossed fired : List Crossing) (s' : Stage) : Prop where
  author : s'.context.author.id = s.context.author.id
  world : s.world.Advances s.context.author.id crossed fired s'.world

namespace Stage.Advances

theorem refl (s : Stage) : s.Advances [] [] s := ⟨rfl, .refl _ _⟩

theorem trans {s t u : Stage} {crossed fired crossed' fired' : List Crossing}
    (h : s.Advances crossed fired t) (h' : t.Advances crossed' fired' u) :
    s.Advances (crossed ++ crossed') (fired ++ fired') u where
  author := h'.author.trans h.author
  world := h.world.trans (h.author ▸ h'.world)

end Stage.Advances

theorem punish_advances {s s' : Stage} {d : Deed} {note : String} (h : s.punish d note = .ok s') :
    s.Advances [] [] s' := by
  unfold Stage.punish at h
  split at h
  · rename_i w hw
    obtain rfl := Except.ok.inj h
    obtain ⟨hs, hf⟩ := attempt_same hw
    exact ⟨rfl, advances_of_same _ hs hf⟩
  · cases h

theorem contained_advances {s : Stage} {r : Except ActionError Stage}
    (h : ∀ s', r = .ok s' → s.Advances [] [] s') : s.Advances [] [] (contained s r).2 := by
  cases r with
  | ok s' => exact h s' rfl
  | error e => exact .refl s

theorem step_of_not_addsPoints (env : Environment) (fire : Firing) {a : Action}
    (ha : a.addsPoints = false) (hk : a.KeepsAuthor) (s : Stage) :
    ∃ r, step env fire a s = some r ∧ s.Advances [] [] (contained s r).2 := by
  cases a with
  | points amount => cases ha
  | penalize penalty text =>
    exact ⟨_, rfl, contained_advances fun _ h => punish_advances h⟩
  | command text => exact ⟨_, rfl, contained_advances fun _ h => punish_advances h⟩
  | host run =>
    cases hrun : run s.context with
    | ok c =>
      exact ⟨.ok (s.withContext c), by simp only [step, hrun], ⟨hk _ _ hrun, .refl _ _⟩⟩
    | error e => exact ⟨.error e, by simp only [step, hrun], .refl s⟩
  | replace text =>
    refine ⟨_, rfl, ⟨?_, .refl _ _⟩⟩
    simp only [contained, Context.replaceMatches, Stage.context_withContext]
    split <;> rfl
  | changeCase upper =>
    refine ⟨_, rfl, ⟨?_, .refl _ _⟩⟩
    simp only [contained, Context.replaceMatches, Stage.context_withContext]
    split <;> rfl
  | restate text => exact ⟨_, rfl, ⟨rfl, .refl _ _⟩⟩
  | deny => exact ⟨_, rfl, ⟨rfl, .refl _ _⟩⟩
  | abort => exact ⟨_, rfl, ⟨rfl, .refl _ _⟩⟩
  | log => exact ⟨_, rfl, ⟨rfl, .refl _ _⟩⟩
  | console text => exact ⟨_, rfl, ⟨rfl, advances_of_same _ rfl fun id => by simp [contained]⟩⟩
  | broadcast text => exact ⟨_, rfl, ⟨rfl, advances_of_same _ rfl fun id => by simp [contained]⟩⟩
  | notify permission text =>
    exact ⟨_, rfl, ⟨rfl, advances_of_same _ rfl fun id => by simp [contained]⟩⟩

theorem fireSet_eq {fire : Firing} {table : ThresholdTable} {c : Crossing}
    {h : Threshold Float Action} (hc : table.get? c.index = some h) (s : Stage) :
    fireSet fire table c s = fire (h.actions c.direction)
      (s.emit (.log (crossedLine s.context.author c.index h c.direction))) := by
  cases c <;>
    · simp only [Crossing.index] at hc
      simp only [fireSet, Crossing.index, hc]
      rfl

theorem exists_get? {table : ThresholdTable} {i : Nat} (h : i < table.size) :
    ∃ t, table.get? i = some t :=
  ⟨_, List.getElem?_eq_getElem h⟩

theorem addPointsWith_eq {fire : Firing} {now : Time} {delta : Float} {s : Stage}
    (h : s.world.scores.enabled = true) :
    addPointsWith fire now delta s =
      let moved := s.world.scores.add s.context.author delta now
      (fireAll fire s.world.scores.table moved.2.1
        ⟨s.context, { s.world with scores := moved.1 }⟩).map fun s' => (moved.2.2, s') := by
  simp only [addPointsWith, h, if_true]
  rfl

theorem addPointsWith_of_disabled {s : Stage} (h : s.world.scores.enabled = false) (fire : Firing)
    (now : Time) (delta : Float) : addPointsWith fire now delta s = some (0, s) := by
  simp only [addPointsWith, h, Bool.false_eq_true, if_false]

theorem add_advances {s : Stage} (hs : s.world.scores.Consistent) (delta : Float) (now : Time) :
    s.Advances (s.world.scores.add s.context.author delta now).2.1 []
      ⟨s.context, { s.world with scores := (s.world.scores.add s.context.author delta now).1 }⟩ where
  author := rfl
  world :=
    { moves := Scoreboard.add_moves hs s.context.author delta now
      consistent := fun _ => Scoreboard.add_consistent hs s.context.author delta now
      fired := (List.append_nil _).symm
      others := fun _ _ => rfl }

def World.add (w : World) (a : Author) (delta : Float) (now : Time) : World :=
  { w with scores := (w.scores.add a delta now).1 }

def Stage.add (s : Stage) (delta : Float) (now : Time) : Stage :=
  { s with world := s.world.add s.context.author delta now }

def World.tick (w : World) (id : String) (now : Time) : World :=
  { w with scores := (w.scores.tick id now).1 }

theorem World.settings_tick (w : World) (id : String) (now : Time) :
    (w.tick id now).scores.settings = w.scores.settings := by
  unfold World.tick Scoreboard.tick
  split <;> rfl

theorem leakOne_eq (env : Environment) (id : String) (w : World) :
    leakOne env id w = match (w.scores.tick id env.now).2 with
      | none => some (w.tick id env.now)
      | some (author, crossed) =>
        (fireSets (fire env) w.scores.table crossed ⟨.blank author, w.tick id env.now⟩).map (·.world) := by
  unfold leakOne World.tick
  rcases w.scores.tick id env.now with ⟨scores, _ | ⟨author, crossed⟩⟩ <;> rfl

end Moderation
