import Moderation.Proofs.Colored.Recasing
import Moderation.Proofs.Evaluation.Conservation

namespace Moderation

def Action.KeepsText (tags : Tags) (P : ColoredText → Prop) : Action → Prop
  | .replace text => ∀ c : Context, P c.modified →
      P (c.replaceMatches fun _ => (tags.fill text c).toList).modified
  | .restate text => ∀ c : Context, P c.modified → P (.ofString (tags.fill text c))
  | .changeCase upper => ∀ c : Context, P c.modified →
      P (c.replaceMatches (if upper then Unicode.upper else Unicode.lower)).modified
  | .host run => ∀ c c', run c = .ok c' → P c.modified → P c'.modified
  | _ => True

section Kept

variable {env : Environment} {P : ColoredText → Prop} {fire : Firing} {a : Action} {s : Stage}
  {r : Except ActionError Stage}

theorem modified_punish (s : Stage) (d : Deed) (note : String) :
    (contained s (s.punish d note)).2.context.modified = s.context.modified := by
  unfold Stage.punish
  split <;> rfl

theorem modified_step (ha : a.KeepsText env.tags P) (hpoints : a.addsPoints = false)
    (h : step env fire a s = some r) (hs : P s.context.modified) :
    P (contained s r).2.context.modified := by
  cases a with
  | points amount => cases hpoints
  | replace text =>
    obtain rfl := Option.some.inj h
    exact ha s.context hs
  | restate text =>
    obtain rfl := Option.some.inj h
    exact ha s.context hs
  | changeCase upper =>
    obtain rfl := Option.some.inj h
    exact ha s.context hs
  | penalize penalty text =>
    obtain rfl := Option.some.inj h
    exact (modified_punish s _ _).symm ▸ hs
  | command text =>
    obtain rfl := Option.some.inj h
    exact (modified_punish s _ _).symm ▸ hs
  | host run =>
    simp only [step] at h
    split at h
    · rename_i c hrun
      obtain rfl := Option.some.inj h
      exact ha s.context c hrun hs
    · obtain rfl := Option.some.inj h
      exact hs
  | _ =>
    obtain rfl := Option.some.inj h
    exact hs

structure Stage.CarriesText (P : ColoredText → Prop) (s t : Stage) : Prop where
  table : t.world.scores.table = s.world.scores.table
  text : P s.context.modified → P t.context.modified

theorem conserved_carriesText (env : Environment) (P : ColoredText → Prop) :
    Conserved env (Action.KeepsText env.tags P) (Stage.CarriesText P) where
  refl _ := ⟨rfl, fun h => h⟩
  trans h h' := ⟨h'.table.trans h.table, fun hs => h'.text (h.text hs)⟩
  table h := h.table
  acts ha hpoints h := ⟨congrArg (·.table) (scores_step hpoints h), modified_step ha hpoints h⟩
  enters _ _ _ _ := ⟨rfl, fun h => h⟩
  logs _ _ := ⟨rfl, fun h => h⟩
  scores _ _ _ := ⟨rfl, fun h => h⟩
  blank h := ⟨h.table, fun h => h⟩

theorem modified_execute {chain : Chain} {m : Metrics} {t : Stage}
    (hrules : ∀ r ∈ chain.rules, ∀ i ∈ r.actions, i.action.KeepsText env.tags P)
    (htable : AllActions s.world.scores.table (Action.KeepsText env.tags P))
    (h : execute env chain s = some (t, m)) (hs : P s.context.modified) : P t.context.modified :=
  ((conserved_carriesText env P).runRules
    (s := s.withContext { s.context with chain := some chain.name }) hrules htable h).text hs

theorem keeps_replaceMatches {c : Context} {f : List Char → List Char} (hc : P c.modified)
    (h : ∀ p, P (c.modified.replaceMatches p f)) : P (c.replaceMatches f).modified := by
  unfold Context.replaceMatches
  split
  · exact hc
  · exact h _

end Kept

section Readable

open ColoredText Unicode

theorem respells_case (upper : Bool) (w : List Char) :
    Respells marker w ((if upper then Unicode.upper else Unicode.lower) w) := by
  cases upper with
  | true => exact respells_upper w
  | false => exact respells_lower w

def Action.NeverReplaces : Action → Prop
  | .replace _ => False
  | .host run => ∀ c c', run c = .ok c' → c.modified.Readable → c'.modified.Readable
  | _ => True

theorem Action.NeverReplaces.keepsText {a : Action} (ha : a.NeverReplaces) (tags : Tags) :
    a.KeepsText tags Readable := by
  cases a with
  | replace text => exact ha.elim
  | restate text => exact fun c _ => readable_ofRaw _
  | changeCase upper =>
    intro c hc
    refine keeps_replaceMatches hc fun p => ?_
    obtain ⟨hglyphs, htrailing⟩ := replaceMatches_respells (respells_case upper) c.modified p
    exact hc.of_respells hglyphs htrailing
  | host run => exact ha
  | _ => trivial

def ColoredText.ShowsNoMarker (t : ColoredText) : Prop := marker ∉ t.glyphs

theorem readable_of_showsNoMarker {t : ColoredText} (h : t.ShowsNoMarker) : t.Readable where
  tight hmem := h (List.dropLast_subset _ hmem)
  behind hlast := absurd (List.mem_of_getLast? hlast) h

def Action.PutsNoMarker (tags : Tags) : Action → Prop
  | .replace text => ∀ c : Context, c.modified.ShowsNoMarker → marker ∉ (tags.fill text c).toList
  | .restate text => ∀ c : Context, c.modified.ShowsNoMarker →
      (ofString (tags.fill text c)).ShowsNoMarker
  | .host run => ∀ c c', run c = .ok c' → c.modified.ShowsNoMarker → c'.modified.ShowsNoMarker
  | _ => True

theorem mem_spliceFrom {c : Char} {pos : Nat} {s : List Char} {rs : List Replacement}
    (h : c ∈ spliceFrom pos s rs) : c ∈ s ∨ ∃ r ∈ rs, c ∈ r.text := by
  induction rs generalizing pos s with
  | nil => exact .inl h
  | cons r rest ih =>
    rw [spliceFrom, List.mem_append, List.mem_append] at h
    rcases h with hgap | htext | hbehind
    · exact .inl (List.mem_of_mem_take hgap)
    · exact .inr ⟨r, List.mem_cons_self, htext⟩
    · rcases ih hbehind with hs | ⟨q, hq, htext⟩
      · exact .inl (List.mem_of_mem_drop (List.mem_of_mem_drop hs))
      · exact .inr ⟨q, List.mem_cons_of_mem _ hq, htext⟩

theorem showsNoMarker_replaceMatches {t : ColoredText} {w : List Char} (ht : t.ShowsNoMarker)
    (hw : marker ∉ w) (p : Pattern) : (t.replaceMatches p fun _ => w).ShowsNoMarker := by
  intro hmem
  rw [replaceMatches, glyphs_replaceAll] at hmem
  rcases mem_spliceFrom hmem with hs | ⟨r, hr, htext⟩
  · exact ht hs
  · obtain ⟨span, -, rfl⟩ := List.mem_map.1 hr
    exact hw htext

theorem Action.PutsNoMarker.keepsText {tags : Tags} {a : Action} (ha : a.PutsNoMarker tags) :
    a.KeepsText tags ShowsNoMarker := by
  cases a with
  | replace text =>
    intro c hc
    exact keeps_replaceMatches hc (showsNoMarker_replaceMatches hc (ha c hc))
  | restate text => exact ha
  | changeCase upper =>
    intro c hc
    refine keeps_replaceMatches hc fun p hmem => ?_
    exact hc ((replaceMatches_respells (respells_case upper) c.modified p).1.mem hmem)
  | host run => exact ha
  | _ => trivial

end Readable

end Moderation
