import Moderation.Regex.Search

namespace Moderation.Regex

def Within (text : Array Char) (start pos : Nat) : Prop := start ≤ pos ∧ pos ≤ text.size

variable {code : Code} {text : Array Char} {start : Nat}

theorem within_follow {s : Step} {pos : Nat} (hpos : Within text start pos) {q : Nat × Nat}
    (hq : q ∈ s.follow text pos) : Within text start q.2 := by
  cases s with
  | take cls next =>
    simp only [Step.follow] at hq
    split at hq
    · rename_i htake
      obtain rfl := List.mem_singleton.1 hq
      obtain ⟨c, hc, -⟩ := (Option.any_eq_true _ _).1 htake
      obtain ⟨hlt, -⟩ := Array.getElem?_eq_some_iff.1 hc
      exact ⟨Nat.le_succ_of_le hpos.1, hlt⟩
    · cases hq
  | fork first second =>
    simp only [Step.follow, List.mem_cons, List.not_mem_nil, or_false] at hq
    rcases hq with rfl | rfl
    · exact hpos
    · exact hpos
  | test l next =>
    simp only [Step.follow] at hq
    split at hq
    · obtain rfl := List.mem_singleton.1 hq
      exact hpos
    · cases hq
  | accept => cases hq

theorem within_explore {steps : Program} {fuel : Nat} {pending : List (Nat × Nat)} {t t' : Tried}
    {stop : Nat} (hpending : ∀ c ∈ pending, Within text start c.2)
    (h : explore steps text fuel pending t = (some stop, t')) : Within text start stop := by
  fun_induction explore steps text fuel pending t with
  | case1 => cases h
  | case2 => cases h
  | case3 t fuel step pos rest _ ih =>
    exact ih (fun c hc => hpending c (List.mem_cons_of_mem _ hc)) h
  | case4 t fuel step pos rest _ _ _ ih =>
    exact ih (fun c hc => hpending c (List.mem_cons_of_mem _ hc)) h
  | case5 t fuel step pos rest =>
    obtain rfl := Option.some.inj (congrArg Prod.fst h)
    exact hpending _ List.mem_cons_self
  | case6 t fuel step pos rest _ _ s _ _ ih =>
    refine ih (fun c hc => ?_) h
    rcases List.mem_append.1 hc with hfollow | hrest
    · exact within_follow (hpending _ List.mem_cons_self) hfollow
    · exact hpending c (List.mem_cons_of_mem _ hrest)

structure Span.Lies (span : Span) (text : Array Char) (start : Nat) : Prop where
  start_le : start ≤ span.start
  stop : Within text span.start span.stop

theorem Span.Lies.mono {span : Span} {pos : Nat} (h : span.Lies text pos) (hpos : start ≤ pos) :
    span.Lies text start :=
  ⟨Nat.le_trans hpos h.start_le, h.stop⟩

theorem lies_explore {t t' : Tried} {stop : Nat} (hstart : start ≤ text.size)
    (h : explore code.steps text (code.fuel text) [(code.entry, start)] t = (some stop, t')) :
    Span.Lies ⟨start, stop⟩ text start := by
  refine ⟨Nat.le_refl _, within_explore (fun c hc => ?_) h⟩
  rw [List.mem_singleton.1 hc]
  exact ⟨Nat.le_refl _, hstart⟩

theorem lies_findFrom (more : Nat) {t : Tried} {span : Span} (hbound : start + more ≤ text.size)
    (h : findFrom code text more start t = some span) : span.Lies text start := by
  induction more generalizing start t with
  | zero =>
    unfold findFrom at h
    split at h
    · rename_i hexplore
      obtain rfl := Option.some.inj h
      exact lies_explore hbound hexplore
    · cases h
  | succ more ih =>
    unfold findFrom at h
    split at h
    · rename_i hexplore
      obtain rfl := Option.some.inj h
      exact lies_explore (by omega) hexplore
    · exact (ih (by omega) h).mono (Nat.le_succ _)

theorem lies_findAt {span : Span} (h : code.findAt text start = some span) : span.Lies text start := by
  unfold Code.findAt at h
  split at h
  · exact lies_findFrom (text.size - start) (by omega) h
  · cases h

theorem lies_findAfter {last : Option Nat} {span : Span}
    (h : code.findAfter text start last = some span) : span.Lies text start := by
  unfold Code.findAfter at h
  split at h
  · rename_i found hfound
    split at h
    · exact (lies_findAt h).mono (Nat.le_succ _)
    · obtain rfl := Option.some.inj h
      exact lies_findAt hfound
  · cases h

inductive InOrder (text : Array Char) : Nat → List Span → Prop
  | nil {start : Nat} : InOrder text start []
  | cons {start : Nat} {span : Span} {rest : List Span} : span.Lies text start →
    InOrder text span.stop rest → InOrder text start (span :: rest)

theorem inOrder_findAllFrom (fuel : Nat) (last : Option Nat) :
    InOrder text start (code.findAllFrom text fuel start last) := by
  induction fuel generalizing start last with
  | zero => exact .nil
  | succ fuel ih =>
    rw [Code.findAllFrom]
    split
    · rename_i span hspan
      exact .cons (lies_findAfter hspan) (ih (some span.stop))
    · exact .nil

theorem inOrder_findAll (code : Code) (text : Array Char) : InOrder text 0 (code.findAll text) :=
  inOrder_findAllFrom _ _

end Moderation.Regex
