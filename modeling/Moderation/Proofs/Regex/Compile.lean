import Moderation.Proofs.Regex.Find

/-!
What expressions match, and that their code matches the same. Code is emitted behind what is there
already, so a step keeps its meaning while others are added.
-/

namespace Moderation.Regex

def Chained (part : Nat → Nat → Prop) : Nat → Nat → Nat → Prop
  | 0, i, j => i = j
  | n + 1, i, j => ∃ k, part i k ∧ Chained part n k j

def Spans (text : Array Char) : Regex → Nat → Nat → Prop
  | .empty, i, j => i = j
  | .char cls, i, j => text[i]?.any cls.mem = true ∧ i + 1 = j
  | .look l, i, j => l.holds (charBefore text i) text[i]? = true ∧ i = j
  | .cat a b, i, j => ∃ k, Spans text a i k ∧ Spans text b k j
  | .alt a b, i, j => Spans text a i j ∨ Spans text b i j
  | .repeated min max _ body, i, j => ∃ n, min ≤ n ∧ (∀ m ∈ max, n ≤ m) ∧ Chained (Spans text body) n i j

def loopFree : Regex → Bool
  | .empty => true
  | .char _ => true
  | .look _ => true
  | .cat a b => a.loopFree && b.loopFree
  | .alt a b => a.loopFree && b.loopFree
  | .repeated .. => false

structure Extends (p q : Program) : Prop where
  size_le : p.size ≤ q.size
  same : ∀ k, k < p.size → q[k]? = p[k]?

theorem Extends.refl (p : Program) : Extends p p := ⟨Nat.le_refl _, fun _ _ => rfl⟩

theorem Extends.trans {p q r : Program} (h : Extends p q) (h' : Extends q r) : Extends p r where
  size_le := h.size_le.trans h'.size_le
  same k hk := (h'.same k (hk.trans_le h.size_le)).trans (h.same k hk)

theorem extends_push (p : Program) (s : Step) : Extends p (p.push s) where
  size_le := by rw [Array.size_push]; exact Nat.le_succ _
  same k hk := Array.getElem?_push_lt hk ▸ (Array.getElem?_eq_getElem hk).symm

theorem Extends.pushed {p q : Program} {s : Step} (h : Extends (p.push s) q) :
    q[p.size]? = some s := by
  rw [h.same p.size (by rw [Array.size_push]; exact Nat.lt_succ_self _), Array.getElem?_push_size]

theorem wellFormed_push {p : Program} (hp : WellFormed p) {s : Step}
    (hs : ∀ n ∈ s.targets, n < p.size + 1) : WellFormed (p.push s) := by
  intro k s' hk n hn
  rw [Array.size_push]
  rw [Array.getElem?_push] at hk
  split at hk
  · obtain rfl := Option.some.inj hk
    exact hs n hn
  · exact (hp k s' hk n hn).trans (Nat.lt_succ_self _)

section Steps

variable {q : Program} {text : Array Char} {k i stop : Nat}

theorem leads_iff {s : Step} (hs : q[k]? = some s) (hne : s ≠ .accept) :
    Leads q text (k, i) stop ↔ ∃ c ∈ s.follow text i, Leads q text c stop := by
  constructor
  · intro h
    cases h with
    | accept hacc => exact absurd (Option.some.inj (hs.symm.trans hacc)) hne
    | follow hs' hc hleads =>
      obtain rfl := Option.some.inj (hs.symm.trans hs')
      exact ⟨_, hc, hleads⟩
  · rintro ⟨c, hc, hleads⟩
    exact .follow hs hc hleads

theorem leads_accept (hs : q[k]? = some .accept) : Leads q text (k, i) stop ↔ stop = i := by
  constructor
  · intro h
    cases h with
    | accept => rfl
    | follow hs' hc _ =>
      obtain rfl := Option.some.inj (hs.symm.trans hs')
      cases hc
  · rintro rfl
    exact .accept hs

theorem leads_take {cls : CharClass} {next : Nat} (hs : q[k]? = some (.take cls next)) :
    Leads q text (k, i) stop ↔ text[i]?.any cls.mem = true ∧ Leads q text (next, i + 1) stop := by
  rw [leads_iff hs (by simp), Step.follow]
  split <;> simp [*]

theorem leads_test {l : Look} {next : Nat} (hs : q[k]? = some (.test l next)) :
    Leads q text (k, i) stop ↔
      l.holds (charBefore text i) text[i]? = true ∧ Leads q text (next, i) stop := by
  rw [leads_iff hs (by simp), Step.follow]
  split <;> simp [*]

theorem leads_fork {first second : Nat} (hs : q[k]? = some (.fork first second)) :
    Leads q text (k, i) stop ↔ Leads q text (first, i) stop ∨ Leads q text (second, i) stop := by
  rw [leads_iff hs (by simp), Step.follow]
  simp

end Steps

/-- What emitted code does: in every program that goes on from it, its first step leads wherever the step to
go on with leads from behind a match. -/
structure Emitted (text : Array Char) (r : Regex) (next : Nat) (p : Program) (out : Program × Nat) :
    Prop where
  ext : Extends p out.1
  wellFormed : WellFormed out.1
  entry_lt : out.2 < out.1.size
  leads : ∀ q, Extends out.1 q → ∀ i stop,
    Leads q text (out.2, i) stop ↔ ∃ j, r.Spans text i j ∧ Leads q text (next, j) stop

theorem emitted (text : Array Char) {r : Regex} (hr : r.loopFree = true) {next : Nat} {p : Program}
    (hp : WellFormed p) (hnext : next < p.size) : Emitted text r next p (emit r next p) := by
  induction r generalizing next p with
  | empty =>
    exact ⟨.refl p, hp, hnext, fun q _ i stop => by simp [emit, Spans]⟩
  | char cls =>
    refine ⟨extends_push p _, wellFormed_push hp ?_, ?_, fun q hq i stop => ?_⟩
    · simp only [Step.targets, List.mem_singleton, forall_eq]
      omega
    · simp [emit, Program.add]
    · simp only [emit, Program.add] at hq ⊢
      rw [leads_take hq.pushed]
      simp only [Spans, and_assoc, exists_and_left, exists_eq_left']
  | look l =>
    refine ⟨extends_push p _, wellFormed_push hp ?_, ?_, fun q hq i stop => ?_⟩
    · simp only [Step.targets, List.mem_singleton, forall_eq]
      omega
    · simp [emit, Program.add]
    · simp only [emit, Program.add] at hq ⊢
      rw [leads_test hq.pushed]
      simp only [Spans, and_assoc, exists_and_left, exists_eq_left']
  | cat a b iha ihb =>
    rw [loopFree, Bool.and_eq_true] at hr
    have hb := ihb hr.2 hp hnext
    have ha := iha hr.1 hb.wellFormed hb.entry_lt
    refine ⟨hb.ext.trans ha.ext, ha.wellFormed, ha.entry_lt, fun q hq i stop => ?_⟩
    simp only [emit, Spans]
    rw [ha.leads q hq]
    simp only [hb.leads q (ha.ext.trans hq)]
    constructor
    · rintro ⟨k, hk, j, hj, h⟩
      exact ⟨j, ⟨k, hk, hj⟩, h⟩
    · rintro ⟨j, ⟨k, hk, hj⟩, h⟩
      exact ⟨k, hk, j, hj, h⟩
  | alt a b iha ihb =>
    rw [loopFree, Bool.and_eq_true] at hr
    have hb := ihb hr.2 hp hnext
    have ha := iha hr.1 hb.wellFormed (hnext.trans_le hb.ext.size_le)
    have hpush := extends_push (emit a next (emit b next p).1).1
      (.fork (emit a next (emit b next p).1).2 (emit b next p).2)
    refine ⟨(hb.ext.trans ha.ext).trans hpush, wellFormed_push ha.wellFormed ?_, ?_,
      fun q hq i stop => ?_⟩
    · intro n hn
      have hsize := ha.ext.size_le
      rcases List.mem_pair.1 hn with rfl | rfl
      · exact ha.entry_lt.trans (Nat.lt_succ_self _)
      · exact (hb.entry_lt.trans_le hsize).trans (Nat.lt_succ_self _)
    · simp [emit, Program.add]
    · simp only [emit, Program.add, Spans] at hq ⊢
      rw [leads_fork hq.pushed, ha.leads q (hpush.trans hq), hb.leads q (ha.ext.trans (hpush.trans hq))]
      simp only [or_and_right, exists_or]
  | repeated => cases hr

theorem wellFormed_accept : WellFormed #[.accept] := by
  intro k s hk n hn
  match k with
  | 0 =>
    obtain rfl : Step.accept = s := Option.some.inj hk
    cases hn
  | k + 1 => cases hk

variable {r : Regex}

theorem sound_compile (hr : r.loopFree = true) : (compile r).Sound :=
  have h := emitted #[] hr wellFormed_accept (Nat.lt_succ_self 0)
  ⟨h.wellFormed, h.entry_lt⟩

theorem matchesAt_compile (hr : r.loopFree = true) {text : Array Char} {i j : Nat} :
    (compile r).MatchesAt text i j ↔ r.Spans text i j := by
  have h := emitted text hr wellFormed_accept (Nat.lt_succ_self 0)
  have haccept : (compile r).steps[0]? = some .accept := h.ext.same 0 (Nat.lt_succ_self 0)
  have hleads := h.leads (compile r).steps (.refl _) i j
  simp only [leads_accept haccept] at hleads
  rw [Code.MatchesAt, compile]
  refine hleads.trans ⟨?_, fun h => ⟨j, h, rfl⟩⟩
  rintro ⟨_, h, rfl⟩
  exact h

section Literal

variable {text : Array Char}

theorem spans_sequence_cons (r : Regex) (rest : List Regex) {i j : Nat} :
    Spans text (sequence (r :: rest)) i j ↔
      ∃ k, Spans text r i k ∧ Spans text (sequence rest) k j := by
  cases rest with
  | nil => simp [sequence, Spans]
  | cons r' rest => rfl

theorem cons_prefix_drop_iff {s w : List Char} {c : Char} {i : Nat} :
    c :: w <+: s.drop i ↔ s[i]? = some c ∧ w <+: s.drop (i + 1) := by
  by_cases hi : i < s.length
  · rw [List.drop_eq_getElem_cons hi, List.cons_prefix_cons, List.getElem?_eq_getElem hi,
      Option.some_inj, eq_comm]
  · rw [List.drop_eq_nil_of_le (Nat.le_of_not_lt hi), List.getElem?_eq_none (Nat.le_of_not_lt hi)]
    simp

theorem spans_literal {w : List Char} {i j : Nat} :
    Spans text (literal w) i j ↔ w <+: text.toList.drop i ∧ i + w.length = j := by
  induction w generalizing i with
  | nil => simp [literal, sequence, Spans]
  | cons c w ih =>
    rw [literal, List.map_cons, spans_sequence_cons]
    change (∃ k, _ ∧ Spans text (literal w) k j) ↔ _
    have hchar : ∀ k, Spans text (.char (.single c)) i k ↔ text.toList[i]? = some c ∧ i + 1 = k := by
      intro k
      rw [Spans, Array.getElem?_toList, Option.any_eq_true]
      simp
    simp only [hchar, ih, and_assoc, exists_and_left, exists_eq_left']
    rw [cons_prefix_drop_iff, List.length_cons, and_assoc, Nat.add_right_comm, Nat.add_assoc]

end Literal

end Moderation.Regex
