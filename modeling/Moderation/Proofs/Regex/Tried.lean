import Mathlib.Data.Nat.Bitwise
import Mathlib.Data.Finset.Prod
import Mathlib.Data.Finset.Card
import Moderation.Regex.Search

/-!
The memory of a search, as a set of pairs. What bits of which words stand for the pairs does not matter
outside of this module.
-/

namespace Moderation.Regex

def InRange (code : Program) (text : Array Char) (c : Nat × Nat) : Prop :=
  c.1 < code.size ∧ c.2 ≤ text.size

namespace Tried

structure Fits (code : Program) (text : Array Char) (t : Tried) : Prop where
  width : t.width = code.size / 32 + 1
  size : t.words.size = t.width * (text.size + 1)

variable {code : Program} {text : Array Char} {t : Tried} {step pos : Nat}

theorem fits_none (code : Program) (text : Array Char) : (Tried.none code text).Fits code text :=
  ⟨rfl, Array.size_replicate⟩

theorem Fits.mark (h : t.Fits code text) (step pos : Nat) : (t.mark step pos).Fits code text :=
  ⟨h.width, by rw [Tried.mark, Array.size_modify]; exact h.size⟩

theorem Fits.step_div_lt (h : t.Fits code text) (hc : InRange code text (step, pos)) :
    step / 32 < t.width := by
  have := Nat.div_le_div_right (c := 32) (Nat.le_of_lt hc.1)
  rw [h.width]
  exact Nat.lt_succ_of_le this

theorem Fits.word_lt (h : t.Fits code text) (hc : InRange code text (step, pos)) :
    t.word step pos < t.words.size := by
  have hpos : pos ≤ text.size := hc.2
  calc t.word step pos < pos * t.width + t.width := Nat.add_lt_add_left (h.step_div_lt hc) _
    _ = t.width * (pos + 1) := by rw [Nat.mul_succ, Nat.mul_comm]
    _ ≤ t.width * (text.size + 1) := Nat.mul_le_mul_left _ (by omega)
    _ = t.words.size := h.size.symm

theorem Fits.word_inj (h : t.Fits code text) {step' pos' : Nat} (hc : InRange code text (step, pos))
    (hc' : InRange code text (step', pos')) (heq : t.word step pos = t.word step' pos') :
    step / 32 = step' / 32 ∧ pos = pos' := by
  have hstep := h.step_div_lt hc
  have hstep' := h.step_div_lt hc'
  have hpos := congrArg (· / t.width) heq
  have hrest := congrArg (· % t.width) heq
  simp only [word] at hpos hrest
  have hwidth : 0 < t.width := Nat.lt_of_le_of_lt (Nat.zero_le _) hstep
  rw [Nat.mul_comm pos, Nat.mul_comm pos', Nat.mul_add_div hwidth, Nat.mul_add_div hwidth,
    Nat.div_eq_of_lt hstep, Nat.div_eq_of_lt hstep'] at hpos
  rw [Nat.mul_comm pos, Nat.mul_comm pos', Nat.mul_add_mod, Nat.mul_add_mod,
    Nat.mod_eq_of_lt hstep, Nat.mod_eq_of_lt hstep'] at hrest
  exact ⟨hrest, hpos⟩

theorem testBit_mark (n k j : Nat) : (n ||| 1 <<< k).testBit j = (n.testBit j || decide (k = j)) := by
  rw [Nat.testBit_or, Nat.one_shiftLeft, Nat.testBit_two_pow]

theorem has_mark (h : t.Fits code text) {c c' : Nat × Nat} (hc : InRange code text c)
    (hc' : InRange code text c') :
    (t.mark c.1 c.2).has c'.1 c'.2 = true ↔ t.has c'.1 c'.2 = true ∨ c = c' := by
  obtain ⟨step, pos⟩ := c
  obtain ⟨step', pos'⟩ := c'
  simp only [has, mark, word]
  rw [Array.getElem?_modify]
  have hlt := h.word_lt hc'
  by_cases hword : t.word step pos = t.word step' pos'
  · obtain ⟨hdiv, rfl⟩ := h.word_inj hc hc' hword
    have hsame : (step, pos) = (step', pos) ↔ step % 32 = step' % 32 := by
      rw [Prod.mk.injEq, and_iff_left rfl]
      omega
    rw [hsame]
    simp only [word] at hword hlt
    rw [if_pos hword, Array.getElem?_eq_getElem hlt, Option.map_some, Option.getD_some, testBit_mark]
    simp
  · have hne : (step, pos) ≠ (step', pos') := fun heq => by
      obtain ⟨rfl, rfl⟩ := Prod.mk.inj heq
      exact hword rfl
    simp only [word] at hword
    rw [if_neg hword]
    simp [hne]

theorem has_none (code : Program) (text : Array Char) (step pos : Nat) :
    (Tried.none code text).has step pos = false := by
  simp only [has, none]
  rw [Array.getElem?_replicate]
  split <;> simp

def untried (code : Program) (text : Array Char) (t : Tried) : Finset (Nat × Nat) :=
  (Finset.range code.size ×ˢ Finset.range (text.size + 1)).filter fun c => t.has c.1 c.2 = false

theorem mem_untried {c : Nat × Nat} :
    c ∈ untried code text t ↔ InRange code text c ∧ t.has c.1 c.2 = false := by
  simp only [untried, Finset.mem_filter, Finset.mem_product, Finset.mem_range, InRange,
    Nat.lt_succ_iff]

theorem card_untried_le (code : Program) (text : Array Char) (t : Tried) :
    (untried code text t).card ≤ code.size * (text.size + 1) := by
  refine (Finset.card_filter_le _ _).trans ?_
  rw [Finset.card_product, Finset.card_range, Finset.card_range]

theorem card_untried_mark_lt (h : t.Fits code text) {c : Nat × Nat} (hc : InRange code text c)
    (hnew : t.has c.1 c.2 = false) :
    (untried code text (t.mark c.1 c.2)).card < (untried code text t).card := by
  refine Finset.card_lt_card (Finset.ssubset_iff_of_subset ?_ |>.2 ⟨c, mem_untried.2 ⟨hc, hnew⟩, ?_⟩)
  · intro c' hc'
    obtain ⟨hrange, hhas⟩ := mem_untried.1 hc'
    refine mem_untried.2 ⟨hrange, ?_⟩
    by_contra hold
    rw [Bool.not_eq_false] at hold
    rw [(has_mark h hc hrange).2 (.inl hold)] at hhas
    cases hhas
  · intro hc'
    have := (mem_untried.1 hc').2
    rw [(has_mark h hc hc).2 (.inr rfl)] at this
    cases this

end Tried

end Moderation.Regex
