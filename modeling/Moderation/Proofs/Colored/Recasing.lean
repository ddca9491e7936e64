import Moderation.Proofs.Colored.Reading
import Moderation.Proofs.Regex.Bounds
import Moderation.Proofs.Unicode.Casing

namespace Moderation.ColoredText

open Regex Unicode

theorem trailing_fillGap {taken : List Cell} {text : List Char} (h : taken = [] ↔ text = [])
    (behind : ColoredText) : (fillGap taken text behind).trailing = behind.trailing := by
  cases taken with
  | nil =>
    rw [h.1 rfl]
    obtain ⟨cells, trailing⟩ := behind
    cases cells with
    | nil => exact List.append_nil trailing
    | cons c rest => rfl
  | cons c rest =>
    cases text with
    | nil => cases h.2 rfl
    | cons d text => rfl

theorem glyphs_cut (t : ColoredText) (n : Nat) :
    t.glyphs = (t.cells.take n).map Cell.glyph ++ (t.after n).glyphs := by
  rw [List.map_take, glyphs_after]
  exact (List.take_append_drop n t.glyphs).symm

section Edits

variable {f : List Char → List Char} {s : List Char}

def replacementOf (f : List Char → List Char) (s : List Char) (span : Span) : Replacement :=
  ⟨span.start, span.stop, f ((s.drop span.start).take (span.stop - span.start))⟩

theorem replacements_eq (t : ColoredText) (p : Pattern) :
    t.replacements p f = (p.spans t.glyphs).map (replacementOf f t.glyphs) := by
  simp [replacements, replacementOf, List.extract_eq_take_drop]

theorem replaceFrom_respells (hf : ∀ w, Respells marker w (f w)) {pos : Nat} {spans : List Span}
    (hspans : InOrder s.toArray pos spans) {t : ColoredText} (ht : t.glyphs = s.drop pos) :
    Respells marker t.glyphs (replaceFrom pos t (spans.map (replacementOf f s))).glyphs ∧
      (replaceFrom pos t (spans.map (replacementOf f s))).trailing = t.trailing := by
  induction hspans generalizing t with
  | nil => exact ⟨.refl marker t.glyphs, rfl⟩
  | @cons pos span rest hspan _ ih =>
    have hle := hspan.start_le
    have hlt := hspan.stop.1
    let gap := t.cells.take (span.start - pos)
    let behind := t.after (span.start - pos)
    let taken := behind.cells.take (span.stop - span.start)
    let word := (s.drop span.start).take (span.stop - span.start)
    have hbehind : behind.glyphs = s.drop span.start := by
      rw [glyphs_after, ht, List.drop_drop, Nat.add_sub_cancel' hle]
    have htaken : taken.map Cell.glyph = word := by
      rw [List.map_take]
      exact congrArg (List.take _) hbehind
    have hlast : (behind.after (span.stop - span.start)).glyphs = s.drop span.stop := by
      rw [glyphs_after, hbehind, List.drop_drop, Nat.add_sub_cancel' hlt]
    obtain ⟨hglyphs, htrailing⟩ := ih hlast
    have hempty : taken = [] ↔ f word = [] := by
      rw [← (hf word).eq_nil_iff, ← htaken, List.map_eq_nil_iff]
    have hsplit : t.glyphs = gap.map Cell.glyph ++
        (word ++ (behind.after (span.stop - span.start)).glyphs) := by
      rw [← htaken, ← glyphs_cut, ← glyphs_cut]
    constructor
    · rw [hsplit, List.map_cons, replaceFrom, glyphs_prepend, glyphs_fillGap]
      exact (Respells.refl marker _).append ((hf word).append hglyphs)
    · rw [List.map_cons, replaceFrom]
      exact (trailing_fillGap hempty _).trans htrailing

end Edits

theorem MarkerLast.of_respells {allowed : List Char → Prop} {t t' : ColoredText}
    (h : t.MarkerLast allowed) (hglyphs : Respells marker t.glyphs t'.glyphs)
    (htrailing : t'.trailing = t.trailing) : t'.MarkerLast allowed where
  tight := hglyphs.notMem_dropLast h.tight
  behind hlast := htrailing ▸ h.behind (hglyphs.getLast? hlast)

theorem replaceMatches_respells {f : List Char → List Char} (hf : ∀ w, Respells marker w (f w))
    (t : ColoredText) (p : Pattern) :
    Respells marker t.glyphs (t.replaceMatches p f).glyphs ∧
      (t.replaceMatches p f).trailing = t.trailing := by
  rw [replaceMatches, replacements_eq]
  exact replaceFrom_respells hf (inOrder_findAll p.code t.glyphs.toArray) rfl

end Moderation.ColoredText
