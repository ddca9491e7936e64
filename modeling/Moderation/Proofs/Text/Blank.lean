import Mathlib.Data.List.TakeWhile
import Moderation.Text.Blank

namespace Moderation.Text

variable {s w after : List Char}

theorem dropWhile_isBlank_of_head (h : ∀ c ∈ s.head?, isBlank c = false) : s.dropWhile isBlank = s := by
  cases s with
  | nil => rfl
  | cons c s => rw [List.dropWhile_cons_of_neg (by simp [h c rfl])]

theorem isBlank_head_dropWhile : ∀ c ∈ (s.dropWhile isBlank).head?, isBlank c = false := by
  intro c hc
  have h := List.head?_dropWhile_not isBlank s
  rw [hc] at h
  exact h

theorem trim_eq_self (hhead : ∀ c ∈ s.head?, isBlank c = false)
    (hlast : ∀ c ∈ s.getLast?, isBlank c = false) : trim s = s := by
  rw [trim, trimStart, dropWhile_isBlank_of_head hhead, trimEnd, dropWhile_isBlank_of_head,
    List.reverse_reverse]
  rwa [List.head?_reverse]

theorem isBlank_getLast_trim : ∀ c ∈ (trim s).getLast?, isBlank c = false := by
  intro c hc
  rw [trim, trimEnd, List.getLast?_reverse] at hc
  exact isBlank_head_dropWhile c hc

theorem trim_of_forall (h : ∀ c ∈ s, isBlank c = false) : trim s = s :=
  trim_eq_self (fun c hc => h c (List.mem_of_mem_head? hc)) fun c hc => h c (List.mem_of_mem_getLast? hc)

theorem trim_isPrefix (s : List Char) : trim s <+: trimStart s := by
  rw [trim, trimEnd, ← List.reverse_suffix, List.reverse_reverse]
  exact List.dropWhile_suffix isBlank

theorem trim_isInfix (s : List Char) : trim s <:+: s := by
  have hstart : trimStart s <:+ s := List.dropWhile_suffix isBlank
  exact (trim_isPrefix s).isInfix.trans hstart.isInfix

theorem isBlank_head_trim : ∀ c ∈ (trim s).head?, isBlank c = false := by
  intro c hc
  obtain ⟨after, hafter⟩ := trim_isPrefix s
  have hhead : c ∈ (trimStart s).head? := by
    rw [← hafter, List.head?_append, hc]
    rfl
  exact isBlank_head_dropWhile c hhead

theorem cutAtBlank_suffix (s : List Char) : (cutAtBlank s).2 <:+ s :=
  (List.drop_suffix _ _).trans (List.dropWhile_suffix _)

theorem trim_append_blanks (h : ∀ c ∈ after, isBlank c = true) : trim (s ++ after) = trim s := by
  have hend : ∀ t, trimEnd (t ++ after) = trimEnd t := by
    intro t
    rw [trimEnd, List.reverse_append,
      List.dropWhile_append_of_pos fun c hc => h c (List.mem_reverse.1 hc), trimEnd]
  have hblank : after.dropWhile isBlank = [] := List.dropWhile_eq_nil_iff.2 h
  rw [trim, trimStart, List.dropWhile_append, hblank]
  split
  · rename_i hempty
    rw [trim, trimStart, List.isEmpty_iff.1 hempty]
  · exact hend _

theorem trim_blanks_append (h : ∀ c ∈ w, isBlank c = true) : trim (w ++ s) = trim s := by
  rw [trim, trimStart, List.dropWhile_append_of_pos h, trim, trimStart]

theorem trimEnd_append (hlast : ∀ c ∈ s.getLast?, isBlank c = false)
    (hafter : ∀ c ∈ after, isBlank c = true) : trimEnd (s ++ after) = s := by
  rw [trimEnd, List.reverse_append,
    List.dropWhile_append_of_pos fun c hc => hafter c (List.mem_reverse.1 hc),
    dropWhile_isBlank_of_head, List.reverse_reverse]
  rwa [List.head?_reverse]

section FirstWord

variable (hw : ∀ c ∈ w, isBlank c = false) (hafter : ∀ c ∈ after.head?, isBlank c = true)

include hw hafter

theorem firstWord_append : firstWord (w ++ after) = w := by
  rw [firstWord, List.takeWhile_append_of_pos fun c hc => by simp [hw c hc]]
  cases after with
  | nil => simp
  | cons c after => rw [List.takeWhile_cons_of_neg (by simp [hafter c rfl]), List.append_nil]

theorem dropWhile_append_of_word : (w ++ after).dropWhile (fun c => !isBlank c) = after := by
  rw [List.dropWhile_append_of_pos fun c hc => by simp [hw c hc]]
  cases after with
  | nil => rfl
  | cons c after => rw [List.dropWhile_cons_of_neg (by simp [hafter c rfl])]

theorem cutAtBlank_append : cutAtBlank (w ++ after) = (w, after.drop 1) := by
  rw [cutAtBlank, firstWord_append hw hafter, dropWhile_append_of_word hw hafter]

end FirstWord

end Moderation.Text
