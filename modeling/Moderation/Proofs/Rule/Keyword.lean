import Moderation.Proofs.Regex.Compile
import Moderation.Rule.Segment

namespace Moderation

open Regex

def Keyword.word : Keyword → List Char
  | .andThen => Keyword.andThenWord
  | .exceptFor => Keyword.exceptForWord

theorem Keyword.not_isBlank {k : Keyword} {c : Char} (h : c ∈ k.word) : Text.isBlank c = false := by
  have hall : k.word.all (fun c => !Text.isBlank c) = true := by cases k <;> rfl
  simpa using List.all_eq_true.1 hall c h

theorem Keyword.word_ne_nil (k : Keyword) : k.word ≠ [] := by
  cases k <;> decide

namespace Segment

structure Heads (s : List Char) (k : Keyword) (rest : List Char) : Prop where
  eq : s = k.word ++ rest
  blank : ∀ c ∈ rest.head?, Text.isBlank c = true

theorem Heads.not_isBlank {s rest : List Char} {k : Keyword} (h : Heads s k rest) :
    ∃ c t, s = c :: t ∧ Text.isBlank c = false := by
  cases hw : k.word with
  | nil => exact absurd hw k.word_ne_nil
  | cons c w =>
    refine ⟨c, w ++ rest, ?_, Keyword.not_isBlank (k := k) (by simp [hw])⟩
    rw [h.eq, hw, List.cons_append]

section Parts

variable {pre s : List Char} {j : Nat}

theorem getElem?_behind (pre s : List Char) : (pre ++ s).toArray[pre.length]? = s.head? := by
  rw [List.getElem?_toArray, List.getElem?_append_right (Nat.le_refl _), Nat.sub_self,
    List.head?_eq_getElem?]

theorem charBefore_behind (pre s : List Char) :
    charBefore (pre ++ s).toArray pre.length = pre.getLast? := by
  cases pre using List.reverseRecOn with
  | nil => rfl
  | append_singleton pre c =>
    rw [List.length_append, List.length_singleton, charBefore, List.append_assoc,
      getElem?_behind]
    simp

theorem spans_blank : Spans (pre ++ s).toArray (.char (.having Text.isBlank)) pre.length j ↔
    ∃ c t, s = c :: t ∧ Text.isBlank c = true ∧ (pre ++ [c]).length = j := by
  rw [Spans, getElem?_behind]
  cases s with
  | nil => simp
  | cons c t => simp [CharClass.mem]

theorem spans_textStart :
    Spans (pre ++ s).toArray (.look .textStart) pre.length j ↔ pre = [] ∧ pre.length = j := by
  rw [Spans, charBefore_behind]
  simp [Look.holds]

theorem spans_textStop :
    Spans (pre ++ s).toArray (.look .textStop) pre.length j ↔ s = [] ∧ pre.length = j := by
  rw [Spans, getElem?_behind]
  simp [Look.holds]

theorem spans_word : Spans (pre ++ s).toArray
      (.alt (literal Keyword.andThenWord) (literal Keyword.exceptForWord)) pre.length j ↔
    ∃ k t, s = Keyword.word k ++ t ∧ (pre ++ k.word).length = j := by
  have hliteral : ∀ w, Spans (pre ++ s).toArray (literal w) pre.length j ↔
      ∃ t, s = w ++ t ∧ (pre ++ w).length = j := by
    intro w
    rw [spans_literal, List.drop_left, List.length_append]
    exact ⟨fun ⟨⟨t, ht⟩, hj⟩ => ⟨t, ht.symm, hj⟩, fun ⟨t, ht, hj⟩ => ⟨⟨t, ht.symm⟩, hj⟩⟩
  rw [Spans, hliteral, hliteral]
  constructor
  · rintro (⟨t, h⟩ | ⟨t, h⟩)
    · exact ⟨.andThen, t, h⟩
    · exact ⟨.exceptFor, t, h⟩
  · rintro ⟨_ | _, t, h⟩
    · exact .inl ⟨t, h⟩
    · exact .inr ⟨t, h⟩

theorem spans_lead : Spans (pre ++ s).toArray
      (.alt (.look .textStart) (.char (.having Text.isBlank))) pre.length j ↔
    ∃ lead t, s = lead ++ t ∧
      (lead = [] ∧ pre = [] ∨ ∃ c, lead = [c] ∧ Text.isBlank c = true) ∧
      (pre ++ lead).length = j := by
  rw [Spans, spans_textStart, spans_blank]
  constructor
  · rintro (⟨hpre, hj⟩ | ⟨c, t, hs, hc, hj⟩)
    · exact ⟨[], s, rfl, .inl ⟨rfl, hpre⟩, by rw [List.append_nil]; exact hj⟩
    · exact ⟨[c], t, hs, .inr ⟨c, rfl, hc⟩, hj⟩
  · rintro ⟨lead, t, hs, ⟨rfl, hpre⟩ | ⟨c, rfl, hc⟩, hj⟩
    · exact .inl ⟨hpre, by rwa [List.append_nil] at hj⟩
    · exact .inr ⟨c, t, hs, hc, hj⟩

theorem spans_tail : Spans (pre ++ s).toArray
      (.alt (.char (.having Text.isBlank)) (.look .textStop)) pre.length j ↔
    (∀ c ∈ s.head?, Text.isBlank c = true) ∧ (pre ++ s).length = j + s.tail.length := by
  rw [Spans, spans_textStop, spans_blank]
  cases s with
  | nil => simp
  | cons c t =>
    simp only [List.cons.injEq, List.head?_cons, Option.mem_some_iff, List.tail_cons,
      List.length_append, List.length_cons, List.length_nil, reduceCtorEq, false_and, or_false]
    constructor
    · rintro ⟨_, _, ⟨rfl, rfl⟩, hc, hj⟩
      exact ⟨fun _ h => h ▸ hc, by omega⟩
    · rintro ⟨hc, hj⟩
      exact ⟨c, t, ⟨rfl, rfl⟩, hc c rfl, by omega⟩

end Parts

/-- Where a keyword is matched: behind a blank, or at the very beginning of the text. The match takes the
blank behind the keyword as well. -/
theorem matchesAt_keyword {pre s : List Char} {j : Nat} :
    keywordCode.MatchesAt (pre ++ s).toArray pre.length j ↔
      ∃ lead t k rest, s = lead ++ t ∧
        (lead = [] ∧ pre = [] ∨ ∃ c, lead = [c] ∧ Text.isBlank c = true) ∧
        Heads t k rest ∧ (pre ++ s).length = j + rest.tail.length := by
  have hfree : keywordRegex.loopFree = true := by decide
  rw [keywordCode, matchesAt_compile hfree]
  constructor
  · rintro ⟨_, hlead, _, hword, htail⟩
    obtain ⟨lead, t, rfl, hfirst, rfl⟩ := spans_lead.1 hlead
    rw [← List.append_assoc] at hword htail
    obtain ⟨k, rest, rfl, rfl⟩ := spans_word.1 hword
    rw [← List.append_assoc] at htail
    obtain ⟨hblank, hj⟩ := spans_tail.1 htail
    exact ⟨lead, _, k, rest, rfl, hfirst, ⟨rfl, hblank⟩, by simpa only [List.append_assoc] using hj⟩
  · rintro ⟨lead, _, k, rest, rfl, hfirst, ⟨rfl, hblank⟩, hj⟩
    refine ⟨_, spans_lead.2 ⟨lead, _, rfl, hfirst, rfl⟩, (pre ++ lead ++ k.word).length, ?_, ?_⟩
    · rw [← List.append_assoc]
      exact spans_word.2 ⟨k, rest, rfl, rfl⟩
    · rw [← List.append_assoc, ← List.append_assoc]
      exact spans_tail.2 ⟨hblank, by simpa only [List.append_assoc] using hj⟩

theorem sound_keywordCode : keywordCode.Sound := sound_compile (by decide)

end Segment

end Moderation
