import Moderation.Proofs.Regex.Compile
import Moderation.Proofs.Regex.Find

namespace Moderation.Regex

def occurrences (s : List Char) (pos : Nat) : List Char → List Span
  | [] => []
  | c :: rest =>
    if s <+: c :: rest then
      ⟨pos, pos + s.length⟩ :: occurrences s (pos + s.length) (rest.drop (s.length - 1))
    else occurrences s (pos + 1) rest
termination_by text => text.length

theorem drop_of_append_eq_cons {s t rest : List Char} {c : Char} (hs : s ≠ []) (h : s ++ t = c :: rest) :
    rest.drop (s.length - 1) = t := by
  cases s with
  | nil => exact absurd rfl hs
  | cons d s =>
    obtain ⟨-, rfl⟩ := List.cons.inj h
    exact List.drop_left

theorem loopFree_literal (s : List Char) : (literal s).loopFree = true := by
  have hsequence : ∀ rs : List Regex, (∀ r ∈ rs, r.loopFree = true) → (sequence rs).loopFree = true := by
    intro rs h
    induction rs with
    | nil => rfl
    | cons r rest ih =>
      have hrest := ih fun r' hr' => h r' (List.mem_cons_of_mem _ hr')
      cases rest with
      | nil => exact h r List.mem_cons_self
      | cons r' rest =>
        rw [sequence, loopFree, h r List.mem_cons_self, hrest]
        · rfl
        · exact List.cons_ne_nil _ _
  refine hsequence _ fun r hr => ?_
  obtain ⟨c, -, rfl⟩ := List.mem_map.1 hr
  rfl

section Search

variable {s : List Char}

theorem matchesAt_literal {text : Array Char} {i j : Nat} :
    (compile (literal s)).MatchesAt text i j ↔ s <+: text.toList.drop i ∧ i + s.length = j := by
  rw [matchesAt_compile (loopFree_literal s), spans_literal]

theorem sound_literal (s : List Char) : (compile (literal s)).Sound := sound_compile (loopFree_literal s)

theorem Scan.cons {code : Code} {text : Array Char} {start : Nat} {spans : List Span}
    (h : Scan code text (start + 1) spans) (hstart : ∀ j, ¬code.MatchesAt text start j) :
    Scan code text start spans := by
  cases h with
  | done hmiss => exact .done (hmiss.cons hstart)
  | found hle hmiss hmatch hlt hstop hrest =>
    exact .found (Nat.le_of_succ_le hle) (hmiss.cons hstart) hmatch hlt hstop hrest

theorem not_matchesAt_literal (pre : List Char) {rest : List Char} (h : ¬s <+: rest) (j : Nat) :
    ¬(compile (literal s)).MatchesAt (pre ++ rest).toArray pre.length j := by
  rw [matchesAt_literal, List.drop_left]
  exact fun hmatch => h hmatch.1

theorem scan_occurrences (hs : s ≠ []) (pos : Nat) (rest : List Char) {pre : List Char}
    (hpre : pre.length = pos) :
    Scan (compile (literal s)) (pre ++ rest).toArray pos (occurrences s pos rest) := by
  fun_induction occurrences s pos rest generalizing pre with
  | case1 pos =>
    subst hpre
    have hend := not_matchesAt_literal pre fun h => hs (List.prefix_nil.1 h)
    rw [List.append_nil] at hend ⊢
    exact .done ((Code.misses_self _ _ _).snoc hend)
  | case2 pos c rest hprefix ih =>
    subst hpre
    obtain ⟨t, ht⟩ := hprefix
    rw [drop_of_append_eq_cons hs ht] at ih ⊢
    have hscan := @ih (pre ++ s) List.length_append
    rw [List.append_assoc, ht] at hscan
    refine .found (Nat.le_refl _) (Code.misses_self _ _ _) (fun j => ?_) ?_ ?_ hscan
    · rw [matchesAt_literal, List.drop_left, and_iff_right ⟨t, ht⟩, eq_comm]
    · exact Nat.lt_add_of_pos_right (List.length_pos_iff.2 hs)
    · rw [← ht, List.size_toArray, List.length_append, List.length_append]
      exact Nat.add_le_add_left (Nat.le_add_right _ _) _
  | case3 pos c rest hprefix ih =>
    subst hpre
    have hscan := @ih (pre ++ [c]) List.length_append
    rw [← List.append_cons] at hscan
    exact hscan.cons (not_matchesAt_literal pre hprefix)

theorem findAll_literal (hs : s ≠ []) (text : List Char) :
    (compile (literal s)).findAll text.toArray = occurrences s 0 text :=
  findAll_of_scan (sound_literal s) (scan_occurrences hs 0 text (List.length_nil))

theorem matches_literal (text : List Char) :
    (compile (literal s)).matches text.toArray = true ↔ s <:+: text := by
  rw [Code.matches]
  constructor
  · intro h
    obtain ⟨span, hspan⟩ := Option.isSome_iff_exists.1 h
    have hmatch := (findAt_some (sound_literal s) hspan).2.2.1
    exact (matchesAt_literal.1 hmatch).1.isInfix.trans (List.drop_suffix _ _).isInfix
  · rintro ⟨pre, rest, rfl⟩
    by_contra hnone
    have hmiss := findAt_none (sound_literal s) (Option.not_isSome_iff_eq_none.1 hnone)
    refine hmiss pre.length (Nat.zero_le _) ?_ _ (matchesAt_literal.2 ⟨?_, rfl⟩)
    · simp only [List.size_toArray, List.length_append]
      omega
    · rw [List.append_assoc, List.drop_left]
      exact List.prefix_append _ _

end Search

end Moderation.Regex
