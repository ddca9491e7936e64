import Moderation.Pattern

namespace Moderation.Regex

theorem regex_inSequence (rev : List Part) :
    (inSequence rev).regex = sequence (rev.reverse.map Part.regex) := by
  match rev with
  | [] => rfl
  | [p] => rfl
  | p :: q :: rest => rfl

theorem deepest_eq_zero {parts : List Part} (h : ∀ p ∈ parts, p.depth = 0) : deepest parts = 0 := by
  induction parts with
  | nil => rfl
  | cons p rest ih =>
    rw [deepest, List.foldl_cons, h p List.mem_cons_self]
    exact ih fun q hq => h q (List.mem_cons_of_mem _ hq)

theorem depth_inSequence_le {rev : List Part} (h : ∀ p ∈ rev, p.depth = 0) :
    (inSequence rev).depth ≤ 1 := by
  match rev with
  | [] => exact Nat.zero_le _
  | [p] => exact Nat.le_succ_of_le (Nat.le_of_eq (h p List.mem_cons_self))
  | p :: q :: rest => exact Nat.succ_le_succ (Nat.le_of_eq (deepest_eq_zero h))

def literalPart (c : Char) : Part := ⟨.char (.single c), 0, false⟩

theorem readAtom_escaped {c : Char} (hc : isMeta c = true) (rest : List Char) :
    readAtom {} '\\' (c :: rest) = .ok (literalPart c, rest) := by
  have hstands : standsForItself c = true := by rw [standsForItself, hc, Bool.true_or]
  have hprimitive : readPrimitive {} '\\' (c :: rest) = .ok (.char c false, rest) := if_pos hstands
  rw [readAtom, if_neg (by decide), hprimitive]
  rfl

theorem readAtom_plain {c : Char} (hc : isMeta c = false) (rest : List Char) :
    readAtom {} c rest = .ok (literalPart c, rest) := by
  have hprimitive : readPrimitive {} c rest = .ok (.char c false, rest) := by
    unfold readPrimitive
    split <;> first | rfl | cases hc
  have hbracket : ¬(c == '[') = true := by
    rw [beq_iff_eq]
    rintro rfl
    cases hc
  rw [readAtom, if_neg hbracket, hprimitive]
  rfl

def beginsAtom (c : Char) : Bool :=
  c != ')' && c != '|' && c != '(' && c != '?' && c != '*' && c != '+' && c != '\x7B'

theorem beginsAtom_of_plain {c : Char} (hc : isMeta c = false) : beginsAtom c = true := by
  simp only [beginsAtom, Bool.and_eq_true, bne_iff_ne]
  refine ⟨⟨⟨⟨⟨⟨?_, ?_⟩, ?_⟩, ?_⟩, ?_⟩, ?_⟩, ?_⟩
  all_goals
    rintro rfl
    cases hc

theorem readLevel_atom {c : Char} (hc : beginsAtom c = true) {rest rest' : List Char} {p : Part}
    (hatom : readAtom {} c rest = .ok (p, rest')) (fuel : Nat) (level : Level) :
    readLevel (fuel + 1) {} level (c :: rest) = readLevel fuel {} (level.push p) rest' := by
  rw [readLevel]
  simp only [skipSpace, Bool.false_eq_true, if_false]
  split
  case h_9 heq =>
    obtain ⟨rfl, rfl⟩ := List.cons.inj heq
    rw [hatom]
    rfl
  all_goals
    rename_i heq
    cases heq
    try cases hc

theorem readLevel_escape (s : List Char) {fuel : Nat} (hfuel : (escape s).length < fuel) (level : Level)
    (hlevel : level.inside = false) :
    readLevel fuel {} level (escape s) =
      .ok ({ level with parts := (s.map literalPart).reverse ++ level.parts }.close, level.names, []) := by
  induction s generalizing fuel level with
  | nil =>
    match fuel with
    | fuel + 1 =>
      rw [escape, readLevel]
      simp only [skipSpace, Bool.false_eq_true, if_false, hlevel]
      rfl
  | cons c s ih =>
    have hpush : (level.push (literalPart c)).inside = false := hlevel
    have hparts : ((c :: s).map literalPart).reverse ++ level.parts =
        (s.map literalPart).reverse ++ (level.push (literalPart c)).parts := by
      rw [List.map_cons, List.reverse_cons, List.append_assoc]
      rfl
    rw [hparts]
    match fuel with
    | fuel + 1 =>
      rw [escape] at hfuel ⊢
      split at hfuel
      · rename_i hc
        rw [if_pos hc, readLevel_atom (by decide) (readAtom_escaped hc _)]
        exact ih (by simp only [List.length_cons] at hfuel; omega) _ hpush
      · rename_i hc
        have hplain : isMeta c = false := Bool.eq_false_iff.2 hc
        rw [if_neg hc, readLevel_atom (beginsAtom_of_plain hplain) (readAtom_plain hplain _)]
        exact ih (by simpa using hfuel) _ hpush

theorem ofText_escape (s : List Char) : ofText false (escape s) = .ok (literal s) := by
  have hread := readLevel_escape s (Nat.lt_succ_self _) ⟨false, [], [], []⟩ rfl
  rw [List.append_nil] at hread
  have hregex : (inSequence (s.map literalPart).reverse).regex = literal s := by
    rw [regex_inSequence, List.reverse_reverse, List.map_map]
    rfl
  have hdepth : ¬deepestNesting < (inSequence (s.map literalPart).reverse).depth := by
    have hle : (inSequence (s.map literalPart).reverse).depth ≤ 1 := depth_inSequence_le fun p hp => by
      obtain ⟨c, -, rfl⟩ := List.mem_map.1 (List.mem_reverse.1 hp)
      rfl
    exact Nat.not_lt_of_le (Nat.le_trans hle (by decide))
  rw [ofText, hread]
  change (if deepestNesting < (inSequence (s.map literalPart).reverse).depth then _ else _) = _
  rw [if_neg hdepth]
  exact congrArg Except.ok hregex

end Moderation.Regex

namespace Moderation

theorem Pattern.compile_escape {s : List Char}
    (h : Pattern.compile (Regex.escape s) false ≠ .error .tooLarge) :
    Pattern.compile (Regex.escape s) false =
      .ok ⟨String.ofList (Regex.escape s), Regex.compile (.literal s)⟩ := by
  unfold Pattern.compile at h ⊢
  rw [Regex.ofText_escape] at h ⊢
  change (if Regex.weightLimit < (Regex.literal s).weight then _ else _) ≠ _ at h
  change (if Regex.weightLimit < (Regex.literal s).weight then _ else _) = _
  split
  · rename_i hlarge
    rw [if_pos hlarge] at h
    exact absurd rfl h
  · rfl

end Moderation
