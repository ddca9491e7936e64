import Moderation.Proofs.Rule.Recognition
import Moderation.Proofs.Rule.Written

namespace Moderation

open Text (Field fields fieldsText)

namespace Segment

structure Gap (gap : List Char) : Prop where
  ne_nil : gap ≠ []
  blank : ∀ c ∈ gap, Text.isBlank c = true

theorem Gap.head {gap : List Char} (h : Gap gap) (s : List Char) : ∀ c ∈ (gap ++ s).head?, Text.isBlank c = true := by
  obtain ⟨hne, hblank⟩ := h
  cases gap with
  | nil => exact absurd rfl hne
  | cons c gap => exact fun d hd => hblank d (by rw [← Option.some.inj hd]; simp)

def MeetAtKeyword (before behind : List Char) : Prop :=
  (∃ k rest, Heads behind k rest) ∨ ∃ s c k, before = s ++ c :: Keyword.word k ∧ Text.isBlank c = true

def lead (s : List Char) : List Char × List Segment :=
  match Keyword.ofWord? (Text.cut s).1.chars with
  | some k => ([], ⟨k, Text.trim (gather false false (fields s)).1⟩ :: (gather false false (fields s)).2)
  | none => ((Text.cut s).1.chars ++ (gather false false (fields s)).1, (gather false false (fields s)).2)

theorem gather_gap {gap : List Char} (h : Gap gap) (s : List Char) :
    ∃ blanks, (∀ c ∈ blanks, Text.isBlank c = true) ∧
      gather false false (fields (gap ++ s)) = (blanks ++ (lead s).1, (lead s).2) := by
  obtain ⟨hne, hblank⟩ := h
  induction gap with
  | nil => exact absurd rfl hne
  | cons c gap ih =>
    have hc := hblank c List.mem_cons_self
    have hfields : fields (c :: gap ++ s) = ⟨c, hc, (Text.cut (gap ++ s)).1⟩ :: fields (gap ++ s) :=
      congrArg Prod.snd (Text.cut_blank hc (gap ++ s))
    rw [hfields]
    cases gap with
    | nil =>
      rw [List.nil_append]
      cases hword : Keyword.ofWord? (Text.cut s).1.chars with
      | some k =>
        have hkeyword : keyword? false ⟨c, hc, (Text.cut s).1⟩ = some k := hword
        refine ⟨[], fun _ h => (by cases h), ?_⟩
        rw [gather_keyword false hkeyword, lead, hword]
        rfl
      | none =>
        have hkeyword : keyword? false ⟨c, hc, (Text.cut s).1⟩ = none := hword
        refine ⟨[c], fun x hx => List.mem_singleton.1 hx ▸ hc, ?_⟩
        rw [gather_word false hkeyword, lead, hword]
        rfl
    | cons d gap =>
      obtain ⟨blanks, hblanks, heq⟩ := ih (List.cons_ne_nil _ _) fun x hx => hblank x (List.mem_cons_of_mem _ hx)
      have hword : (Text.cut (d :: gap ++ s)).1 = .empty :=
        congrArg Prod.fst (Text.cut_blank (hblank d (by simp)) (gap ++ s))
      rw [hword, gather_word false rfl, heq]
      exact ⟨c :: blanks, fun x hx => (List.mem_cons.1 hx).elim (· ▸ hc) (hblanks x), rfl⟩

structure Alike (p q : List Char × List Segment) : Prop where
  text : ∃ s blanks blanks', p.1 = s ++ blanks ∧ q.1 = s ++ blanks' ∧
    (∀ c ∈ blanks, Text.isBlank c = true) ∧ ∀ c ∈ blanks', Text.isBlank c = true
  segments : p.2 = q.2

variable {p q : List Char × List Segment}

theorem Alike.of_eq (h : p = q) : Alike p q :=
  h ▸ ⟨⟨p.1, [], [], by simp⟩, rfl⟩

theorem Alike.trim_eq (h : Alike p q) : Text.trim p.1 = Text.trim q.1 := by
  obtain ⟨⟨s, blanks, blanks', hp, hq, hblanks, hblanks'⟩, -⟩ := h
  rw [hp, hq, Text.trim_append_blanks hblanks, Text.trim_append_blanks hblanks']

theorem alike_gather_append {gs gs' : List Field} (h : Alike (gather false false gs) (gather false false gs'))
    (fs : List Field) : Alike (gather false false (fs ++ gs)) (gather false false (fs ++ gs')) := by
  induction fs with
  | nil => exact h
  | cons f fs ih =>
    rw [List.cons_append, List.cons_append]
    cases hf : keyword? false f with
    | some k =>
      rw [gather_keyword false hf, gather_keyword false hf, ih.trim_eq, ih.segments]
      exact .of_eq rfl
    | none =>
      obtain ⟨⟨s, blanks, blanks', hp, hq, hblanks⟩, hsegments⟩ := ih
      rw [gather_word false hf, gather_word false hf, hp, hq, hsegments]
      exact ⟨⟨f.text ++ s, blanks, blanks', by simp, by simp, hblanks⟩, rfl⟩

variable {before behind gap gap' : List Char}

theorem alike_gather_gap (hmeet : MeetAtKeyword before behind) (hgap : Gap gap) (hgap' : Gap gap') :
    Alike (gather false false (fields (before ++ (gap ++ behind))))
      (gather false false (fields (before ++ (gap' ++ behind)))) := by
  obtain ⟨blanks, hblanks, heq⟩ := gather_gap hgap behind
  obtain ⟨blanks', hblanks', heq'⟩ := gather_gap hgap' behind
  rw [Text.fields_append (hgap.head behind), Text.fields_append (hgap'.head behind)]
  rcases hmeet with ⟨k, rest, hheads⟩ | ⟨s, c, k, rfl, hc⟩
  · refine alike_gather_append ?_ (fields before)
    have hword : Keyword.ofWord? (Text.cut behind).1.chars = some k := by
      rw [hheads.eq, Text.cut_append hheads.blank, Text.cut_of_forall fun c hc => Keyword.not_isBlank hc]
      exact Keyword.ofWord?_eq_some_iff.2 rfl
    have hlead : (lead behind).1 = [] := by rw [lead, hword]
    rw [heq, heq', hlead]
    exact ⟨⟨[], blanks, blanks', by simp, by simp, hblanks, hblanks'⟩, rfl⟩
  · have hblank : ∀ d ∈ (c :: Keyword.word k).head?, Text.isBlank d = true := fun d hd => Option.some.inj hd ▸ hc
    rw [Text.fields_append hblank, k.fields_word hc, List.append_assoc, List.append_assoc]
    refine alike_gather_append (.of_eq ?_) (fields s)
    -- What stands between a keyword and the next one is trimmed on both sides.
    rw [List.singleton_append, List.singleton_append, gather_keyword false (keyword?_field k hc),
      gather_keyword false (keyword?_field k hc), heq, heq', Text.trim_blanks_append hblanks,
      Text.trim_blanks_append hblanks']

theorem keywordsIn_gap (hmeet : MeetAtKeyword before behind) (hgap : Gap gap) (hgap' : Gap gap')
    (h : ∀ c ∈ (before ++ (gap ++ behind)).head?, Text.isBlank c = true)
    (h' : ∀ c ∈ (before ++ (gap' ++ behind)).head?, Text.isBlank c = true) :
    keywordsIn (before ++ (gap ++ behind)) = keywordsIn (before ++ (gap' ++ behind)) := by
  rw [keywordsIn_eq h, keywordsIn_eq h', ← keywords_of_not_claims, ← keywords_of_not_claims,
    (alike_gather_gap hmeet hgap hgap').segments]

theorem divide_gap (hmeet : MeetAtKeyword before behind) (hgap : Gap gap) (hgap' : Gap gap') :
    divide false (before ++ (gap ++ behind)) = divide false (before ++ (gap' ++ behind)) := by
  have halike := alike_gather_gap hmeet hgap hgap'
  rw [divide, divide, halike.trim_eq, halike.segments]

end Segment

namespace Matcher

theorem readBody_front {d : Char} (hd : d ≠ '\\') {l : Bool} {s body after : List Char}
    (h : readBody d l s = some (body, after)) :
    ∃ front, s = front ++ after ∧ ∀ after', readBody d l (front ++ after') = some (body, after') := by
  fun_induction readBody d l s generalizing body with
  | case1 => cases h
  | case2 c rest ih =>
    obtain ⟨⟨body', after'⟩, hrest, heq⟩ := Option.map_eq_some_iff.1 h
    obtain ⟨rfl, rfl⟩ := Prod.mk.inj heq
    obtain ⟨front, rfl, hfront⟩ := ih hrest
    refine ⟨'\\' :: c :: front, rfl, fun after' => ?_⟩
    rw [List.cons_append, List.cons_append, readBody_escaped, hfront]
    rfl
  | case3 c rest hpair hdelimiter =>
    obtain ⟨rfl, rfl⟩ := Prod.mk.inj (Option.some.inj h)
    refine ⟨[c], rfl, fun after' => ?_⟩
    rw [List.singleton_append, readBody_of_ne (eq_of_beq hdelimiter ▸ hd), if_pos hdelimiter]
  | case4 c rest hpair hdelimiter ih =>
    obtain ⟨⟨body', after'⟩, hrest, heq⟩ := Option.map_eq_some_iff.1 h
    obtain ⟨rfl, rfl⟩ := Prod.mk.inj heq
    -- A backslash at the very end would leave the body open.
    have hc : c ≠ '\\' := by
      rintro rfl
      cases rest with
      | nil => cases hrest
      | cons c rest => exact hpair c rest rfl rfl
    obtain ⟨front, rfl, hfront⟩ := ih hrest
    refine ⟨c :: front, rfl, fun after' => ?_⟩
    rw [List.cons_append, readBody_of_ne hc, if_neg hdelimiter, hfront]
    rfl

theorem trimStart_front (s : List Char) :
    ∃ blanks, (∀ c ∈ blanks, Text.isBlank c = true) ∧ s = blanks ++ Text.trimStart s :=
  ⟨s.takeWhile Text.isBlank, fun _ hc => List.mem_takeWhile_imp hc, List.takeWhile_append_dropWhile.symm⟩

theorem trimStart_append {blanks : List Char} (h : ∀ c ∈ blanks, Text.isBlank c = true) {c : Char}
    (hc : Text.isBlank c = false) (s : List Char) : Text.trimStart (blanks ++ c :: s) = c :: s := by
  rw [Text.trimStart, List.dropWhile_append_of_pos h, List.dropWhile_cons_of_neg (by simp [hc])]

theorem readNegation_front {s t : List Char} {negated : Bool} {d : Char} (hd : Text.isBlank d = false)
    (hmark : d ≠ '!') (h : readNegation s = (negated, d :: t)) :
    ∃ front, s = front ++ d :: t ∧ ∀ t', readNegation (front ++ d :: t') = (negated, d :: t') := by
  obtain ⟨blanks, hblanks, hs⟩ := trimStart_front s
  unfold readNegation at h
  split at h
  · rename_i rest htrim
    obtain ⟨rfl, hrest⟩ := Prod.mk.inj h
    obtain ⟨blanks', hblanks', hs'⟩ := trimStart_front rest
    refine ⟨blanks ++ '!' :: blanks', ?_, fun t' => ?_⟩
    · rw [List.append_assoc, List.cons_append, ← hrest, ← hs', ← htrim]
      exact hs
    · rw [readNegation, List.append_assoc, List.cons_append, trimStart_append hblanks rfl]
      exact congrArg (Prod.mk true) (trimStart_append hblanks' hd t')
  · obtain ⟨rfl, htrim⟩ := Prod.mk.inj h
    refine ⟨blanks, by rw [← htrim]; exact hs, fun t' => ?_⟩
    rw [readNegation, trimStart_append hblanks hd]
    split
    · rename_i heq
      exact absurd (List.cons.inj heq).1 hmark
    · rfl

theorem read_front {text rest : List Char} {m : Matcher} (h : read text = .ok (m, rest)) :
    (∀ c ∈ rest.head?, Text.isBlank c = true) ∧ ∃ front, text = front ++ rest ∧
      ∀ rest', (∀ c ∈ rest'.head?, Text.isBlank c = true) → read (front ++ rest') = .ok (m, rest') := by
  obtain ⟨l, d, inner, body, after, hparts⟩ := read_iff.1 h
  have hd := eq_of_readDelimiter hparts.delimiter
  obtain ⟨front, rfl, hfront⟩ := readNegation_front (by rcases hd with rfl | rfl <;> decide)
    (by rcases hd with rfl | rfl <;> decide) hparts.negation
  obtain ⟨middle, rfl, hmiddle⟩ := readBody_front (by rcases hd with rfl | rfl <;> decide) hparts.enclosed
  have hflags := Text.firstWord_append_dropWhile after
  rw [hparts.behind] at hflags
  have hword : ∀ c ∈ Text.firstWord after, Text.isBlank c = false := fun c hc => by
    simpa using List.mem_takeWhile_imp hc
  refine ⟨?_, front ++ d :: (middle ++ Text.firstWord after), ?_, fun rest' hrest' => ?_⟩
  · intro c hc
    have hhead := List.head?_dropWhile_not (fun c => !Text.isBlank c) after
    rw [hparts.behind, hc] at hhead
    simpa using hhead
  · rw [List.append_assoc, List.cons_append, List.append_assoc, hflags]
  · have htext : front ++ d :: (middle ++ Text.firstWord after) ++ rest' =
        front ++ d :: (middle ++ (Text.firstWord after ++ rest')) := by simp
    rw [htext]
    exact read_iff.2 ⟨l, d, _, body, _,
      { negation := hfront _
        delimiter := readDelimiter_cons hparts.delimiter _
        enclosed := hmiddle _
        ne_nil := hparts.ne_nil
        flags := by rw [Text.firstWord_append hword hrest', hparts.flags]
        pattern := hparts.pattern
        behind := Text.dropWhile_append_of_word hword hrest' }⟩

end Matcher

namespace Rule

open Segment

/-- All keywords behind a pattern are read if and only if no two of them have a single blank between them. A line of
which this is true reads the same with any other blanks next to a keyword as long as it stays true; otherwise it is
split into other segments. -/
theorem keywords_read_iff {text rest : List Char} {m : Matcher} (hread : Matcher.read text = .ok (m, rest)) :
    (∀ segments, split rest = .ok segments → (segments.map (·.keyword) = keywordsIn rest ↔ Spread rest)) ∧
    ∃ front, text = front ++ rest ∧
      ∀ before behind gap gap', rest = before ++ (gap ++ behind) → Gap gap → Gap gap' →
        MeetAtKeyword before behind → Spread rest →
        (Spread (before ++ (gap' ++ behind)) → ∀ registry number,
          readText registry number (front ++ (before ++ (gap' ++ behind))) = readText registry number text) ∧
        ∀ segments, split rest = .ok segments →
          (split (before ++ (gap' ++ behind)) = .ok segments ↔ Spread (before ++ (gap' ++ behind))) := by
  obtain ⟨hrest, front, rfl, hfront⟩ := Matcher.read_front hread
  refine ⟨fun segments => keywords_of_split hrest, front, rfl, ?_⟩
  rintro before behind gap gap' rfl hgap hgap' hmeet hspread
  have hrest' : ∀ c ∈ (before ++ (gap' ++ behind)).head?, Text.isBlank c = true := by
    cases before with
    | nil => exact hgap'.head behind
    | cons c before => exact hrest
  have hsplit : split (before ++ (gap ++ behind)) = divide false (before ++ (gap' ++ behind)) :=
    (split_of_spread hrest hspread).trans (divide_gap hmeet hgap hgap')
  refine ⟨fun hspread' registry number => ?_, fun segments hsegments => ?_⟩
  · have hsame : split (before ++ (gap' ++ behind)) = split (before ++ (gap ++ behind)) :=
      (split_of_spread hrest' hspread').trans hsplit.symm
    rw [readText, readText, hread, hfront _ hrest']
    simp only [bind, Except.bind, hsame]
  · constructor
    · intro hsegments'
      rw [← keywords_of_split hrest' hsegments', ← keywordsIn_gap hmeet hgap hgap' hrest hrest']
      exact (keywords_of_split hrest hsegments).2 hspread
    · intro hspread'
      rw [split_of_spread hrest' hspread', ← hsplit, hsegments]

theorem keywords_read_iff_wide : ∃ m,
    Matcher.read "/spam/ then deny unless  then".toList = .ok (m, " then deny unless  then".toList) ∧
    split " then deny unless  then".toList =
      .ok [⟨.andThen, "deny".toList⟩, ⟨.exceptFor, []⟩, ⟨.andThen, []⟩] ∧
    split " then deny unless then".toList = .ok [⟨.andThen, "deny".toList⟩, ⟨.exceptFor, "then".toList⟩] ∧
    ¬Spread " then deny unless then".toList := by
  obtain ⟨m, hm⟩ : ∃ m, Matcher.read "/spam/ then deny unless  then".toList =
      .ok (m, " then deny unless  then".toList) := by
    have hrest : (Matcher.read "/spam/ then deny unless  then".toList).toOption.map Prod.snd =
        some " then deny unless  then".toList := by decide +kernel
    cases hread : Matcher.read "/spam/ then deny unless  then".toList with
    | error fault => rw [hread] at hrest; cases hrest
    | ok x =>
      rw [hread] at hrest
      exact ⟨x.1, congrArg Except.ok (Prod.ext rfl (Option.some.inj hrest))⟩
  obtain ⟨hkeywords, front, -, hgaps⟩ := keywords_read_iff hm
  have hblank : ∀ s : List Char, ∀ c ∈ (' ' :: s).head?, Text.isBlank c = true :=
    fun _ _ hc => Option.some.inj hc ▸ isBlank_space
  have hwide : split " then deny unless  then".toList =
      .ok [⟨.andThen, "deny".toList⟩, ⟨.exceptFor, []⟩, ⟨.andThen, []⟩] :=
    (split_eq_divide (hblank "then deny unless  then".toList)).trans (by decide +kernel)
  have hnarrow : split " then deny unless then".toList =
      .ok [⟨.andThen, "deny".toList⟩, ⟨.exceptFor, "then".toList⟩] :=
    (split_eq_divide (hblank "then deny unless then".toList)).trans (by decide +kernel)
  have hspread := (hkeywords _ hwide).1 (by decide +kernel)
  have hgap := (hgaps " then deny unless".toList "then".toList "  ".toList " ".toList rfl
    ⟨by decide, List.all_eq_true.1 (by decide)⟩ ⟨by decide, List.all_eq_true.1 (by decide)⟩
    (.inl ⟨.andThen, [], rfl, fun _ h => by cases h⟩) hspread).2 _ hwide
  refine ⟨m, hm, hwide, hnarrow, fun h => ?_⟩
  have hsame := hnarrow.symm.trans (hgap.2 h)
  exact absurd hsame (by decide)

end Rule

end Moderation
