import Moderation.Proofs.Regex.Find
import Moderation.Proofs.Rule.Keyword
import Moderation.Proofs.Text.Fields

/-!
Which words are read as keywords. A keyword that is read takes the blank behind it along; so a word with no other
blank before it is not looked at, whatever it is. Every other word is read as a keyword if it is one.
-/

namespace Moderation

open Regex
open Text (Field fields fieldsText)

namespace Keyword

def ofWord? (w : List Char) : Option Keyword :=
  if w = andThenWord then some .andThen else if w = exceptForWord then some .exceptFor else none

theorem ofWord?_eq_some_iff {w : List Char} {k : Keyword} : ofWord? w = some k ↔ w = k.word := by
  unfold ofWord?
  split
  · rename_i h
    subst h
    cases k <;> simp [word, andThenWord, exceptForWord]
  · rename_i h
    split
    · rename_i h'
      subst h'
      cases k <;> simp [word, andThenWord, exceptForWord]
    · rename_i h'
      cases k <;> simp [word, h, h']

def field (k : Keyword) (c : Char) (hc : Text.isBlank c = true) : Field :=
  ⟨c, hc, ⟨k.word, fun _ h => not_isBlank h⟩⟩

theorem fields_word (k : Keyword) {c : Char} (hc : Text.isBlank c = true) : fields (c :: k.word) = [k.field c hc] := by
  rw [fields, Text.cut_blank hc, Text.cut_of_forall fun _ h => not_isBlank h, field]

end Keyword

namespace Segment

section Matches

variable {pre after : List Char}

theorem not_matchesAt_word (hpre : pre ≠ []) {s : List Char} (hs : ∀ c ∈ s.head?, Text.isBlank c = false)
    (j : Nat) : ¬keywordCode.MatchesAt (pre ++ s).toArray pre.length j := by
  rw [matchesAt_keyword]
  rintro ⟨lead, t, k, rest, rfl, ⟨-, rfl⟩ | ⟨c, rfl, hc⟩, -, -⟩
  · exact hpre rfl
  · rw [hs c rfl] at hc
    cases hc

theorem not_matchesAt_stop {j : Nat} : ¬keywordCode.MatchesAt pre.toArray pre.length j := by
  intro h
  have hstop : keywordCode.MatchesAt (pre ++ []).toArray pre.length j := by rwa [List.append_nil]
  obtain ⟨lead, t, k, rest, hs, -, hheads, -⟩ := matchesAt_keyword.1 hstop
  obtain ⟨c, t', rfl, -⟩ := hheads.not_isBlank
  cases lead <;> cases hs

theorem heads_iff {w : List Char} (hw : ∀ c ∈ w, Text.isBlank c = false)
    (hafter : ∀ c ∈ after.head?, Text.isBlank c = true) {k : Keyword} {rest : List Char} :
    Heads (w ++ after) k rest ↔ w = k.word ∧ rest = after := by
  constructor
  · intro h
    have hword := Text.firstWord_append hw hafter
    rw [h.eq, Text.firstWord_append (fun _ hc => Keyword.not_isBlank hc) h.blank] at hword
    refine ⟨hword.symm, ?_⟩
    have heq := h.eq
    rw [hword, List.append_cancel_left_eq] at heq
    exact heq.symm
  · rintro ⟨rfl, rfl⟩
    exact ⟨rfl, hafter⟩

theorem matchesAt_field (pre : List Char) (f : Field) (hafter : ∀ c ∈ after.head?, Text.isBlank c = true) {j : Nat} :
    keywordCode.MatchesAt (pre ++ (f.text ++ after)).toArray pre.length j ↔
      ∃ k, Keyword.ofWord? f.word.chars = some k ∧
        (pre ++ (f.text ++ after)).length = j + after.tail.length := by
  rw [matchesAt_keyword]
  constructor
  · rintro ⟨lead, t, k, rest, hs, hlead, hheads, hj⟩
    rcases hlead with ⟨rfl, -⟩ | ⟨c, rfl, -⟩
    · obtain ⟨c, t', ht, hc⟩ := hheads.not_isBlank
      rw [List.nil_append, ht] at hs
      obtain rfl := (List.cons.inj hs).1
      rw [f.isBlank] at hc
      cases hc
    · obtain rfl : f.word.chars ++ after = t := (List.cons.inj hs).2
      obtain ⟨hword, rfl⟩ := (heads_iff f.word.noBlank hafter).1 hheads
      exact ⟨k, Keyword.ofWord?_eq_some_iff.2 hword, hj⟩
  · rintro ⟨k, hword, hj⟩
    exact ⟨[f.blank], f.word.chars ++ after, k, after, rfl, .inr ⟨_, rfl, f.isBlank⟩,
      (heads_iff f.word.noBlank hafter).2 ⟨Keyword.ofWord?_eq_some_iff.1 hword, rfl⟩, hj⟩

theorem misses_inside (pre : List Char) (f : Field) (after : List Char) :
    keywordCode.Misses (pre ++ (f.text ++ after)).toArray (pre.length + 1) (pre.length + f.text.length) := by
  intro i hi hlt j
  obtain ⟨n, rfl⟩ := Nat.exists_eq_add_of_le hi
  have hn : n < f.word.chars.length := by
    rw [Field.text, List.length_cons] at hlt
    omega
  have htext : pre ++ (f.text ++ after) =
      (pre ++ f.blank :: f.word.chars.take n) ++ (f.word.chars.drop n ++ after) := by
    rw [List.append_assoc, List.cons_append, ← List.append_assoc (List.take n _), List.take_append_drop]
    rfl
  have hlength : (pre ++ f.blank :: f.word.chars.take n).length = pre.length + 1 + n := by
    rw [List.length_append, List.length_cons, List.length_take]
    omega
  have hne : pre ++ f.blank :: f.word.chars.take n ≠ [] := List.append_ne_nil_of_right_ne_nil _ (List.cons_ne_nil _ _)
  rw [htext, ← hlength]
  refine not_matchesAt_word hne (fun c hc => ?_) j
  rw [List.drop_eq_getElem_cons hn, List.cons_append, List.head?_cons, Option.mem_some_iff] at hc
  exact hc ▸ f.word.noBlank _ (List.getElem_mem hn)

end Matches

/-- The keyword of a field, unless the blank of the field is already taken. -/
def keyword? (taken : Bool) (f : Field) : Option Keyword := if taken then none else Keyword.ofWord? f.word.chars

theorem word_of_keyword? {taken : Bool} {f : Field} {k : Keyword} (h : keyword? taken f = some k) :
    f.word.chars = k.word := by
  cases taken with
  | true => cases h
  | false => exact Keyword.ofWord?_eq_some_iff.1 h

theorem keyword?_field (k : Keyword) {c : Char} (hc : Text.isBlank c = true) : keyword? false (k.field c hc) = some k :=
  Keyword.ofWord?_eq_some_iff.2 rfl

def overlap : List Field → Nat
  | [] => 0
  | _ :: _ => 1

def stretches (taken : Bool) (start : Nat) : List Field → List Span
  | [] => []
  | f :: fs =>
    if (keyword? taken f).isSome then
      ⟨start, start + f.text.length + overlap fs⟩ :: stretches true (start + f.text.length) fs
    else stretches false (start + f.text.length) fs

theorem length_fieldsText (fs : List Field) :
    (fieldsText fs).length = (fieldsText fs).tail.length + overlap fs := by
  cases fs with
  | nil => rfl
  | cons f fs =>
    rw [Text.fieldsText_cons, Field.text, List.cons_append, List.length_cons]
    rfl

theorem scan_fields (taken : Bool) (pre : List Char) (fs : List Field) :
    Scan keywordCode (pre ++ fieldsText fs).toArray (pre.length + if taken then overlap fs else 0)
      (stretches taken pre.length fs) := by
  -- The search stands at the blank of the first field, or behind it if a keyword has taken that blank.
  induction fs generalizing taken pre with
  | nil =>
    have hmiss := (Code.misses_self keywordCode pre.toArray pre.length).snoc fun _ => not_matchesAt_stop
    have htext : pre ++ fieldsText [] = pre := List.append_nil _
    rw [htext]
    cases taken <;> exact .done hmiss
  | cons f fs ih =>
    have htext : pre ++ fieldsText (f :: fs) = pre ++ f.text ++ fieldsText fs := by
      rw [Text.fieldsText_cons, List.append_assoc]
    have hlength : (pre ++ f.text).length = pre.length + f.text.length := List.length_append
    have hpos : 1 ≤ f.text.length := by
      rw [Field.text, List.length_cons]
      omega
    have hinside := misses_inside pre f (fieldsText fs)
    have hmatches := fun j : Nat => matchesAt_field pre f (Text.isBlank_head_fieldsText fs) (j := j)
    rw [← List.append_assoc, ← htext] at hinside hmatches
    have hrest := fun taken => ih taken (pre ++ f.text)
    rw [← htext, hlength] at hrest
    cases hkeyword : (keyword? taken f).isSome with
    | true =>
      rw [stretches, if_pos hkeyword]
      obtain ⟨k, hk⟩ := Option.isSome_iff_exists.1 hkeyword
      obtain rfl : taken = false := by
        cases taken with
        | true => cases hk
        | false => rfl
      have hoverlap := length_fieldsText fs
      have hsize : (pre ++ fieldsText (f :: fs)).length =
          pre.length + f.text.length + (fieldsText fs).length := by
        rw [htext, List.length_append, hlength]
      refine .found (Nat.le_refl _) (Code.misses_self _ _ _) (fun j => ?_) ?_ ?_ (hrest true)
      · rw [hmatches, hsize]
        constructor
        · rintro ⟨-, -, hj⟩
          dsimp only
          omega
        · rintro rfl
          exact ⟨k, hk, by dsimp only; omega⟩
      · dsimp only
        omega
      · rw [List.size_toArray, hsize]
        dsimp only
        omega
    | false =>
      rw [stretches, if_neg (Bool.eq_false_iff.1 hkeyword)]
      refine (hrest false).extend (by cases taken <;> simp [overlap]; omega) ?_
      cases taken with
      | true => exact hinside
      | false =>
        refine hinside.cons fun j hj => ?_
        obtain ⟨k, hk, -⟩ := (hmatches j).1 hj
        exact Bool.eq_false_iff.1 hkeyword (Option.isSome_iff_exists.2 ⟨k, hk⟩)

/-- The text before the first keyword and the segments. If keywords claim the blank behind them, the word behind that
blank is not read as a keyword. -/
def gather (claims : Bool) : Bool → List Field → List Char × List Segment
  | _, [] => ([], [])
  | taken, f :: fs =>
    match keyword? taken f with
    | some k => ([], ⟨k, Text.trim (gather claims claims fs).1⟩ :: (gather claims claims fs).2)
    | none => (f.text ++ (gather claims false fs).1, (gather claims false fs).2)

section Gather

variable {taken : Bool} {f : Field} {fs : List Field} {k : Keyword}

theorem gather_keyword (claims : Bool) (h : keyword? taken f = some k) (fs : List Field) :
    gather claims taken (f :: fs) =
      ([], ⟨k, Text.trim (gather claims claims fs).1⟩ :: (gather claims claims fs).2) := by
  rw [gather, h]

theorem gather_word (claims : Bool) (h : keyword? taken f = none) (fs : List Field) :
    gather claims taken (f :: fs) = (f.text ++ (gather claims false fs).1, (gather claims false fs).2) := by
  rw [gather, h]

theorem gather_isPrefix (claims taken : Bool) (fs : List Field) : (gather claims taken fs).1 <+: fieldsText fs := by
  induction fs generalizing taken with
  | nil => exact List.prefix_rfl
  | cons f fs ih =>
    cases h : keyword? taken f with
    | some k =>
      rw [gather_keyword claims h]
      exact List.nil_prefix
    | none =>
      rw [gather_word claims h, Text.fieldsText_cons]
      exact (List.prefix_append_right_inj _).2 (ih false)

theorem head?_stretches (taken : Bool) (start : Nat) (fs : List Field) :
    ((stretches taken start fs).head?.map (·.start)).getD (start + (fieldsText fs).length) =
      start + (gather true taken fs).1.length := by
  induction fs generalizing taken start with
  | nil => rfl
  | cons f fs ih =>
    cases h : keyword? taken f with
    | some k =>
      rw [stretches, h, gather_keyword true h]
      rfl
    | none =>
      have hlength : start + (fieldsText (f :: fs)).length =
          start + f.text.length + (fieldsText fs).length := by
        rw [Text.fieldsText_cons, List.length_append, Nat.add_assoc]
      rw [stretches, h, gather_word true h, hlength, List.length_append, ← Nat.add_assoc]
      exact ih false (start + f.text.length)

theorem slice_append (a b c : List Char) : slice (a ++ b ++ c) a.length (a ++ b).length = b := by
  rw [slice, List.append_assoc, List.drop_left, List.length_append, Nat.add_sub_cancel_left,
    List.take_left]

theorem trim_field (f : Field) (fs : List Field) :
    Text.trim (f.text ++ (fieldsText fs).take (overlap fs)) = f.word.chars := by
  have hblanks : ∀ c ∈ (fieldsText fs).take (overlap fs), Text.isBlank c = true := by
    cases fs with
    | nil => exact fun _ h => by cases h
    | cons g fs => exact fun c hc => List.mem_singleton.1 hc ▸ g.isBlank
  have hlead : ∀ c ∈ [f.blank], Text.isBlank c = true := fun c hc => List.mem_singleton.1 hc ▸ f.isBlank
  rw [Text.trim_append_blanks hblanks]
  exact (Text.trim_blanks_append hlead).trans (Text.trim_of_forall f.word.noBlank)

variable (pre : List Char)

theorem slice_stretch (f : Field) (fs : List Field) :
    slice (pre ++ fieldsText (f :: fs)) pre.length (pre.length + f.text.length + overlap fs) =
      f.text ++ (fieldsText fs).take (overlap fs) := by
  have hoverlap := length_fieldsText fs
  have hlength : (pre ++ (f.text ++ (fieldsText fs).take (overlap fs))).length =
      pre.length + f.text.length + overlap fs := by
    simp only [List.length_append, List.length_take]
    omega
  have htext : pre ++ fieldsText (f :: fs) =
      pre ++ (f.text ++ (fieldsText fs).take (overlap fs)) ++ (fieldsText fs).drop (overlap fs) := by
    rw [Text.fieldsText_cons, List.append_assoc, List.append_assoc, List.take_append_drop]
  rw [htext, ← hlength, slice_append]

theorem keywordAt_stretch (h : keyword? taken f = some k) (fs : List Field) :
    keywordAt (pre ++ fieldsText (f :: fs)) ⟨pre.length, pre.length + f.text.length + overlap fs⟩ = k := by
  rw [keywordAt, slice_stretch, trim_field, word_of_keyword? h]
  cases k <;> decide

theorem keywordStop_stretch (h : keyword? taken f = some k) (fs : List Field) :
    keywordStop (pre ++ fieldsText (f :: fs)) ⟨pre.length, pre.length + f.text.length + overlap fs⟩ =
      (pre ++ f.text).length := by
  rw [keywordStop, slice_stretch, List.length_append]
  cases fs with
  | nil =>
    obtain ⟨c, hc⟩ := Option.ne_none_iff_exists'.1 (mt List.getLast?_eq_none_iff.1 k.word_ne_nil)
    have hlast : (f.text ++ (fieldsText []).take (overlap [])).getLast? = some c := by
      have htext : f.text ++ (fieldsText []).take (overlap []) = f.blank :: k.word :=
        (List.append_nil _).trans (congrArg (f.blank :: ·) (word_of_keyword? h))
      rw [htext, List.getLast?_cons, hc, Option.getD_some]
    rw [hlast, Option.any_some, Keyword.not_isBlank (List.mem_of_getLast? hc)]
    rfl
  | cons g fs =>
    have hlast : (f.text ++ (fieldsText (g :: fs)).take (overlap (g :: fs))).getLast? = some g.blank :=
      List.getLast?_concat
    rw [hlast, Option.any_some, g.isBlank]
    rfl

theorem ofSpans_stretches (taken : Bool) (fs : List Field) :
    ofSpans (pre ++ fieldsText fs) (stretches taken pre.length fs) = (gather true taken fs).2 := by
  induction fs generalizing taken pre with
  | nil => rfl
  | cons f fs ih =>
    have htext : pre ++ fieldsText (f :: fs) = pre ++ f.text ++ fieldsText fs := by
      rw [Text.fieldsText_cons, List.append_assoc]
    have hlength : (pre ++ f.text).length = pre.length + f.text.length := List.length_append
    have hrest := fun taken => ih (pre ++ f.text) taken
    rw [← htext, hlength] at hrest
    cases h : keyword? taken f with
    | none =>
      rw [stretches, h, gather_word true h]
      exact hrest false
    | some k =>
      obtain ⟨behind, hbehind⟩ := gather_isPrefix true true fs
      have hstop := head?_stretches true (pre ++ f.text).length fs
      have hsize : (pre ++ f.text).length + (fieldsText fs).length = (pre ++ fieldsText (f :: fs)).length := by
        rw [htext]
        exact List.length_append.symm
      rw [hsize, ← List.length_append, hlength] at hstop
      rw [stretches, h, gather_keyword true h, Option.isSome_some, if_pos rfl, ofSpans, hrest true,
        keywordAt_stretch pre h, keywordStop_stretch pre h, hstop]
      dsimp only
      rw [htext, ← hbehind, ← List.append_assoc, slice_append]

end Gather

def divide (claims : Bool) (text : List Char) : Except RuleFault (List Segment) :=
  let stray := Text.trim (gather claims false (fields text)).1
  if stray.isEmpty then .ok (gather claims false (fields text)).2
  else .error (.form (.strayText (String.ofList stray)))

theorem split_eq_divide {text : List Char} (h : ∀ c ∈ text.head?, Text.isBlank c = true) :
    split text = divide true text := by
  have htext := Text.fieldsText_fields h
  obtain ⟨fs, hfs⟩ : ∃ fs, fs = fields text := ⟨_, rfl⟩
  rw [← hfs] at htext
  have hscan := scan_fields false [] fs
  have hspans := findAll_of_scan sound_keywordCode hscan
  have hsegments := ofSpans_stretches [] false fs
  have hbefore := head?_stretches false 0 fs
  obtain ⟨behind, hbehind⟩ := gather_isPrefix true false fs
  rw [List.nil_append, htext] at hspans hsegments
  rw [Nat.zero_add, Nat.zero_add, htext] at hbefore
  have htake : text.take (gather true false fs).1.length = (gather true false fs).1 := by
    rw [← htext, ← hbehind, List.take_left]
  rw [split, hspans, divide, ← hfs]
  rw [List.length_nil] at hsegments ⊢
  rw [hbefore, hsegments, htake]

section Spread

def Apart (w w' : List Char) : Prop :=
  (Keyword.ofWord? w).isSome = true → (Keyword.ofWord? w').isSome = false

instance (w w' : List Char) : Decidable (Apart w w') := inferInstanceAs (Decidable (_ → _))

def Spread (text : List Char) : Prop := (text.splitOnP Text.isBlank).IsChain Apart

instance (text : List Char) : Decidable (Spread text) := inferInstanceAs (Decidable (List.IsChain _ _))

def keywordsIn (text : List Char) : List Keyword := (text.splitOnP Text.isBlank).filterMap Keyword.ofWord?

theorem keywords_sublist (claims taken : Bool) (fs : List Field) :
    ((gather claims taken fs).2.map (·.keyword)).Sublist (fs.filterMap (keyword? false)) := by
  induction fs generalizing taken with
  | nil => exact .slnil
  | cons f fs ih =>
    rw [List.filterMap_cons]
    cases h : keyword? taken f with
    | some k =>
      have hword : keyword? false f = some k := by
        cases taken with
        | true => cases h
        | false => exact h
      rw [gather_keyword claims h, hword]
      exact (ih claims).cons_cons k
    | none =>
      rw [gather_word claims h]
      split
      · exact ih false
      · exact (ih false).cons _

theorem keywords_of_not_claims (fs : List Field) :
    (gather false false fs).2.map (·.keyword) = fs.filterMap (keyword? false) := by
  induction fs with
  | nil => rfl
  | cons f fs ih =>
    rw [List.filterMap_cons]
    cases h : keyword? false f with
    | some k =>
      rw [gather_keyword false h, List.map_cons, ih]
    | none =>
      rw [gather_word false h, ih]

theorem keywords_eq_iff (w : List Char) (fs : List Field) :
    (gather true (Keyword.ofWord? w).isSome fs).2.map (·.keyword) = fs.filterMap (keyword? false) ↔
      (w :: fs.map (·.word.chars)).IsChain Apart := by
  -- `w` is the word before the fields: if it is a keyword, it has taken the first blank.
  induction fs generalizing w with
  | nil => simp [gather]
  | cons f fs ih =>
    rw [List.map_cons, List.isChain_cons_cons, ← ih f.word.chars, List.filterMap_cons]
    cases hf : keyword? false f with
    | none =>
      have hnone : keyword? (Keyword.ofWord? w).isSome f = none := by
        cases (Keyword.ofWord? w).isSome with
        | true => rfl
        | false => exact hf
      have hword : (Keyword.ofWord? f.word.chars).isSome = false := congrArg Option.isSome hf
      rw [gather_word true hnone, hword]
      exact ⟨fun h => ⟨fun _ => hword, h⟩, fun h => h.2⟩
    | some k =>
      have hword : (Keyword.ofWord? f.word.chars).isSome = true := congrArg Option.isSome hf
      rw [hword]
      cases hw : (Keyword.ofWord? w).isSome with
      | false =>
        rw [gather_keyword true hf, List.map_cons, List.cons_inj_right]
        exact ⟨fun h => ⟨fun h' => absurd h' (by rw [hw]; exact Bool.false_ne_true), h⟩, fun h => h.2⟩
      | true =>
        -- The keyword is passed over, and so one keyword too few is read.
        have hnone : keyword? true f = none := rfl
        rw [gather_word true hnone]
        constructor
        · intro h
          have hlength := (keywords_sublist true false fs).length_le
          rw [h, List.length_cons] at hlength
          exact absurd hlength (Nat.not_succ_le_self _)
        · intro h
          rw [h.1 hw] at hword
          cases hword

theorem gather_eq_of_apart (w : List Char) (fs : List Field)
    (h : (w :: fs.map (·.word.chars)).IsChain Apart) :
    gather true (Keyword.ofWord? w).isSome fs = gather false false fs := by
  induction fs generalizing w with
  | nil => rfl
  | cons f fs ih =>
    rw [List.map_cons, List.isChain_cons_cons] at h
    have hrest := ih f.word.chars h.2
    cases hf : keyword? false f with
    | none =>
      have hnone : keyword? (Keyword.ofWord? w).isSome f = none := by
        cases (Keyword.ofWord? w).isSome with
        | true => rfl
        | false => exact hf
      have hword : (Keyword.ofWord? f.word.chars).isSome = false := congrArg Option.isSome hf
      rw [hword] at hrest
      rw [gather_word true hnone, gather_word false hf, hrest]
    | some k =>
      have hword : (Keyword.ofWord? f.word.chars).isSome = true := congrArg Option.isSome hf
      have hw : (Keyword.ofWord? w).isSome = false := by
        cases hw : (Keyword.ofWord? w).isSome with
        | false => rfl
        | true => rw [h.1 hw] at hword; cases hword
      rw [hword] at hrest
      rw [hw, gather_keyword true hf, gather_keyword false hf, hrest]

section Texts

variable {text : List Char} (h : ∀ c ∈ text.head?, Text.isBlank c = true)

include h

theorem splitOnP_behind : text.splitOnP Text.isBlank = [] :: (fields text).map (·.word.chars) := by
  rw [Text.splitOnP_isBlank]
  cases text with
  | nil => rfl
  | cons c s => rw [Text.cut_blank (h c rfl)]; rfl

theorem keywordsIn_eq : keywordsIn text = (fields text).filterMap (keyword? false) := by
  rw [keywordsIn, splitOnP_behind h, List.filterMap_cons, List.filterMap_map]
  rfl

theorem split_of_spread (hspread : Spread text) : split text = divide false text := by
  rw [Spread, splitOnP_behind h] at hspread
  have hgather : gather true false (fields text) = gather false false (fields text) :=
    gather_eq_of_apart [] (fields text) hspread
  rw [split_eq_divide h, divide, divide, hgather]

theorem keywords_of_split {segments : List Segment} (hsplit : split text = .ok segments) :
    segments.map (·.keyword) = keywordsIn text ↔ Spread text := by
  rw [split_eq_divide h, divide] at hsplit
  split at hsplit
  · obtain rfl := Except.ok.inj hsplit
    rw [keywordsIn_eq h, Spread, splitOnP_behind h]
    exact keywords_eq_iff [] (fields text)
  · cases hsplit

end Texts

end Spread

end Segment

end Moderation
