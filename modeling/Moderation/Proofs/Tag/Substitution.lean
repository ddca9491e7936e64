import Moderation.Proofs.Points.Scoreboard
import Moderation.Proofs.Regex.Literal
import Moderation.Proofs.Tag.Placeholder

namespace Moderation.Tags

open Regex

def leadingName? : List Char → Option (List Char)
  | '%' :: rest =>
    let name := rest.takeWhile Unicode.isWord
    if name ≠ [] ∧ (rest.dropWhile Unicode.isWord).head? = some '%' then some name else .none
  | _ => .none

inductive Piece where
  | char (c : Char)
  | placeholder (name : List Char)
  deriving DecidableEq, Repr

def Piece.text : Piece → List Char
  | char c => [c]
  | placeholder name => '%' :: name ++ ['%']

@[simp] theorem Piece.length_text_placeholder (name : List Char) :
    (Piece.placeholder name).text.length = name.length + 2 := by
  simp [text]

def pieces : List Char → List Piece
  | [] => []
  | c :: rest =>
    match leadingName? (c :: rest) with
    | some name => .placeholder name :: pieces (rest.drop (name.length + 1))
    | .none => .char c :: pieces rest
termination_by text => text.length

def filled (t : Tags) (c : Context) : Piece → List Char
  | .char ch => [ch]
  | .placeholder name =>
    match t.resolve (String.ofList name) c with
    | some value => value.toList
    | .none => (Piece.placeholder name).text

section Names

theorem leadingName?_eq_some_iff {s name : List Char} : leadingName? s = some name ↔
    name ≠ [] ∧ (∀ c ∈ name, Unicode.isWord c = true) ∧ '%' :: name ++ ['%'] <+: s := by
  constructor
  · intro h
    unfold leadingName? at h
    split at h
    · rename_i rest
      dsimp only at h
      split at h
      · rename_i hname
        obtain rfl := Option.some.inj h
        obtain ⟨after, hafter⟩ := List.head?_eq_some_iff.1 hname.2
        refine ⟨hname.1, fun c hc => List.mem_takeWhile_imp hc, after, ?_⟩
        rw [List.append_assoc, List.singleton_append, ← hafter, List.cons_append, List.takeWhile_append_dropWhile]
      · cases h
    · cases h
  · rintro ⟨hne, hword, after, rfl⟩
    have hsign : Unicode.isWord '%' = false := by decide
    simp [leadingName?, List.takeWhile_append_of_pos hword, List.dropWhile_append_of_pos hword, hsign, hne]

theorem pieces_text (s : List Char) : (pieces s).flatMap Piece.text = s := by
  fun_induction pieces s with
  | case1 => rfl
  | case2 c rest name hname ih =>
    obtain ⟨-, -, after, hafter⟩ := leadingName?_eq_some_iff.1 hname
    obtain ⟨rfl, rfl⟩ := List.cons.inj hafter
    rw [List.flatMap_cons, ih]
    simp [Piece.text]
  | case3 c rest hname ih => rw [List.flatMap_cons, ih]; rfl

theorem placeholder_of_mem_pieces {s name : List Char} (h : .placeholder name ∈ pieces s) :
    name ≠ [] ∧ (∀ c ∈ name, Unicode.isWord c = true) ∧ '%' :: name ++ ['%'] <:+: s := by
  fun_induction pieces s with
  | case1 => cases h
  | case2 c rest first hfirst ih =>
    rcases List.mem_cons.1 h with heq | hrest
    · obtain rfl := Piece.placeholder.inj heq
      obtain ⟨hne, hword, hprefix⟩ := leadingName?_eq_some_iff.1 hfirst
      exact ⟨hne, hword, hprefix.isInfix⟩
    · obtain ⟨hne, hword, hpart⟩ := ih hrest
      exact ⟨hne, hword, (hpart.trans (List.drop_suffix _ _).isInfix).trans (List.suffix_cons c rest).isInfix⟩
  | case3 c rest hnone ih =>
    obtain ⟨hne, hword, hpart⟩ := ih ((List.mem_cons.1 h).resolve_left fun heq => by cases heq)
    exact ⟨hne, hword, hpart.trans (List.suffix_cons c rest).isInfix⟩

end Names

section Search

variable {text : Array Char}

theorem leads_char {k next i stop : Nat} {cls : CharClass} {c : Char} {w : List Char}
    (hs : placeholderSteps[k]? = some (.take cls next)) (hc : cls.mem c = true) (h : c :: w <+: text.toList.drop i)
    (hrest : w <+: text.toList.drop (i + 1) → Leads placeholderSteps text (next, i + 1) stop) :
    Leads placeholderSteps text (k, i) stop := by
  obtain ⟨hi, hw⟩ := cons_prefix_drop_iff.1 h
  rw [Array.getElem?_toList] at hi
  exact (leads_take hs).2 ⟨by rw [hi]; exact hc, hrest hw⟩

theorem leads_loop {name : List Char} (hword : ∀ c ∈ name, Unicode.isWord c = true) {i : Nat}
    (h : name ++ ['%'] <+: text.toList.drop i) :
    Leads placeholderSteps text (2, i) (i + name.length + 1) := by
  induction name generalizing i with
  | nil =>
    refine (leads_fork rfl).2 (.inr (leads_char rfl (by decide) h fun _ => ?_))
    exact (leads_accept rfl).2 rfl
  | cons c name ih =>
    have hc : (CharClass.having Unicode.isWord).mem c = true := hword c List.mem_cons_self
    refine (leads_fork rfl).2 (.inl (leads_char rfl hc h fun hname => ?_))
    have hloop := ih (fun d hd => hword d (List.mem_cons_of_mem c hd)) hname
    rwa [show i + 1 + name.length + 1 = i + (c :: name).length + 1 by rw [List.length_cons]; omega] at hloop

theorem matchesAt_placeholder {i j : Nat} : placeholderCode.MatchesAt text i j ↔
    ∃ name, leadingName? (text.toList.drop i) = some name ∧ j = i + (name.length + 2) := by
  rw [placeholderCode_eq]
  constructor
  · intro h
    obtain ⟨w, hprefix, hstop, name, hne, hname, rfl⟩ := rest_of_leads h
    refine ⟨name, leadingName?_eq_some_iff.2 ⟨hne, hname, hprefix⟩, ?_⟩
    simpa using hstop
  · rintro ⟨name, hname, rfl⟩
    obtain ⟨hne, hword, hprefix⟩ := leadingName?_eq_some_iff.1 hname
    cases name with
    | nil => exact absurd rfl hne
    | cons c name =>
      have hc : (CharClass.having Unicode.isWord).mem c = true := hword c List.mem_cons_self
      refine leads_char rfl (by decide) hprefix fun hrest => leads_char rfl hc hrest fun hloop => ?_
      have hleads := leads_loop (fun d hd => hword d (List.mem_cons_of_mem c hd)) hloop
      rwa [show i + 1 + 1 + name.length + 1 = i + ((c :: name).length + 2) by rw [List.length_cons]; omega] at hleads

def stretches (pos : Nat) : List Piece → List Span
  | [] => []
  | .char _ :: rest => stretches (pos + 1) rest
  | .placeholder name :: rest => ⟨pos, pos + (name.length + 2)⟩ :: stretches (pos + (name.length + 2)) rest

theorem scan_stretches (pre s : List Char) :
    Scan placeholderCode (pre ++ s).toArray pre.length (stretches pre.length (pieces s)) := by
  -- What is read already grows from piece to piece.
  fun_induction pieces s generalizing pre with
  | case1 =>
    have hend : ∀ j, ¬placeholderCode.MatchesAt (pre ++ []).toArray pre.length j := by
      intro j h
      obtain ⟨name, hname, -⟩ := matchesAt_placeholder.1 h
      rw [List.drop_left] at hname
      cases hname
    have hmiss := (Code.misses_self placeholderCode (pre ++ []).toArray pre.length).snoc hend
    exact .done (by simpa using hmiss)
  | case2 c rest name hname ih =>
    obtain ⟨-, -, after, hafter⟩ := leadingName?_eq_some_iff.1 hname
    have hscan := ih (pre ++ (Piece.placeholder name).text)
    have hrest : (Piece.placeholder name).text ++ rest.drop (name.length + 1) = c :: rest := by
      obtain ⟨rfl, rfl⟩ := List.cons.inj hafter
      simp [Piece.text]
    rw [List.append_assoc, hrest, List.length_append, Piece.length_text_placeholder] at hscan
    refine .found le_rfl (Code.misses_self _ _ _) (fun j => ?_) (by simp) ?_ hscan
    · rw [matchesAt_placeholder, List.drop_left, hname]
      simp
    · rw [← hrest]
      simp
  | case3 c rest hname ih =>
    have hscan := ih (pre ++ [c])
    rw [← List.append_cons, List.length_append] at hscan
    refine hscan.cons fun j h => ?_
    obtain ⟨name, hsome, -⟩ := matchesAt_placeholder.1 h
    rw [List.drop_left, hname] at hsome
    cases hsome

end Search

section Filling

theorem fillFrom_stretches {fill : List Char → List Char} {value : Piece → List Char}
    (hchar : ∀ c, value (.char c) = [c])
    (hplaceholder : ∀ name, value (.placeholder name) = fill (Piece.placeholder name).text)
    (pre copied : List Char) (ps : List Piece) :
    fillFrom fill (pre ++ copied ++ ps.flatMap Piece.text) pre.length
      (stretches (pre.length + copied.length) ps) = copied ++ ps.flatMap value := by
  -- Characters are copied at once when the next placeholder is met, or at the end.
  induction ps generalizing pre copied with
  | nil => simp [stretches, fillFrom]
  | cons p rest ih =>
    cases p with
    | char c => simpa [stretches, hchar, Piece.text, Nat.add_assoc] using ih pre (copied ++ [c])
    | placeholder name =>
      have hrest := ih (pre ++ copied ++ (Piece.placeholder name).text) []
      have hcopied : ((pre ++ copied ++ (Piece.placeholder name :: rest).flatMap Piece.text).drop pre.length).take
          (pre.length + copied.length - pre.length) = copied := by simp
      have htext : ((pre ++ copied ++ (Piece.placeholder name :: rest).flatMap Piece.text).drop
          (pre.length + copied.length)).take (name.length + 2) = (Piece.placeholder name).text := by
        rw [← List.length_append, List.drop_left, List.flatMap_cons, ← Piece.length_text_placeholder, List.take_left]
      rw [stretches, fillFrom, hcopied, Nat.add_sub_cancel_left, htext, ← hplaceholder]
      simpa [Nat.add_assoc] using hrest

variable (t : Tags) (c : Context)

theorem filled_placeholder (name : List Char) :
    t.filled c (.placeholder name) = t.filling c (Piece.placeholder name).text := by
  have hname : ((Piece.placeholder name).text.drop 1).dropLast = name := by simp [Piece.text]
  rw [filling, hname]
  rfl

theorem filled_of_unresolved {s : List Char}
    (h : ∀ name, .placeholder name ∈ pieces s → t.resolve (String.ofList name) c = .none) :
    (pieces s).flatMap (t.filled c) = s := by
  have hkept : ∀ p ∈ pieces s, t.filled c p = p.text := by
    intro p hp
    cases p with
    | char ch => rfl
    | placeholder name => rw [filled, h name hp]
  rw [List.flatMap_congr hkept, pieces_text]

theorem fill_eq_pieces (template : String) :
    t.fill template c = String.ofList ((pieces template.toList).flatMap (t.filled c)) := by
  unfold fill
  dsimp only
  split
  · have hspans := findAll_of_scan sound_placeholderCode (scan_stretches [] template.toList)
    have hfill := fillFrom_stretches (fun _ => rfl) (filled_placeholder t c) [] [] (pieces template.toList)
    rw [pieces_text] at hfill
    rw [List.nil_append] at hspans
    rw [hspans]
    exact congrArg String.ofList hfill
  · rename_i hsign
    rw [filled_of_unresolved t c, String.ofList_toList]
    intro name hname
    have hpart := (placeholder_of_mem_pieces hname).2.2
    exact absurd (List.contains_iff_mem.2 (hpart.subset List.mem_cons_self)) hsign

theorem resolve_register (word name : String) (value : Context → String) :
    (t.register word value).resolve name c =
      if name.asciiLower = word.asciiLower then some (value c) else t.resolve name c := by
  have hlookup := Points.Scoreboard.lookup_cons_filter word.asciiLower name.asciiLower value t.entries
  rw [resolve, register, hlookup]
  split <;> rfl

end Filling

/-- A template is read once, from left to right: it is the text of its pieces, whatever the tags are, and to fill it
in is to put for each placeholder the value of its tag and to keep everything else. So what is put in is never read
again, and a template stays as it is if no tag is registered for a name that stands between percent signs in it.
Names of tags are compared without regard to ASCII case, and the last value registered counts. -/
theorem fill_in_one_pass (t : Tags) (template : String) (c : Context) :
    t.fill template c = String.ofList ((pieces template.toList).flatMap (t.filled c)) ∧
      (pieces template.toList).flatMap Piece.text = template.toList ∧
      ((∀ name, name ≠ [] → (∀ ch ∈ name, Unicode.isWord ch = true) →
          '%' :: name ++ ['%'] <:+: template.toList → t.resolve (String.ofList name) c = .none) →
        t.fill template c = template) ∧
      ∀ word name value, (t.register word value).resolve name c =
        if name.asciiLower = word.asciiLower then some (value c) else t.resolve name c := by
  refine ⟨fill_eq_pieces t c template, pieces_text _, ?_, resolve_register t c⟩
  intro hunknown
  rw [fill_eq_pieces, filled_of_unresolved t c, String.ofList_toList]
  intro name hname
  obtain ⟨hne, hword, hpart⟩ := placeholder_of_mem_pieces hname
  exact hunknown name hne hword hpart

theorem fill_in_one_pass_sure :
    let c : Context := .ofString ⟨"steve", "steve", fun _ => false, fun _ _ => .ok ()⟩ ""
    (∀ name, name ≠ [] → (∀ ch ∈ name, Unicode.isWord ch = true) →
      '%' :: name ++ ['%'] <:+: "100% sure, %nope%".toList → standard.resolve (String.ofList name) c = .none) ∧
      .placeholder "nope".toList ∈ pieces "100% sure, %nope%".toList ∧
      standard.fill "100% sure, %nope%" c = "100% sure, %nope%" := by
  intro c
  have hunknown : ∀ name, name ≠ [] → (∀ ch ∈ name, Unicode.isWord ch = true) →
      '%' :: name ++ ['%'] <:+: "100% sure, %nope%".toList → standard.resolve (String.ofList name) c = .none := by
    intro name hne hword hpart
    obtain ⟨tail, hprefix, hsuffix⟩ := List.infix_iff_prefix_suffix.1 hpart
    have hname := leadingName?_eq_some_iff.2 ⟨hne, hword, hprefix⟩
    have hnames : ∀ tail ∈ "100% sure, %nope%".toList.tails,
        (leadingName? tail).all fun name => (standard.resolve (String.ofList name) c).isNone := by decide +kernel
    have hnone := hnames tail ((List.mem_tails _ _).2 hsuffix)
    rw [hname] at hnone
    exact Option.isNone_iff_eq_none.1 hnone
  exact ⟨hunknown, by decide +kernel, (fill_in_one_pass standard "100% sure, %nope%" c).2.2.1 hunknown⟩

example : ((Tags.none.register "Word" fun _ => "%x% $0").register "x" fun _ => "y").fill
    "100% %no%x% %WORD%%X%" (.ofString ⟨"steve", "steve", fun _ => false, fun _ _ => .ok ()⟩ "") =
      "100% %no%x% %x% $0y" := by decide +kernel

end Moderation.Tags
