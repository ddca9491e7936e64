import Moderation.Proofs.Text.Blank

/-!
Texts cut at blanks. A text is a word and then fields, each a blank and the word behind it; between two blanks that
stand side by side there is an empty word.
-/

namespace Moderation.Text

structure Word where
  chars : List Char
  noBlank : ∀ c ∈ chars, isBlank c = false

structure Field where
  blank : Char
  isBlank : isBlank blank = true
  word : Word

def Word.empty : Word := ⟨[], fun _ h => by cases h⟩

def Word.cons (c : Char) (hc : isBlank c = false) (w : Word) : Word :=
  ⟨c :: w.chars, fun d hd => by
    rcases List.mem_cons.1 hd with rfl | hd
    · exact hc
    · exact w.noBlank d hd⟩

def Field.text (f : Field) : List Char := f.blank :: f.word.chars

def fieldsText (fs : List Field) : List Char := fs.flatMap Field.text

def cut : List Char → Word × List Field
  | [] => (.empty, [])
  | c :: s =>
    if hc : isBlank c = true then (.empty, ⟨c, hc, (cut s).1⟩ :: (cut s).2)
    else ((cut s).1.cons c (Bool.eq_false_iff.2 hc), (cut s).2)

def fields (s : List Char) : List Field := (cut s).2

theorem cut_blank {c : Char} (hc : isBlank c = true) (s : List Char) :
    cut (c :: s) = (.empty, ⟨c, hc, (cut s).1⟩ :: (cut s).2) :=
  dif_pos hc

theorem cut_of_not_blank {c : Char} (hc : isBlank c = false) (s : List Char) :
    cut (c :: s) = ((cut s).1.cons c hc, (cut s).2) :=
  dif_neg (Bool.eq_false_iff.1 hc)

theorem cut_text (s : List Char) : (cut s).1.chars ++ fieldsText (cut s).2 = s := by
  induction s with
  | nil => rfl
  | cons c s ih =>
    cases hc : isBlank c with
    | true =>
      rw [cut_blank hc, fieldsText, List.flatMap_cons]
      exact congrArg (c :: ·) ih
    | false =>
      rw [cut_of_not_blank hc]
      exact congrArg (c :: ·) ih

theorem fieldsText_fields {s : List Char} (h : ∀ c ∈ s.head?, isBlank c = true) : fieldsText (fields s) = s := by
  cases s with
  | nil => rfl
  | cons c s =>
    have htext := cut_text (c :: s)
    rw [cut_blank (h c rfl)] at htext
    rw [fields, cut_blank (h c rfl)]
    exact htext

theorem isBlank_head_fieldsText (fs : List Field) : ∀ c ∈ (fieldsText fs).head?, isBlank c = true := by
  intro c hc
  cases fs with
  | nil => cases hc
  | cons f fs =>
    obtain rfl := Option.some.inj hc
    exact f.isBlank

theorem fieldsText_cons (f : Field) (fs : List Field) : fieldsText (f :: fs) = f.text ++ fieldsText fs :=
  List.flatMap_cons

theorem fieldsText_append (fs gs : List Field) : fieldsText (fs ++ gs) = fieldsText fs ++ fieldsText gs :=
  List.flatMap_append

theorem cut_append {t : List Char} (ht : ∀ c ∈ t.head?, isBlank c = true) (s : List Char) :
    cut (s ++ t) = ((cut s).1, fields s ++ fields t) := by
  induction s with
  | nil =>
    cases t with
    | nil => rfl
    | cons c t => rw [List.nil_append, fields, fields, cut_blank (ht c rfl)]; rfl
  | cons d s ih =>
    cases hd : isBlank d with
    | true => rw [List.cons_append, cut_blank hd, fields, cut_blank hd, ih]; rfl
    | false => rw [List.cons_append, cut_of_not_blank hd, fields, cut_of_not_blank hd, ih]; rfl

theorem fields_append {t : List Char} (ht : ∀ c ∈ t.head?, isBlank c = true) (s : List Char) :
    fields (s ++ t) = fields s ++ fields t :=
  congrArg Prod.snd (cut_append ht s)

theorem cut_of_forall {s : List Char} (h : ∀ c ∈ s, isBlank c = false) : cut s = (⟨s, h⟩, []) := by
  induction s with
  | nil => rfl
  | cons c s ih =>
    rw [cut_of_not_blank (h c List.mem_cons_self), ih fun d hd => h d (List.mem_cons_of_mem c hd)]
    rfl

theorem splitOnP_isBlank (s : List Char) :
    s.splitOnP isBlank = (cut s).1.chars :: (fields s).map (·.word.chars) := by
  induction s with
  | nil => rfl
  | cons c s ih =>
    rw [List.splitOnP_cons_eq_if_modifyHead, ih, fields, fields]
    cases hc : isBlank c with
    | true => rw [if_pos rfl, cut_blank hc]; rfl
    | false => rw [if_neg Bool.false_ne_true, cut_of_not_blank hc]; rfl

end Moderation.Text
