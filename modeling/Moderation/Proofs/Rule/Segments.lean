import Moderation.Proofs.Rule.Recognition

/-!
Writing segments. Segments that are written behind a space each are read back as they are, whatever stands
in their bodies, as long as no word behind the first one of a body is a keyword: the blank behind a
keyword belongs to it, so the first word is never taken for one.
-/

namespace Moderation

open Text (Field fields fieldsText)

namespace Segment

def opener (k : Keyword) : List Char := ' ' :: k.word ++ [' ']

def write (s : Segment) : List Char := opener s.keyword ++ s.body

def writeAll (segments : List Segment) : List Char := segments.flatMap write

def Plain (body : List Char) : Prop :=
  ∀ a c b, body = a ++ c :: b → Text.isBlank c = true → ∀ k rest, ¬Heads b k rest

theorem isBlank_space : Text.isBlank ' ' = true := rfl

theorem isBlank_head_writeAll (segments : List Segment) :
    ∀ c ∈ (writeAll segments).head?, Text.isBlank c = true := by
  intro c hc
  cases segments with
  | nil => cases hc
  | cons s rest =>
    obtain rfl := Option.some.inj hc
    rfl

theorem keyword?_of_plain {body : List Char} (h : Plain body) : ∀ f ∈ fields body, keyword? false f = none := by
  intro f hf
  obtain ⟨fs, gs, hfields⟩ := List.append_of_mem hf
  have hbody := Text.cut_text body
  change _ ++ fieldsText (fields body) = body at hbody
  rw [hfields, Text.fieldsText_append, Text.fieldsText_cons, Field.text, ← List.append_assoc, List.cons_append] at hbody
  by_contra hkeyword
  obtain ⟨k, hk⟩ := Option.ne_none_iff_exists'.1 hkeyword
  exact h _ _ _ hbody.symm f.isBlank k _
    ((heads_iff f.word.noBlank (Text.isBlank_head_fieldsText gs)).2 ⟨word_of_keyword? hk, rfl⟩)

theorem gather_plain {fs : List Field} (h : ∀ f ∈ fs, keyword? false f = none) (gs : List Field) :
    gather true false (fs ++ gs) = (fieldsText fs ++ (gather true false gs).1, (gather true false gs).2) := by
  induction fs with
  | nil => rfl
  | cons f fs ih =>
    rw [List.cons_append, gather_word true (h f List.mem_cons_self),
      ih fun g hg => h g (List.mem_cons_of_mem f hg), Text.fieldsText_cons, List.append_assoc]

theorem gather_body {body : List Char} (h : Plain body) (gs : List Field) :
    gather true true (fields (' ' :: body) ++ gs) =
      (' ' :: body ++ (gather true false gs).1, (gather true false gs).2) := by
  have hfields : fields (' ' :: body) = ⟨' ', isBlank_space, (Text.cut body).1⟩ :: fields body :=
    congrArg Prod.snd (Text.cut_blank isBlank_space body)
  rw [hfields, List.cons_append, gather_word true rfl, gather_plain (keyword?_of_plain h), ← List.append_assoc]
  exact congrArg (fun s => (' ' :: s ++ _, _)) (Text.cut_text body)

theorem gather_opener (k : Keyword) (gs : List Field) :
    gather true false (fields (' ' :: k.word) ++ gs) =
      ([], ⟨k, Text.trim (gather true true gs).1⟩ :: (gather true true gs).2) := by
  rw [k.fields_word isBlank_space, List.singleton_append, gather_keyword true (keyword?_field k isBlank_space)]

theorem gather_writeAll {segments : List Segment} (h : ∀ s ∈ segments, Plain s.body ∧ Text.trim s.body = s.body) :
    gather true false (fields (writeAll segments)) = ([], segments) := by
  induction segments with
  | nil => rfl
  | cons s rest ih =>
    obtain ⟨hplain, htrim⟩ := h s List.mem_cons_self
    have htext : writeAll (s :: rest) = (' ' :: s.keyword.word) ++ ((' ' :: s.body) ++ writeAll rest) := by
      rw [writeAll, List.flatMap_cons, write, opener]
      simp [writeAll]
    have hbody : Text.trim (' ' :: s.body) = s.body :=
      (Text.trim_blanks_append (w := [' ']) (fun c hc => List.mem_singleton.1 hc ▸ isBlank_space)).trans htrim
    have hblank : ∀ c ∈ (' ' :: s.body ++ writeAll rest).head?, Text.isBlank c = true :=
      fun c hc => Option.some.inj hc ▸ isBlank_space
    rw [htext, Text.fields_append hblank, Text.fields_append (isBlank_head_writeAll rest),
      gather_opener, gather_body hplain, ih fun t ht => h t (List.mem_cons_of_mem s ht), List.append_nil, hbody]

theorem split_writeAll {segments : List Segment}
    (h : ∀ s ∈ segments, Plain s.body ∧ Text.trim s.body = s.body) :
    split (writeAll segments) = .ok segments := by
  rw [split_eq_divide (isBlank_head_writeAll segments), divide, gather_writeAll h]
  rfl

end Segment

end Moderation
