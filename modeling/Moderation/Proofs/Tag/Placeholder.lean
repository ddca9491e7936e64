import Moderation.Tag
import Moderation.Proofs.Regex.Compile
import Moderation.Proofs.Regex.Find

namespace Moderation.Tags

open Regex

/-- The code for placeholders, with a loop over the characters of the name between its steps 2 and 3. -/
def placeholderSteps : Program :=
  #[.accept, .take (.single '%') 0, .fork 3 1, .take (.having Unicode.isWord) 2, .take (.single '%') 3]

theorem placeholderCode_eq : placeholderCode = ⟨placeholderSteps, 4⟩ := rfl

theorem sound_placeholderCode : placeholderCode.Sound := by
  rw [placeholderCode_eq]
  refine ⟨fun k s hk n hn => ?_, by decide⟩
  match k with
  | 0 | 1 | 2 | 3 | 4 =>
    obtain rfl := Option.some.inj hk
    revert n
    decide
  | k + 5 => cases hk

theorem mem_follow_take {text : Array Char} {pos next : Nat} {cls : CharClass} {q : Nat × Nat}
    (h : q ∈ (Step.take cls next).follow text pos) :
    ∃ c, text.toList[pos]? = some c ∧ cls.mem c = true ∧ q = (next, pos + 1) := by
  simp only [Step.follow] at h
  split at h
  · rename_i hany
    obtain ⟨c, hc, hmem⟩ := (Option.any_eq_true _ _).1 hany
    exact ⟨c, by rwa [Array.getElem?_toList], hmem, List.mem_singleton.1 h⟩
  · cases h

/-- What may be left of a placeholder when its code has come to a step. -/
def Rest : Nat → List Char → Prop
  | 0, w => w = []
  | 1, w => w = ['%']
  | 2, w => ∃ name, (∀ c ∈ name, Unicode.isWord c = true) ∧ w = name ++ ['%']
  | 3, w => ∃ name, name ≠ [] ∧ (∀ c ∈ name, Unicode.isWord c = true) ∧ w = name ++ ['%']
  | 4, w => ∃ name, name ≠ [] ∧ (∀ c ∈ name, Unicode.isWord c = true) ∧ w = '%' :: name ++ ['%']
  | _, _ => False

theorem rest_take {text : Array Char} {pos next stop : Nat} {cls : CharClass} {q : Nat × Nat}
    {w : List Char} (hq : q ∈ (Step.take cls next).follow text pos)
    (hw : w <+: text.toList.drop q.2) (hstop : stop = q.2 + w.length) :
    ∃ c, cls.mem c = true ∧ q.1 = next ∧ c :: w <+: text.toList.drop pos ∧
      stop = pos + (c :: w).length := by
  obtain ⟨c, hc, hmem, rfl⟩ := mem_follow_take hq
  refine ⟨c, hmem, rfl, cons_prefix_drop_iff.2 ⟨hc, hw⟩, ?_⟩
  rw [hstop, List.length_cons]
  omega

theorem rest_of_leads {text : Array Char} {c : Nat × Nat} {stop : Nat}
    (h : Leads placeholderSteps text c stop) :
    ∃ w, w <+: text.toList.drop c.2 ∧ stop = c.2 + w.length ∧ Rest c.1 w := by
  induction h with
  | @accept step pos hs =>
    refine ⟨[], List.nil_prefix, rfl, ?_⟩
    match step with
    | 0 => rfl
    | 1 | 2 | 3 | 4 => cases hs
    | step + 5 => cases hs
  | @follow step pos stop s q hs hq _ ih =>
    obtain ⟨w, hw, hstop, hrest⟩ := ih
    match step with
    | 0 =>
      obtain rfl := Option.some.inj hs
      cases hq
    | 1 =>
      obtain rfl := Option.some.inj hs
      obtain ⟨c, hmem, hstep, hprefix, hlength⟩ := rest_take hq hw hstop
      rw [hstep] at hrest
      obtain rfl : w = [] := hrest
      rw [CharClass.mem_single, beq_iff_eq] at hmem
      exact ⟨_, hprefix, hlength, by rw [hmem]; rfl⟩
    | 2 =>
      obtain rfl := Option.some.inj hs
      refine ⟨w, ?_⟩
      rcases List.mem_pair.1 hq with rfl | rfl
      · obtain ⟨name, -, hname, rfl⟩ := hrest
        exact ⟨hw, hstop, name, hname, rfl⟩
      · obtain rfl : w = ['%'] := hrest
        exact ⟨hw, hstop, [], fun c hc => absurd hc List.not_mem_nil, rfl⟩
    | 3 =>
      obtain rfl := Option.some.inj hs
      obtain ⟨c, hmem, hstep, hprefix, hlength⟩ := rest_take hq hw hstop
      rw [hstep] at hrest
      obtain ⟨name, hname, rfl⟩ := hrest
      exact ⟨_, hprefix, hlength, c :: name, List.cons_ne_nil _ _,
        List.forall_mem_cons.2 ⟨hmem, hname⟩, rfl⟩
    | 4 =>
      obtain rfl := Option.some.inj hs
      obtain ⟨c, hmem, hstep, hprefix, hlength⟩ := rest_take hq hw hstop
      rw [hstep] at hrest
      obtain ⟨name, hne, hname, rfl⟩ := hrest
      rw [CharClass.mem_single, beq_iff_eq] at hmem
      exact ⟨_, hprefix, hlength, name, hne, hname, by rw [hmem]; rfl⟩
    | step + 5 => cases hs

theorem placeholder_of_mem_findAll {text : List Char} {span : Span}
    (h : span ∈ placeholderCode.findAll text.toArray) :
    ∃ name, name ≠ [] ∧ (∀ c ∈ name, Unicode.isWord c = true) ∧
      (text.drop span.start).take (span.stop - span.start) = '%' :: name ++ ['%'] := by
  have hmatch := matchesAt_of_mem_findAll sound_placeholderCode h
  rw [placeholderCode_eq] at hmatch
  obtain ⟨w, hprefix, hstop, name, hne, hname, rfl⟩ := rest_of_leads hmatch
  refine ⟨name, hne, hname, ?_⟩
  rw [hstop, Nat.add_sub_cancel_left]
  exact (List.prefix_iff_eq_take.1 hprefix).symm

section Fill

theorem fillFrom_congr {f g : List Char → List Char} {text : List Char} {spans : List Span}
    (h : ∀ s ∈ spans, f ((text.drop s.start).take (s.stop - s.start)) =
      g ((text.drop s.start).take (s.stop - s.start))) (pos : Nat) :
    fillFrom f text pos spans = fillFrom g text pos spans := by
  induction spans generalizing pos with
  | nil => rfl
  | cons s rest ih =>
    rw [fillFrom, fillFrom, h s List.mem_cons_self, ih fun t ht => h t (List.mem_cons_of_mem _ ht)]

def Mentions (tag : String) (text : String) : Prop :=
  '%' :: tag.toList ++ ['%'] <:+: text.toList.map Char.toLower

instance (tag text : String) : Decidable (Mentions tag text) := inferInstanceAs (Decidable (_ <:+: _))

theorem Mentions.of_isInfix {tag text text' : String} (h : Mentions tag text)
    (hwithin : text.toList <:+: text'.toList) : Mentions tag text' :=
  List.IsInfix.trans h (hwithin.map Char.toLower)

theorem fill_congr {t : Tags} {template : String} {c c' : Context}
    (h : ∀ key value, t.entries.lookup key = some value → Mentions key template → value c = value c') :
    t.fill template c = t.fill template c' := by
  unfold fill
  refine if_congr Iff.rfl (congrArg String.ofList (fillFrom_congr (fun s hs => ?_) 0)) rfl
  obtain ⟨name, -, -, hslice⟩ := placeholder_of_mem_findAll hs
  have hwithin : '%' :: name ++ ['%'] <:+: template.toList := by
    rw [← hslice]
    exact (List.take_prefix _ _).isInfix.trans (List.drop_suffix _ _).isInfix
  have hkey : (String.ofList name).asciiLower.toList = name.map Char.toLower := by
    rw [String.asciiLower, String.toList_ofList, String.toList_ofList]
  have hmentions : Mentions (String.ofList name).asciiLower template := by
    rw [Mentions, hkey]
    have := hwithin.map Char.toLower
    rwa [List.map_append, List.map_cons] at this
  have hname : (('%' :: name ++ ['%']).drop 1).dropLast = name := by
    rw [List.cons_append, List.drop_one, List.tail_cons, List.dropLast_concat]
  rw [hslice, filling, filling, hname, resolve, resolve]
  cases hvalue : t.entries.lookup (String.ofList name).asciiLower with
  | none => rfl
  | some value => rw [Option.map_some, Option.map_some, h _ _ hvalue hmentions]

end Fill

end Moderation.Tags
