import Moderation.Proofs.Rule.Segments
import Moderation.Proofs.Text.Blank
import Moderation.Rule.Reader

namespace Moderation

def isWord (w : List Char) : Bool := !w.isEmpty && w.all fun c => !Text.isBlank c

theorem ne_nil_of_isWord {w : List Char} (h : isWord w = true) : w ≠ [] := by
  rintro rfl
  cases h

theorem not_isBlank_of_isWord {w : List Char} (h : isWord w = true) :
    ∀ c ∈ w, Text.isBlank c = false := by
  rw [isWord, Bool.and_eq_true, List.all_eq_true] at h
  exact fun c hc => by simpa using h.2 c hc

/-- Whether every backslash is followed by a character that is no slash, where a backslash and the character
behind it are read as a pair. -/
def isPaired : List Char → Bool
  | [] => true
  | ['\\'] => false
  | '\\' :: c :: rest => c != '/' && isPaired rest
  | _ :: rest => isPaired rest

inductive WrittenPattern where
  | expression (body : List Char) (ne_nil : body ≠ []) (paired : isPaired body = true)
  | literal (text : List Char) (ne_nil : text ≠ [])

namespace WrittenPattern

def delimiter : WrittenPattern → Char
  | expression .. => '/'
  | literal .. => '"'

def isLiteral : WrittenPattern → Bool
  | expression .. => false
  | literal .. => true

def text : WrittenPattern → List Char
  | expression body .. => body
  | literal text .. => text

def source : WrittenPattern → List Char
  | expression body .. => body
  | literal text .. => Regex.escape text

/-- The text between the delimiters: slashes of an expression and quotes and backslashes of a literal stand
behind a backslash. -/
def body : WrittenPattern → List Char
  | expression body .. => body.flatMap fun c => if c = '/' then ['\\', c] else [c]
  | literal text .. => text.flatMap fun c => if c = '"' ∨ c = '\\' then ['\\', c] else [c]

theorem text_ne_nil (p : WrittenPattern) : p.text ≠ [] := by
  cases p <;> assumption

end WrittenPattern

namespace Matcher

variable {d c : Char} {l : Bool} {rest : List Char}

structure Parts (text : List Char) (m : Matcher) (rest : List Char) (l : Bool) (d : Char)
    (inner body after : List Char) : Prop where
  negation : readNegation text = (m.negated, d :: inner)
  delimiter : readDelimiter (d :: inner) = some (l, d, inner)
  enclosed : readBody d l inner = some (body, after)
  ne_nil : body ≠ []
  flags : readFlags (Text.firstWord after) = .ok m.caseless
  pattern : compilePattern (if l then Regex.escape body else body) m.caseless = .ok m.pattern
  behind : after.dropWhile (fun c => !Text.isBlank c) = rest

theorem eq_cons_of_readDelimiter {s : List Char} (h : readDelimiter s = some (l, d, rest)) : s = d :: rest := by
  unfold readDelimiter at h
  split at h <;> cases h <;> rfl

theorem eq_of_readDelimiter {s : List Char} (h : readDelimiter s = some (l, d, rest)) : d = '/' ∨ d = '"' := by
  unfold readDelimiter at h
  split at h <;> cases h
  · exact .inl rfl
  · exact .inr rfl

theorem readDelimiter_cons {s : List Char} (h : readDelimiter s = some (l, d, rest)) (t : List Char) :
    readDelimiter (d :: t) = some (l, d, t) := by
  unfold readDelimiter at h
  split at h <;> cases h <;> rfl

theorem read_iff {text : List Char} {m : Matcher} : read text = .ok (m, rest) ↔
    ∃ l d inner body after, Parts text m rest l d inner body after := by
  constructor
  · intro h
    unfold read at h
    obtain ⟨⟨negated, s⟩, hnegation⟩ : ∃ x, x = readNegation text := ⟨_, rfl⟩
    rw [← hnegation] at h
    dsimp only at h
    split at h
    case h_1 => cases h
    case h_2 l d inner hdelimiter =>
    obtain rfl := eq_cons_of_readDelimiter hdelimiter
    split at h
    case h_1 => cases h
    case h_2 body after hbody =>
    split at h
    case isTrue => cases h
    case isFalse hempty =>
    cases hflags : readFlags (Text.firstWord after) with
    | error fault =>
      rw [hflags] at h
      cases h
    | ok caseless =>
      rw [hflags] at h
      cases hpattern : compilePattern (if l then Regex.escape body else body) caseless with
      | error fault =>
        simp only [bind, Except.bind, hpattern] at h
        cases h
      | ok p =>
        simp only [bind, Except.bind, hpattern] at h
        obtain ⟨rfl, rfl⟩ := Prod.mk.inj (Except.ok.inj h)
        exact ⟨l, d, inner, body, after, hnegation.symm, hdelimiter, hbody,
          fun hnil => hempty (List.isEmpty_iff.2 hnil), hflags, hpattern, rfl⟩
  · rintro ⟨l, d, inner, body, after, hnegation, hdelimiter, hbody, hne, hflags, hpattern, rfl⟩
    unfold read
    rw [hnegation]
    dsimp only
    rw [hdelimiter]
    dsimp only
    rw [hbody]
    dsimp only
    rw [if_neg (mt List.isEmpty_iff.1 hne), hflags]
    simp only [bind, Except.bind, hpattern]
    rfl

theorem readBody_escaped : readBody d l ('\\' :: c :: rest) =
    (readBody d l rest).map fun x => (if l || c == d then c :: x.1 else '\\' :: c :: x.1, x.2) := rfl

theorem readBody_of_ne (h : c ≠ '\\') : readBody d l (c :: rest) =
    if c == d then some ([], rest) else (readBody d l rest).map fun x => (c :: x.1, x.2) := by
  rw [readBody]
  rintro c' rest' rfl
  exact absurd rfl h

theorem readBody_literal (text rest : List Char) :
    readBody '"' true
        ((text.flatMap fun c => if c = '"' ∨ c = '\\' then ['\\', c] else [c]) ++ '"' :: rest) =
      some (text, rest) := by
  induction text with
  | nil => rfl
  | cons c text ih =>
    rw [List.flatMap_cons, List.append_assoc]
    split
    · rw [List.cons_append, List.singleton_append, readBody_escaped, ih]
      rfl
    · rename_i hc
      rw [not_or] at hc
      rw [List.singleton_append, readBody_of_ne hc.2, ih]
      simp [hc.1]

theorem readBody_expression (body : List Char) (h : isPaired body = true) (rest : List Char) :
    readBody '/' false
        ((body.flatMap fun c => if c = '/' then ['\\', c] else [c]) ++ '/' :: rest) =
      some (body, rest) := by
  fun_induction isPaired body with
  | case1 => rfl
  | case2 => cases h
  | case3 c body ih =>
    rw [Bool.and_eq_true, bne_iff_ne] at h
    rw [List.flatMap_cons, List.flatMap_cons, if_neg (by decide), if_neg h.1, List.append_assoc,
      List.append_assoc, List.singleton_append, List.singleton_append, readBody_escaped, ih h.2]
    simp [h.1]
  | case4 c body hlone hpair ih =>
    have hc : c ≠ '\\' := by
      rintro rfl
      cases body with
      | nil => exact hlone rfl rfl
      | cons c body => exact hpair c body rfl rfl
    rw [List.flatMap_cons, List.append_assoc]
    split
    · rename_i hslash
      rw [List.cons_append, List.singleton_append, readBody_escaped, ih h, hslash]
      rfl
    · rename_i hslash
      rw [List.singleton_append, readBody_of_ne hc, ih h]
      simp [hslash]

end Matcher

inductive WrittenSegment where
  | action (token params : List Char) (word : isWord token = true) (trimmed : Text.trim params = params)
    (plain : ∀ k : Keyword, k.word ∉ params.splitOnP Text.isBlank)
  | exemption (permission : List Char) (word : isWord permission = true)

structure WrittenRule where
  negated : Bool
  pattern : WrittenPattern
  caseless : Bool
  segments : List WrittenSegment

namespace WrittenSegment

def segment : WrittenSegment → Segment
  | action token params .. => ⟨.andThen, if params = [] then token else token ++ ' ' :: params⟩
  | exemption permission _ => ⟨.exceptFor, permission⟩

def calls : WrittenSegment → List (List Char × List Char)
  | action token params .. => [(token, params)]
  | exemption .. => []

def exemptions : WrittenSegment → List (List Char)
  | action .. => []
  | exemption permission _ => [permission]

end WrittenSegment

namespace WrittenRule

def calls (w : WrittenRule) : List (List Char × List Char) := w.segments.flatMap (·.calls)

def exemptions (w : WrittenRule) : List (List Char) := w.segments.flatMap (·.exemptions)

def flags (w : WrittenRule) : List Char := if w.caseless then ['i'] else []

def fromPattern (w : WrittenRule) (after : List Char) : List Char :=
  w.pattern.delimiter :: (w.pattern.body ++ w.pattern.delimiter :: (w.flags ++ after))

def fromMatcher (w : WrittenRule) (after : List Char) : List Char :=
  if w.negated then '!' :: w.fromPattern after else w.fromPattern after

def line (w : WrittenRule) : List Char :=
  w.fromMatcher (Segment.writeAll (w.segments.map (·.segment)))

end WrittenRule

end Moderation
