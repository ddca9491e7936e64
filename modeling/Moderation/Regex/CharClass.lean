import Moderation.Unicode.Folding

namespace Moderation.Regex

inductive CharClass where
  | none
  | range (first last : Char)
  | having (p : Char → Bool)
  | union (a b : CharClass)
  | inter (a b : CharClass)
  | minus (a b : CharClass)
  | symmetric (a b : CharClass)
  | negation (a : CharClass)
  | caseless (a : CharClass)
  | asciiCaseless (a : CharClass)

def CharClass.mem : CharClass → Char → Bool
  | .none, _ => false
  | .range first last, c => first ≤ c && c ≤ last
  | .having p, c => p c
  | .union a b, c => a.mem c || b.mem c
  | .inter a b, c => a.mem c && b.mem c
  | .minus a b, c => a.mem c && !b.mem c
  | .symmetric a b, c => a.mem c != b.mem c
  | .negation a, c => !a.mem c
  | .caseless a, c => (Unicode.caseVariants c).any a.mem
  | .asciiCaseless a, c => (Unicode.asciiCaseVariants c).any a.mem

def CharClass.single (c : Char) : CharClass := .range c c

def CharClass.ofList (cs : List Char) : CharClass :=
  cs.foldr (fun c a => .union (.single c) a) .none

def CharClass.ofRanges (rs : List (Char × Char)) : CharClass :=
  rs.foldr (fun r a => .union (.range r.1 r.2) a) .none

def CharClass.all : CharClass := .negation .none

/-- Whether no character outside ASCII that fits in one byte belongs to the class. -/
def CharClass.isAsciiByte (a : CharClass) : Bool :=
  (List.range 128).all fun n => !a.mem (Char.ofNat (n + 128))

@[simp] theorem CharClass.mem_single (c d : Char) : (CharClass.single c).mem d = (d == c) := by
  rw [Bool.eq_iff_iff]
  simp only [single, mem, Bool.and_eq_true, decide_eq_true_eq, beq_iff_eq]
  exact ⟨fun h => (Char.le_antisymm h.1 h.2).symm, fun h => h ▸ ⟨Char.le_refl _, Char.le_refl _⟩⟩

def namedRanges? (name : List Char) : Option (List (Char × Char)) :=
  match String.ofList name with
  | "alnum" => some [('0', '9'), ('A', 'Z'), ('a', 'z')]
  | "alpha" => some [('A', 'Z'), ('a', 'z')]
  | "ascii" => some [('\x00', '\x7F')]
  | "blank" => some [('\t', '\t'), (' ', ' ')]
  | "cntrl" => some [('\x00', '\x1F'), ('\x7F', '\x7F')]
  | "digit" => some [('0', '9')]
  | "graph" => some [('!', '~')]
  | "lower" => some [('a', 'z')]
  | "print" => some [(' ', '~')]
  | "punct" => some [('!', '/'), (':', '@'), ('[', '\x60'), ('\x7B', '~')]
  | "space" => some [('\t', '\r'), (' ', ' ')]
  | "upper" => some [('A', 'Z')]
  | "word" => some [('0', '9'), ('A', 'Z'), ('_', '_'), ('a', 'z')]
  | "xdigit" => some [('0', '9'), ('A', 'F'), ('a', 'f')]
  | _ => none

end Moderation.Regex
