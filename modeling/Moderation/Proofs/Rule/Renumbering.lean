import Moderation.Rule.Reader

namespace Moderation

variable (f : Nat → Nat)

def LogicalLine.renumber (l : LogicalLine) : LogicalLine := { l with number := f l.number }

def Rule.renumber (r : Rule) : Rule := { r with line := f r.line }

def Chain.renumber (c : Chain) : Chain := { c with rules := c.rules.map (.renumber f) }

def ParseError.renumber : ParseError → ParseError
  | .unknownAction line token => .unknownAction (f line) token
  | .invalidParameter line token cause => .invalidParameter (f line) token cause
  | .invalidPattern line fault => .invalidPattern (f line) fault
  | .malformed line fault => .malformed (f line) fault

def recounted {α : Type} (g : α → α) (x : Except ParseError α) : Except ParseError α :=
  (x.map g).mapError (.renumber f)

namespace Rule

variable (registry : Registry)

theorem addSegment_renumber (r : Rule) (s : Segment) :
    addSegment registry (r.renumber f) s = (addSegment registry r s).map (renumber f) := by
  unfold addSegment
  cases s.keyword with
  | andThen => cases Invocation.read registry s.body <;> rfl
  | exceptFor =>
    dsimp only
    split <;> rfl

theorem foldlM_addSegment_renumber (segments : List Segment) (r : Rule) :
    segments.foldlM (addSegment registry) (r.renumber f) =
      (segments.foldlM (addSegment registry) r).map (renumber f) := by
  induction segments generalizing r with
  | nil => rfl
  | cons s rest ih =>
    rw [List.foldlM_cons, List.foldlM_cons, addSegment_renumber]
    cases addSegment registry r s with
    | error fault => rfl
    | ok r' => exact ih r'

theorem readText_eq (number : Nat) (text : List Char) :
    readText registry number text = (Matcher.read text).bind fun found =>
      (Segment.split found.2).bind fun segments =>
        segments.foldlM (addSegment registry) ⟨number, found.1, [], []⟩ := rfl

theorem readText_renumber (number : Nat) (text : List Char) :
    readText registry (f number) text = (readText registry number text).map (renumber f) := by
  rw [readText_eq, readText_eq]
  cases Matcher.read text with
  | error fault => rfl
  | ok found =>
    simp only [Except.bind]
    cases Segment.split found.2 with
    | error fault => rfl
    | ok segments => exact foldlM_addSegment_renumber f registry segments ⟨number, found.1, [], []⟩

theorem at_renumber (number : Nat) (fault : RuleFault) :
    fault.at (f number) = (fault.at number).renumber f := by
  cases fault with
  | action token e => cases e <;> rfl
  | _ => rfl

theorem read_eq (l : LogicalLine) :
    read registry l = (readText registry l.number l.text).mapError (RuleFault.at l.number) := by
  unfold read
  cases readText registry l.number l.text <;> rfl

theorem read_renumber (l : LogicalLine) :
    read registry (l.renumber f) = recounted f (renumber f) (read registry l) := by
  have htext := readText_renumber f registry l.number l.text
  rw [read_eq, read_eq]
  change (readText registry (f l.number) l.text).mapError (RuleFault.at (f l.number)) = _
  rw [htext]
  cases readText registry l.number l.text with
  | ok r => rfl
  | error fault => exact congrArg Except.error (at_renumber f l.number fault)

theorem mapM_read_renumber (ls : List LogicalLine) :
    (ls.map (LogicalLine.renumber f)).mapM (read registry) =
      recounted f (.map (renumber f)) (ls.mapM (read registry)) := by
  induction ls with
  | nil => rfl
  | cons l rest ih =>
    rw [List.map_cons, List.mapM_cons, List.mapM_cons, read_renumber, ih]
    cases read registry l with
    | error e => rfl
    | ok r => cases rest.mapM (read registry) <;> rfl

end Rule

end Moderation
