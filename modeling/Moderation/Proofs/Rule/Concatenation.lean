import Moderation.Proofs.Rule.Renumbering
import Moderation.Proofs.Rule.RoundTrip

namespace Moderation

section Later

def LogicalLine.later (k : Nat) (l : LogicalLine) : LogicalLine := { l with number := l.number + k }

def Rule.later (k : Nat) (r : Rule) : Rule := { r with line := r.line + k }

def ParseError.later (k : Nat) : ParseError → ParseError
  | .unknownAction line token => .unknownAction (line + k) token
  | .invalidParameter line token cause => .invalidParameter (line + k) token cause
  | .invalidPattern line fault => .invalidPattern (line + k) fault
  | .malformed line fault => .malformed (line + k) fault

def relocate {α : Type} (k : Nat) (f : α → α) (x : Except ParseError α) : Except ParseError α :=
  (x.map f).mapError (.later k)

end Later

namespace LogicalLine

def absorb (number : Nat) (current : Option LogicalLine) (raw : List Char) :
    Option LogicalLine × Option LogicalLine :=
  let trimmed := Text.trim raw
  if current.isNone && isSkipped trimmed then (none, none)
  else
    let (piece, continues) := splitContinuation trimmed
    let line := current.elim ⟨number, piece⟩ (extend · piece)
    if continues then (none, some line) else (some line, none)

def openAfter (number : Nat) (current : Option LogicalLine) : List (List Char) → Option LogicalLine
  | [] => current
  | raw :: rest => openAfter (number + 1) (absorb number current raw).2 rest

theorem joinFrom_cons (number : Nat) (current : Option LogicalLine) (raw : List Char)
    (rest : List (List Char)) :
    joinFrom number current (raw :: rest) =
      (joinFrom (number + 1) (absorb number current raw).2 rest).map
        ((absorb number current raw).1.toList ++ ·) := by
  have hid (x : Except ParseError (List LogicalLine)) : x.map ([] ++ ·) = x := by cases x <;> rfl
  rw [joinFrom]
  unfold absorb
  dsimp only
  split
  · exact (hid _).symm
  · cases current <;>
      · split
        · exact (hid _).symm
        · rfl

theorem joinFrom_of_open {xs : List (List Char)} {number : Nat} {current : Option LogicalLine} {l : LogicalLine}
    (h : openAfter number current xs = some l) :
    joinFrom number current xs = .error (.malformed l.number .openContinuation) := by
  induction xs generalizing number current with
  | nil =>
    obtain rfl : current = some l := h
    rfl
  | cons raw rest ih =>
    rw [joinFrom_cons, ih h]
    rfl

theorem joinFrom_append {xs : List (List Char)} {number : Nat} {current : Option LogicalLine}
    (h : openAfter number current xs = none) :
    ∃ ls, joinFrom number current xs = .ok ls ∧ ∀ ys,
      joinFrom number current (xs ++ ys) = (joinFrom (number + xs.length) none ys).map (ls ++ ·) := by
  -- A line may be open in front of these, but none is behind them, so what follows begins anew.
  induction xs generalizing number current with
  | nil =>
    obtain rfl : current = none := h
    refine ⟨[], rfl, fun ys => ?_⟩
    cases hys : joinFrom number none ys <;> simp [hys, Except.map]
  | cons raw rest ih =>
    obtain ⟨ls, hls, happend⟩ := ih h
    refine ⟨(absorb number current raw).1.toList ++ ls, ?_, fun ys => ?_⟩
    · rw [joinFrom_cons, hls]
      rfl
    · have hnumber : number + 1 + rest.length = number + (raw :: rest).length := by
        rw [List.length_cons]
        omega
      rw [List.cons_append, joinFrom_cons, happend, hnumber]
      cases joinFrom (number + (raw :: rest).length) none ys <;> simp [Except.map]

section Numbers

variable (k : Nat)

theorem later_extend (l : LogicalLine) (piece : List Char) :
    (l.extend piece).later k = (l.later k).extend piece := by
  unfold extend later
  split
  · rfl
  · split <;> rfl

theorem absorb_later (number : Nat) (current : Option LogicalLine) (raw : List Char) :
    absorb (number + k) (current.map (later k)) raw =
      (absorb number current raw).map (.map (later k)) (.map (later k)) := by
  have hline (piece : List Char) : (current.map (later k)).elim ⟨number + k, piece⟩ (extend · piece) =
      later k (current.elim ⟨number, piece⟩ (extend · piece)) := by
    cases current with
    | none => rfl
    | some l => exact (later_extend k l piece).symm
  unfold absorb
  simp only [Option.isNone_map, hline]
  split
  · rfl
  · split <;> rfl

theorem joinFrom_later (number : Nat) (current : Option LogicalLine) (lines : List (List Char)) :
    joinFrom (number + k) (current.map (later k)) lines =
      relocate k (.map (later k)) (joinFrom number current lines) := by
  induction lines generalizing number current with
  | nil => cases current <;> rfl
  | cons raw rest ih =>
    have hnumber : number + k + 1 = number + 1 + k := Nat.add_right_comm number k 1
    rw [joinFrom_cons, joinFrom_cons, absorb_later, hnumber]
    dsimp only [Prod.map]
    rw [ih]
    cases joinFrom (number + 1) (absorb number current raw).2 rest with
    | error e => rfl
    | ok ls =>
      cases (absorb number current raw).1 <;> rfl

end Numbers

end LogicalLine

theorem ParseError.later_eq (k : Nat) : ParseError.later k = ParseError.renumber (· + k) := by
  funext e
  cases e <;> rfl

theorem relocate_eq {α : Type} (k : Nat) (g : α → α) (x : Except ParseError α) :
    relocate k g x = recounted (· + k) g x := by
  rw [relocate, recounted, ParseError.later_eq]

theorem Rule.mapM_read_later (registry : Registry) (k : Nat) (ls : List LogicalLine) :
    (ls.map (LogicalLine.later k)).mapM (read registry) =
      relocate k (.map (later k)) (ls.mapM (read registry)) := by
  rw [relocate_eq]
  exact mapM_read_renumber (· + k) registry ls

namespace Chain

variable {registry : Registry} {name : String} {xs : List (List Char)}

theorem ofLines_eq (registry : Registry) (name : String) (lines : List (List Char)) :
    ofLines registry name lines =
      (LogicalLine.ofLines lines).bind fun ls => (ls.mapM (Rule.read registry)).map (mk name) := by
  unfold ofLines
  cases LogicalLine.ofLines lines with
  | error e => rfl
  | ok ls =>
    change (ls.mapM (Rule.read registry)).bind _ = (ls.mapM (Rule.read registry)).map (mk name)
    cases ls.mapM (Rule.read registry) <;> rfl

theorem logical_append (hclosed : LogicalLine.openAfter 1 none xs = none) :
    ∃ ls, LogicalLine.ofLines xs = .ok ls ∧ ∀ ys, LogicalLine.ofLines (xs ++ ys) =
      (relocate xs.length (.map (LogicalLine.later xs.length)) (LogicalLine.ofLines ys)).map (ls ++ ·) := by
  obtain ⟨ls, hls, happend⟩ := LogicalLine.joinFrom_append hclosed
  refine ⟨ls, hls, fun ys => ?_⟩
  exact (happend ys).trans (congrArg _ (LogicalLine.joinFrom_later xs.length 1 none ys))

/-- Rules behind complete lines follow their rules, and errors behind them are the errors, so many lines further
down. Where the lines in front cannot be read, nothing can; a line that is left open at the end is noticed before
that, since lines are joined before any rule is read. -/
theorem ofLines_append (hclosed : LogicalLine.openAfter 1 none xs = none) (ys : List (List Char)) :
    (∀ c, ofLines registry name xs = .ok c →
      ofLines registry name (xs ++ ys) =
        ((ofLines registry name ys).map fun d =>
          ⟨name, c.rules ++ d.rules.map (Rule.later xs.length)⟩).mapError (.later xs.length)) ∧
      ∀ e, ofLines registry name xs = .error e →
        ofLines registry name (xs ++ ys) = .error
          (match LogicalLine.openAfter 1 none ys with
            | none => e
            | some l => .malformed (l.number + xs.length) .openContinuation) := by
  obtain ⟨ls, hls, happend⟩ := logical_append hclosed
  rw [ofLines_eq, ofLines_eq, ofLines_eq, hls, happend]
  cases hopen : LogicalLine.openAfter 1 none ys with
  | some l =>
    have hys : LogicalLine.ofLines ys = .error (.malformed l.number .openContinuation) :=
      LogicalLine.joinFrom_of_open hopen
    rw [hys]
    exact ⟨fun _ _ => rfl, fun _ _ => rfl⟩
  | none =>
    obtain ⟨ms, hms, -⟩ := LogicalLine.joinFrom_append hopen
    have hys : LogicalLine.ofLines ys = .ok ms := hms
    rw [hys]
    simp only [relocate, Except.map, Except.mapError, Except.bind, List.mapM_append,
      Rule.mapM_read_later]
    cases ls.mapM (Rule.read registry) with
    | error e =>
      refine ⟨fun c h => ?_, fun e' h => ?_⟩
      · cases h
      · obtain rfl := Except.error.inj h
        rfl
    | ok rules =>
      refine ⟨fun c h => ?_, fun e h => ?_⟩
      · obtain rfl := Except.ok.inj h
        cases ms.mapM (Rule.read registry) <;> rfl
      · cases h

def continued : List (List Char) := ["/a/ \\".toList, "  unless staff".toList, "# one rule".toList]

def blankThenRule : List (List Char) := ["".toList, "\"b\"".toList]

theorem ofLines_append_continued :
    LogicalLine.openAfter 1 none continued = none ∧
      (∃ c d, ofLines .empty "chat" continued = .ok c ∧ ofLines .empty "chat" blankThenRule = .ok d ∧
        ofLines .empty "chat" (continued ++ blankThenRule) =
          .ok ⟨"chat", c.rules ++ d.rules.map (Rule.later 3)⟩) ∧
      ofLines .empty "chat" (continued ++ ["b".toList]) = .error (.malformed 4 .noPattern) ∧
      ofLines .empty "chat" (["b".toList] ++ ["/a/ \\".toList]) = .error (.malformed 2 .openContinuation) := by
  have hclosed : LogicalLine.openAfter 1 none continued = none := by decide +kernel
  obtain ⟨c, hc⟩ := exists_ok (e := ofLines .empty "chat" continued) (by decide +kernel)
  obtain ⟨d, hd⟩ := exists_ok (e := ofLines .empty "chat" blankThenRule) (by decide +kernel)
  refine ⟨hclosed, ⟨c, d, hc, hd, ?_⟩, ?_, ?_⟩
  · rw [(ofLines_append hclosed blankThenRule).1 c hc, hd]
    rfl
  · have hfault : ofLines .empty "chat" ["b".toList] = .error (.malformed 1 .noPattern) := rfl
    rw [(ofLines_append hclosed ["b".toList]).1 c hc, hfault]
    rfl
  · have hfault : ofLines .empty "chat" ["b".toList] = .error (.malformed 1 .noPattern) := rfl
    rw [(ofLines_append rfl ["/a/ \\".toList]).2 _ hfault]
    rfl

end Chain

end Moderation
