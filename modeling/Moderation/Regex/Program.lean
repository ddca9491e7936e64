import Moderation.Regex.Basic

namespace Moderation.Regex

inductive Step where
  | take (cls : CharClass) (next : Nat)
  | fork (first second : Nat)
  | test (l : Look) (next : Nat)
  | accept

/-- Steps are added at the end, so an expression is compiled from its last part to its first. -/
abbrev Program := Array Step

def Program.add (p : Program) (s : Step) : Program × Nat :=
  let number := p.size
  (p.push s, number)

def forkStep (greedy : Bool) (body skip : Nat) : Step :=
  if greedy then .fork body skip else .fork skip body

/-- Code for one part of an expression: given the step to go on with, it extends a program and names
the step to begin with. -/
abbrev Emit := Nat → Program → Program × Nat

def emitTimes (emit : Emit) : Nat → Emit
  | 0, next, p => (p, next)
  | n + 1, next, p =>
    let (p, entry) := emitTimes emit n next p
    emit entry p

/-- The body once or more often: after each time a fork decides whether to begin again. -/
def emitLoop (greedy : Bool) (emit : Emit) : Emit := fun next p =>
  let back := p.size
  let (p, entry) := emit back (p.push .accept)
  (p.setIfInBounds back (forkStep greedy entry next), entry)

/-- The body at most `n` times; every way out leads to the same step. -/
def emitUpTo (greedy : Bool) (emit : Emit) (leave : Nat) : Nat → Program → Program × Nat
  | 0, p => (p, leave)
  | n + 1, p =>
    let (p, rest) := emitUpTo greedy emit leave n p
    let (p, entry) := emit rest p
    p.add (forkStep greedy entry leave)

/-- Any number of times. A body that can match nothing begins behind the fork, so that it is tried
before the loop is left. -/
def emitStar (greedy nullable : Bool) (emit : Emit) : Emit := fun next p =>
  if nullable then
    let (p, entry) := emitLoop greedy emit next p
    p.add (forkStep greedy entry next)
  else
    let back := p.size
    let (p, entry) := emit back (p.push .accept)
    (p.setIfInBounds back (forkStep greedy entry next), back)

def emitRepeated (min : Nat) (max : Option Nat) (greedy nullable : Bool) (emit : Emit) : Emit :=
  fun next p =>
    match max with
    | some max =>
      let (p, entry) := emitUpTo greedy emit next (max - min) p
      emitTimes emit min entry p
    | none =>
      match min with
      | 0 => emitStar greedy nullable emit next p
      | min + 1 =>
        let (p, entry) := emitLoop greedy emit next p
        emitTimes emit min entry p

def emit : Regex → Emit
  | .empty, next, p => (p, next)
  | .char cls, next, p => p.add (.take cls next)
  | .look l, next, p => p.add (.test l next)
  | .cat a b, next, p =>
    let (p, entry) := emit b next p
    emit a entry p
  | .alt a b, next, p =>
    let (p, second) := emit b next p
    let (p, first) := emit a next p
    p.add (.fork first second)
  | .repeated min max greedy body, next, p =>
    if body.takesNothing then
      emitRepeated (Nat.min min 1) (some (max.elim 1 (Nat.min · 1))) greedy true (emit body) next p
    else emitRepeated min max greedy body.nullable (emit body) next p

/-- A program and the step it begins with. Step zero accepts. -/
structure Code where
  steps : Program
  entry : Nat

def compile (r : Regex) : Code :=
  let (steps, entry) := emit r 0 #[.accept]
  ⟨steps, entry⟩

end Moderation.Regex
