import Mathlib.Tactic.Cases
import Moderation.Effect
import Moderation.Points.Record

/-!
Crossings as walks on levels. Passing threshold `i` upward leads from level `i` to level `i + 1`,
passing it downward leads back; so along a walk every single threshold is passed in alternate
directions.
-/

namespace Moderation

def Direction.opposite : Direction → Direction
  | .ascending => .descending
  | .descending => .ascending

def Alternates : Direction → List Direction → Prop
  | _, [] => True
  | d, e :: es => e = d ∧ Alternates d.opposite es

namespace Points

def Crossing.index : Crossing → Nat
  | .up i => i
  | .down i => i

def Crossing.direction : Crossing → Direction
  | .up _ => .ascending
  | .down _ => .descending

def passages (place : Nat) (cs : List Crossing) : List Direction :=
  (cs.filter fun c => c.index == place).map (·.direction)

@[simp] theorem passages_nil (place : Nat) : passages place [] = [] := rfl

@[simp] theorem passages_up (place i : Nat) (cs : List Crossing) :
    passages place (.up i :: cs) =
      if i = place then .ascending :: passages place cs else passages place cs := by
  by_cases h : i = place <;> simp [passages, Crossing.index, Crossing.direction, h]

@[simp] theorem passages_down (place i : Nat) (cs : List Crossing) :
    passages place (.down i :: cs) =
      if i = place then .descending :: passages place cs else passages place cs := by
  by_cases h : i = place <;> simp [passages, Crossing.index, Crossing.direction, h]

@[simp] theorem passages_append (place : Nat) (cs ds : List Crossing) :
    passages place (cs ++ ds) = passages place cs ++ passages place ds := by
  simp [passages]

theorem index_lt_of_mem_crossings {old new : Nat} {c : Crossing} (h : c ∈ crossings old new) :
    c.index < max old new := by
  unfold crossings at h
  split at h
  · obtain ⟨i, hi, rfl⟩ := List.mem_map.1 h
    rw [List.mem_range'_1] at hi
    simp only [Crossing.index]
    omega
  · obtain ⟨i, hi, rfl⟩ := List.mem_map.1 (List.mem_reverse.1 h)
    rw [List.mem_range'_1] at hi
    simp only [Crossing.index]
    omega

theorem crossings_self (level : Nat) : crossings level level = [] := by
  rw [crossings, if_neg (Nat.lt_irrefl level), Nat.sub_self]
  rfl

theorem crossings_append {high middle low : Nat} (h : middle ≤ high) (h' : low ≤ middle) :
    crossings high middle ++ crossings middle low = crossings high low := by
  have hrange : List.range' low (middle - low) ++ List.range' middle (high - middle) =
      List.range' low (high - low) := by
    have happend := @List.range'_append low (middle - low) (high - middle) 1
    rw [Nat.one_mul, Nat.add_sub_cancel' h', Nat.add_comm, Nat.sub_add_sub_cancel h h'] at happend
    exact happend
  rw [crossings, crossings, crossings, if_neg (Nat.not_lt.2 h), if_neg (Nat.not_lt.2 h'),
    if_neg (Nat.not_lt.2 (Nat.le_trans h' h)), ← hrange, List.map_append, List.reverse_append]

inductive Walk : Nat → List Crossing → Nat → Prop
  | stay (l : Nat) : Walk l [] l
  | rise {l m : Nat} {cs : List Crossing} : Walk (l + 1) cs m → Walk l (.up l :: cs) m
  | fall {l m : Nat} {cs : List Crossing} : Walk l cs m → Walk (l + 1) (.down l :: cs) m

namespace Walk

theorem append {l m n : Nat} {cs ds : List Crossing} (hc : Walk l cs m) (hd : Walk m ds n) :
    Walk l (cs ++ ds) n := by
  induction hc with
  | stay => exact hd
  | rise _ ih => exact .rise (ih hd)
  | fall _ ih => exact .fall (ih hd)

theorem rise_by (l n : Nat) : Walk l ((List.range' l n).map .up) (l + n) := by
  induction n generalizing l with
  | zero => exact .stay l
  | succ n ih =>
    rw [List.range'_succ, List.map_cons, show l + (n + 1) = l + 1 + n by omega]
    exact .rise (ih (l + 1))

theorem fall_by (l n : Nat) : Walk (l + n) ((List.range' l n).map .down).reverse l := by
  induction n generalizing l with
  | zero => exact .stay l
  | succ n ih =>
    rw [List.range'_succ, List.map_cons, List.reverse_cons, show l + (n + 1) = l + 1 + n by omega]
    exact (ih (l + 1)).append (.fall (.stay l))

theorem of_crossings (old new : Nat) : Walk old (crossings old new) new := by
  unfold crossings
  split
  case isTrue h =>
    have := rise_by old (new - old)
    rwa [Nat.add_sub_cancel' (Nat.le_of_lt h)] at this
  case isFalse h =>
    have := fall_by new (old - new)
    rwa [Nat.add_sub_cancel' (Nat.le_of_not_lt h)] at this

theorem lt_succ_iff_of_ne {place l : Nat} (h : ¬l = place) : place < l + 1 ↔ place < l := by omega

theorem alternates {l m : Nat} {cs : List Crossing} (h : Walk l cs m) (place : Nat) :
    Alternates (if place < l then .descending else .ascending) (passages place cs) := by
  induction h with
  | stay => exact trivial
  | @rise l m cs _ ih =>
    by_cases hl : l = place
    · subst hl
      simpa [Alternates, Direction.opposite] using ih
    · simpa [hl, lt_succ_iff_of_ne hl] using ih
  | @fall l m cs _ ih =>
    by_cases hl : l = place
    · subst hl
      simpa [Alternates, Direction.opposite] using ih
    · simpa [hl, lt_succ_iff_of_ne hl] using ih

theorem getLast?_passages {l m : Nat} {cs : List Crossing} (h : Walk l cs m) (place : Nat) :
    (passages place cs).getLast?.getD (if place < l then .ascending else .descending) =
      if place < m then .ascending else .descending := by
  induction h with
  | stay => rfl
  | @rise l m cs _ ih =>
    by_cases hl : l = place
    · subst hl
      simpa [List.getLast?_cons] using ih
    · simpa [hl, lt_succ_iff_of_ne hl] using ih
  | @fall l m cs _ ih =>
    by_cases hl : l = place
    · subst hl
      simpa [List.getLast?_cons] using ih
    · simpa [hl, lt_succ_iff_of_ne hl] using ih

theorem count_passages {l m : Nat} {cs : List Crossing} (h : Walk l cs m) (place : Nat) :
    (passages place cs).count .ascending + (if place < l then 1 else 0) =
      (passages place cs).count .descending + if place < m then 1 else 0 := by
  induction h with
  | stay => simp
  | @rise l m cs _ ih =>
    by_cases hl : l = place
    · subst hl
      simpa using ih
    · simpa [hl, lt_succ_iff_of_ne hl] using ih
  | @fall l m cs _ ih =>
    by_cases hl : l = place
    · subst hl
      simp only [Nat.lt_irrefl, if_false] at ih
      simp only [passages_down, if_true, List.count_cons_self, Nat.lt_succ_self]
      rw [List.count_cons_of_ne (by decide)]
      omega
    · simpa [hl, lt_succ_iff_of_ne hl] using ih

end Walk

end Points

end Moderation
