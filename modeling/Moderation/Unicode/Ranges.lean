namespace Moderation.Unicode

def hexDigit? (c : Char) : Option Nat :=
  if c.isDigit then some (c.toNat - '0'.toNat)
  else if 'a' ≤ c && c ≤ 'f' then some (c.toNat - 'a'.toNat + 10)
  else if 'A' ≤ c && c ≤ 'F' then some (c.toNat - 'A'.toNat + 10)
  else none

def hexValue (s : List Char) : Nat :=
  s.foldl (fun n c => match hexDigit? c with | some d => n * 16 + d | none => n) 0

def tokens (s : String) : List (List Char) :=
  go [] s.toList
where
  go (rev : List Char) : List Char → List (List Char)
    | [] => if rev.isEmpty then [] else [rev.reverse]
    | c :: rest =>
      if c == ' ' || c == '\n' then
        if rev.isEmpty then go [] rest else rev.reverse :: go [] rest
      else go (c :: rev) rest

/-- Sorted, disjoint ranges of characters, given by their first and last numbers. -/
structure Ranges where
  bounds : Array (Nat × Nat)
  deriving Repr

/-- The last position between `low` and `high` whose key is at most `n`, if `low` is one. -/
def lastAtMost (key : Nat → Nat) (n : Nat) : Nat → Nat → Nat → Nat
  | 0, low, _ => low
  | fuel + 1, low, high =>
    if high ≤ low + 1 then low
    else
      let middle := (low + high) / 2
      if key middle ≤ n then lastAtMost key n fuel middle high else lastAtMost key n fuel low middle

def Ranges.contains (r : Ranges) (c : Char) : Bool :=
  let n := c.toNat
  let i := lastAtMost (fun i => (r.bounds[i]?.getD (0, 0)).1) n 32 0 r.bounds.size
  match r.bounds[i]? with
  | some (first, last) => first ≤ n && n ≤ last
  | none => false

def rangeOfToken (s : List Char) : Nat × Nat :=
  let first := s.takeWhile (· != '-')
  match s.dropWhile (· != '-') with
  | _ :: last => (hexValue first, hexValue last)
  | [] => (hexValue first, hexValue first)

/-- Reads ranges written as `41-5a` or `aa`, in order, with blanks between them. -/
def Ranges.ofText (s : String) : Ranges := ⟨((tokens s).map rangeOfToken).toArray⟩

/-- Every character belongs to the run that starts last before it. -/
structure Partition where
  runs : Array (Nat × String)
  deriving Repr

def Partition.label (p : Partition) (c : Char) : String :=
  let i := lastAtMost (fun i => (p.runs[i]?.getD (0, "")).1) c.toNat 32 0 p.runs.size
  (p.runs[i]?.getD (0, "")).2

/-- Reads runs written as a number and a label, in turn, with blanks between them. -/
def Partition.ofText (s : String) : Partition :=
  ⟨(go (tokens s)).toArray⟩
where
  go : List (List Char) → List (Nat × String)
    | first :: label :: rest => (hexValue first, String.ofList label) :: go rest
    | _ => []

/-- A run of characters that are mapped by the same shift, every `step`-th of them. -/
structure ShiftRun where
  first : Nat
  last : Nat
  step : Nat
  shift : Int
  deriving Repr

def ShiftRun.image? (r : ShiftRun) (n : Nat) : Option Nat :=
  if r.first ≤ n && n ≤ r.last && (n - r.first) % r.step == 0 then some (n + r.shift).toNat else none

def ShiftRun.preimage? (r : ShiftRun) (n : Nat) : Option Nat :=
  let m := (n : Int) - r.shift
  if (r.first : Int) ≤ m && m ≤ r.last && (m.toNat - r.first) % r.step == 0 then some m.toNat else none

/-- Reads runs written as two numbers, a step and a signed shift, with blanks between them. -/
def shiftRuns (s : String) : List ShiftRun := go (tokens s)
where
  go : List (List Char) → List ShiftRun
    | first :: last :: step :: shift :: rest =>
      let size : Int := hexValue shift
      ⟨hexValue first, hexValue last, hexValue step, if shift.head? == some '-' then -size else size⟩ ::
        go rest
    | _ => []

end Moderation.Unicode
