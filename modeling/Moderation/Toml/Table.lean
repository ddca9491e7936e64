import Moderation.Toml.Value

/-!
Tables while they are being read. A key may be given once; a table may be opened by a header once, and
a header may not reopen what dotted keys made.
-/

namespace Moderation.Toml

inductive Origin where
  /-- A header or braces. -/
  | stated
  /-- A header that names a table inside it. -/
  | implied
  /-- A dotted key. -/
  | dotted
  deriving DecidableEq, Repr

inductive Node where
  | value (v : Value)
  | table (origin : Origin) (entries : List (String × Node))
  | tables (all : List (List (String × Node)))

abbrev Entries := List (String × Node)

def Entries.set (es : Entries) (key : String) (n : Node) : Entries :=
  if es.any (fun e => e.1 == key) then es.map fun e => if e.1 == key then (key, n) else e
  else es ++ [(key, n)]

/-- Changes the table that a path of keys leads to from one with the given origin. Tables on the way
are made where they are missing; the last one of an array stands for the array. A dotted key does not
enter tables that are stated. -/
def changeAt (dotted : Bool) (change : Origin → Entries → Option Entries) :
    List String → Origin → Entries → Option Entries
  | [], origin, es => change origin es
  | key :: path, _, es =>
    match es.lookup key with
    | none =>
      let origin := if dotted then .dotted else .implied
      (changeAt dotted change path origin []).map fun inner => es.set key (.table origin inner)
    | some (.value _) => none
    | some (.table origin inner) =>
      if dotted && origin == .stated then none
      else (changeAt dotted change path origin inner).map fun inner => es.set key (.table origin inner)
    | some (.tables all) =>
      match all.getLast? with
      | none => none
      | some inner =>
        (changeAt dotted change path .stated inner).map fun inner =>
          es.set key (.tables (all.dropLast ++ [inner]))

def addFresh (key : String) (n : Node) (es : Entries) : Option Entries :=
  if (es.lookup key).isSome then none else some (es ++ [(key, n)])

/-- Gives a value to a key, which may be dotted. Dotted keys extend only tables that they made. -/
def assign (key : List String) (v : Value) (es : Entries) : Option Entries :=
  match key.reverse with
  | [] => none
  | last :: path =>
    let change (origin : Origin) (es : Entries) : Option Entries :=
      if path.isEmpty || origin == .dotted then addFresh last (.value v) es else none
    changeAt true change path.reverse .stated es

mutual

def Node.toValue : Node → Value
  | .value v => v
  | .table _ es => .table (entriesToValues es)
  | .tables all => .array (tablesToValues all)

def entriesToValues : Entries → List (String × Value)
  | [] => []
  | (key, n) :: rest => (key, n.toValue) :: entriesToValues rest

def tablesToValues : List Entries → List Value
  | [] => []
  | es :: rest => .table (entriesToValues es) :: tablesToValues rest

end

end Moderation.Toml
