import Moderation.Toml.Reader

namespace Moderation.Toml

/-- The tables that are complete, and the one that lines are added to, with the path of its header. -/
structure Draft where
  root : Entries
  current : Entries
  path : List String
  isItem : Bool

def Draft.start : Draft := ⟨[], [], [], false⟩

def placeTable (key : String) (current es : Entries) : Option Entries :=
  match es.lookup key with
  | none => some (es ++ [(key, .table .stated current)])
  | some (.table .implied _) => some (es.set key (.table .stated current))
  | some _ => none

def placeItem (key : String) (current es : Entries) : Option Entries :=
  match es.lookup key with
  | none => some (es ++ [(key, .tables [current])])
  | some (.tables all) => some (es.set key (.tables (all ++ [current])))
  | some _ => none

def Draft.finish (d : Draft) : Option Entries :=
  match d.path.reverse with
  | [] => some d.current
  | key :: path =>
    let place := if d.isItem then placeItem else placeTable
    changeAt false (fun _ es => place key d.current es) path.reverse .stated d.root

/-- What is already there under a header: the entries of a table that other headers implied. -/
def takeImplied (key : String) (es : Entries) : Option Entries :=
  match es.lookup key with
  | none => some []
  | some (.table .implied inner) => some inner
  | some _ => none

def lookAt : List String → Entries → Option Entries
  | [], es => some es
  | key :: path, es =>
    match es.lookup key with
    | none => some []
    | some (.value _) => none
    | some (.table _ inner) => lookAt path inner
    | some (.tables all) => all.getLast?.bind (lookAt path)

def Draft.openTable (d : Draft) (path : List String) : Option Draft := do
  let root ← d.finish
  let parent ← lookAt path.dropLast root
  let current ← takeImplied (path.getLastD "") parent
  return ⟨root, current, path, false⟩

def Draft.openItem (d : Draft) (path : List String) : Option Draft := do
  let root ← d.finish
  let parent ← lookAt path.dropLast root
  match parent.lookup (path.getLastD "") with
  | none => return ⟨root, [], path, true⟩
  | some (.tables _) => return ⟨root, [], path, true⟩
  | some _ => none

def readHeader (d : Draft) (s : List Char) : Option (Draft × List Char) := do
  match s with
  | '[' :: rest =>
    let (path, rest) ← readKey (rest.length + 1) rest
    let rest ← readMark ']' rest
    let rest ← readMark ']' rest
    let d ← d.openItem path
    return (d, rest)
  | _ =>
    let (path, rest) ← readKey (s.length + 1) s
    let rest ← readMark ']' rest
    let d ← d.openTable path
    return (d, rest)

def readAssignment (d : Draft) (s : List Char) : Option (Draft × List Char) := do
  let (key, rest) ← readKey (s.length + 1) s
  let rest ← readMark '=' rest
  let (v, rest) ← readValue (rest.length + 1) 0 (skipSpaces rest)
  let current ← assign key v d.current
  return ({ d with current := current }, rest)

/-- Reads lines until the document ends. Every line takes a character. -/
def readLines : Nat → Draft → List Char → Option Entries
  | 0, _, _ => none
  | fuel + 1, d, s =>
    match skipSpaces s with
    | [] => d.finish
    | c :: rest =>
      if c == '#' || c == '\n' || c == '\r' then (readLineEnd (c :: rest)).bind (readLines fuel d)
      else do
        let (d, rest) ← if c == '[' then readHeader d rest else readAssignment d (c :: rest)
        let rest ← readLineEnd rest
        readLines fuel d rest

def dropByteOrderMark : List Char → List Char
  | '\uFEFF' :: rest => rest
  | s => s

def read (source : String) : Option Value :=
  let s := dropByteOrderMark source.toList
  (readLines (s.length + 1) .start s).map fun es => .table (entriesToValues es)

end Moderation.Toml
