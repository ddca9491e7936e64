import Moderation.Unicode.Ranges
import Moderation.Unicode.Script.Table

namespace Moderation.Unicode

def scripts : Partition := Partition.ofText scriptRuns

def script (c : Char) : String := scripts.label c

def rows (s : String) : List (List String) :=
  ((s.splitOn "\n").map fun row => (tokens row).map String.ofList).filter (fun row => !row.isEmpty)

def scriptRows : List (List String) := rows scriptNames

def scriptLabel? (name : String) : Option String :=
  (scriptRows.find? fun row => (row.drop 1).contains name).bind (·.head?)

def extraOfScript (label : String) : Ranges :=
  match (rows scriptExtras).find? (fun row => row.head? == some label) with
  | some row => ⟨((row.drop 1).map fun s => rangeOfToken s.toList).toArray⟩
  | none => ⟨#[]⟩

end Moderation.Unicode
