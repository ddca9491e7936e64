import Moderation.Unicode.Ranges
import Moderation.Unicode.Category.Table

namespace Moderation.Unicode

def categories : Partition := Partition.ofText categoryRuns

def category (c : Char) : String := categories.label c

def hasCategory (labels : List String) (c : Char) : Bool := labels.contains (category c)

def letterLabels : List String := ["Lu", "Ll", "Lt", "Lm", "Lo"]

def markLabels : List String := ["Mn", "Mc", "Me"]

/-- The categories that a name stands for. Names are written small, without blanks and dashes. -/
def categoryLabels? (name : String) : Option (List String) :=
  match name with
  | "c" | "other" => some ["Cc", "Cf", "Cn", "Co", "Cs"]
  | "cc" | "control" | "cntrl" => some ["Cc"]
  | "cf" | "format" => some ["Cf"]
  | "cn" | "unassigned" => some ["Cn"]
  | "co" | "privateuse" => some ["Co"]
  | "cs" | "surrogate" => some ["Cs"]
  | "l" | "letter" => some letterLabels
  | "lc" | "casedletter" => some ["Lu", "Ll", "Lt"]
  | "ll" | "lowercaseletter" => some ["Ll"]
  | "lm" | "modifierletter" => some ["Lm"]
  | "lo" | "otherletter" => some ["Lo"]
  | "lt" | "titlecaseletter" => some ["Lt"]
  | "lu" | "uppercaseletter" => some ["Lu"]
  | "m" | "mark" | "combiningmark" => some markLabels
  | "mc" | "spacingmark" => some ["Mc"]
  | "me" | "enclosingmark" => some ["Me"]
  | "mn" | "nonspacingmark" => some ["Mn"]
  | "n" | "number" => some ["Nd", "Nl", "No"]
  | "nd" | "decimalnumber" | "digit" => some ["Nd"]
  | "nl" | "letternumber" => some ["Nl"]
  | "no" | "othernumber" => some ["No"]
  | "p" | "punctuation" | "punct" => some ["Pc", "Pd", "Pe", "Pf", "Pi", "Po", "Ps"]
  | "pc" | "connectorpunctuation" => some ["Pc"]
  | "pd" | "dashpunctuation" => some ["Pd"]
  | "pe" | "closepunctuation" => some ["Pe"]
  | "pf" | "finalpunctuation" => some ["Pf"]
  | "pi" | "initialpunctuation" => some ["Pi"]
  | "po" | "otherpunctuation" => some ["Po"]
  | "ps" | "openpunctuation" => some ["Ps"]
  | "s" | "symbol" => some ["Sc", "Sk", "Sm", "So"]
  | "sc" | "currencysymbol" => some ["Sc"]
  | "sk" | "modifiersymbol" => some ["Sk"]
  | "sm" | "mathsymbol" => some ["Sm"]
  | "so" | "othersymbol" => some ["So"]
  | "z" | "separator" => some ["Zl", "Zp", "Zs"]
  | "zl" | "lineseparator" => some ["Zl"]
  | "zp" | "paragraphseparator" => some ["Zp"]
  | "zs" | "spaceseparator" => some ["Zs"]
  | _ => none

end Moderation.Unicode
