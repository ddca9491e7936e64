import Moderation.Unicode.Word
import Moderation.Unicode.Script
import Moderation.Unicode.Casing

/-!
Character properties by name. A name is compared without case, blanks, dashes and underscores, and
without the letters `is` that it may start with.
-/

namespace Moderation.Unicode

def plainName (s : List Char) : List Char :=
  (s.filter fun c => c.toNat < 128 && c != ' ' && c != '_' && c != '-').map Char.toLower

/-- The compared form of a name; a name that would shrink to `c` alone keeps its first letters. -/
def looseName (s : List Char) : String :=
  let hasIs := (s.take 2).map Char.toLower == ['i', 's']
  let name := plainName (if hasIs then s.drop 2 else s)
  String.ofList (if hasIs && name == ['c'] then ['i', 's', 'c'] else name)

def listed (s : String) : Char → Bool := (Ranges.ofText s).contains

def isUppercase (c : Char) : Bool := category c == "Lu" || listed Table.otherUppercase c

def isLowercase (c : Char) : Bool := category c == "Ll" || listed Table.otherLowercase c

def isGraphemeExtend (c : Char) : Bool :=
  hasCategory ["Mn", "Me"] c || listed Table.otherGraphemeExtend c

def isIdStart (c : Char) : Bool :=
  c != '\u2E2F' && (hasCategory ("Nl" :: letterLabels) c || listed Table.otherIdStart c)

def isIdContinue (c : Char) : Bool :=
  isIdStart c || hasCategory ["Mn", "Mc", "Nd", "Pc"] c || listed Table.otherIdContinue c

def isAsciiHexDigit (c : Char) : Bool := (hexDigit? c).isSome

def isFullwidthHexDigit (c : Char) : Bool :=
  (0xFF10 ≤ c.toNat && c.toNat ≤ 0xFF19) || (0xFF21 ≤ c.toNat && c.toNat ≤ 0xFF26) ||
    (0xFF41 ≤ c.toNat && c.toNat ≤ 0xFF46)

def isGraphemeBase (c : Char) : Bool :=
  !hasCategory ["Cc", "Cf", "Cs", "Co", "Cn", "Zl", "Zp"] c && !isGraphemeExtend c

def binaryProperty? (name : String) : Option (Char → Bool) :=
  match name with
  | "alpha" | "alphabetic" => some isAlphabetic
  | "asciihexdigit" | "ahex" => some isAsciiHexDigit
  | "bidic" | "bidicontrol" => some (listed Table.bidiControl)
  | "bidim" | "bidimirrored" => some (listed Table.bidiMirrored)
  | "caseignorable" | "ci" => some isCaseIgnorable
  | "cased" => some isCased
  | "changeswhenlowercased" | "cwl" => some fun c => lowerChar c != [c]
  | "changeswhenuppercased" | "cwu" => some fun c => upperChar c != [c]
  | "changeswhencasemapped" | "cwcm" => some fun c => lowerChar c != [c] || upperChar c != [c]
  | "dash" => some (listed Table.dash)
  | "defaultignorablecodepoint" | "di" => some (listed Table.defaultIgnorableCodePoint)
  | "dep" | "deprecated" => some (listed Table.deprecated)
  | "dia" | "diacritic" => some (listed Table.diacritic)
  | "emoji" => some (listed Table.emoji)
  | "emojicomponent" | "ecomp" => some (listed Table.emojiComponent)
  | "emojimodifier" | "emod" => some (listed Table.emojiModifier)
  | "emojimodifierbase" | "ebase" => some (listed Table.emojiModifierBase)
  | "emojipresentation" | "epres" => some (listed Table.emojiPresentation)
  | "ext" | "extender" => some (listed Table.extender)
  | "extendedpictographic" | "extpict" => some (listed Table.extendedPictographic)
  | "graphemebase" | "grbase" => some isGraphemeBase
  | "graphemeextend" | "grext" => some isGraphemeExtend
  | "hex" | "hexdigit" => some fun c => isAsciiHexDigit c || isFullwidthHexDigit c
  | "idc" | "idcontinue" => some isIdContinue
  | "ideo" | "ideographic" => some (listed Table.ideographic)
  | "ids" | "idstart" => some isIdStart
  | "idsb" | "idsbinaryoperator" => some (listed Table.idsBinaryOperator)
  | "idst" | "idstrinaryoperator" => some (listed Table.idsTrinaryOperator)
  | "joinc" | "joincontrol" => some fun c => c == '\u200C' || c == '\u200D'
  | "loe" | "logicalorderexception" => some (listed Table.logicalOrderException)
  | "lower" | "lowercase" => some isLowercase
  | "math" => some fun c => category c == "Sm" || listed Table.otherMath c
  | "nchar" | "noncharactercodepoint" => some (listed Table.noncharacterCodePoint)
  | "patsyn" | "patternsyntax" => some (listed Table.patternSyntax)
  | "patws" | "patternwhitespace" => some (listed Table.patternWhiteSpace)
  | "qmark" | "quotationmark" => some (listed Table.quotationMark)
  | "radical" => some (listed Table.radical)
  | "regionalindicator" | "ri" => some (listed Table.regionalIndicator)
  | "sd" | "softdotted" => some (listed Table.softDotted)
  | "sentenceterminal" | "sterm" => some (listed Table.sentenceTerminal)
  | "space" | "whitespace" | "wspace" => some Text.isBlank
  | "term" | "terminalpunctuation" => some (listed Table.terminalPunctuation)
  | "uideo" | "unifiedideograph" => some (listed Table.unifiedIdeograph)
  | "upper" | "uppercase" => some isUppercase
  | "variationselector" | "vs" => some (listed Table.variationSelector)
  | "xidc" | "xidcontinue" => some fun c => isIdContinue c && !listed Table.continueOnlyById c
  | "xids" | "xidstart" => some fun c => isIdStart c && !listed Table.startOnlyById c
  | _ => none

def categoryProperty? (name : String) : Option (Char → Bool) :=
  match name with
  | "any" => some fun _ => true
  | "ascii" => some fun c => c.toNat < 128
  | "assigned" => some fun c => category c != "Cn"
  | _ => (categoryLabels? name).map hasCategory

def scriptProperty? (name : String) : Option (Char → Bool) :=
  (scriptLabel? name).map fun label c => script c == label

/-- The scripts that a character is used with. One that is shared by a few scripts belongs to those. -/
def scriptExtensionProperty? (name : String) : Option (Char → Bool) :=
  (scriptLabel? name).map fun label =>
    if label == "Zyyy" || label == "Zinh" then
      let taken := (rows scriptExtras).map fun row =>
        (⟨((row.drop 1).map fun s => rangeOfToken s.toList).toArray⟩ : Ranges)
      fun c => script c == label && !taken.any (·.contains c)
    else
      let extra := extraOfScript label
      fun c => script c == label || extra.contains c

/-- The property with a name. Three names are those of categories although properties share them. -/
def property? (name : List Char) : Option (Char → Bool) :=
  let name := looseName name
  let own := if name == "cf" || name == "sc" || name == "lc" then none else binaryProperty? name
  (own.orElse fun _ => categoryProperty? name).orElse fun _ => scriptProperty? name

def valueProperty? (name value : List Char) : Option (Char → Bool) :=
  match looseName name with
  | "gc" | "generalcategory" => categoryProperty? (looseName value)
  | "sc" | "script" => scriptProperty? (looseName value)
  | "scx" | "scriptextensions" => scriptExtensionProperty? (looseName value)
  | _ => none

end Moderation.Unicode
