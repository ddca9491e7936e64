namespace Moderation.Regex

inductive Fault where
  | danglingEscape
  | unknownEscape (c : Char)
  | backReference
  | badCodePoint
  | unknownProperty
  | propertyWithoutUnicode
  | nonAsciiWithoutUnicode
  | missingOperand
  | badCount
  | unclosedCount
  | invertedCount
  | badFlag
  | repeatedFlag
  | danglingFlags
  | badGroupName
  | repeatedGroupName
  | lookAround
  | unclosedGroup
  | unopenedGroup
  | unclosedClass
  | invertedRange
  | badRangeEnd
  | badClassMember
  | badWordEdge
  | tooDeep
  | tooLarge
  deriving DecidableEq, Repr

def Fault.message : Fault → String
  | .danglingEscape => "the expression ends inside an escape"
  | .unknownEscape c => s!"unknown escape of '{c}'"
  | .backReference => "references to groups are not supported"
  | .badCodePoint => "no such character number"
  | .unknownProperty => "unknown character property"
  | .propertyWithoutUnicode => "character properties need the flag u"
  | .nonAsciiWithoutUnicode => "without the flag u only ASCII characters can be matched"
  | .missingOperand => "nothing to repeat"
  | .badCount => "a repetition needs a number"
  | .unclosedCount => "a repetition is not closed"
  | .invertedCount => "a repetition ends below its beginning"
  | .badFlag => "unknown flag"
  | .repeatedFlag => "a flag is given twice"
  | .danglingFlags => "the flags of a group are not complete"
  | .badGroupName => "bad group name"
  | .repeatedGroupName => "two groups have one name"
  | .lookAround => "conditions on the surrounding text are not supported"
  | .unclosedGroup => "a group is not closed"
  | .unopenedGroup => "a group is closed that is not open"
  | .unclosedClass => "a character class is not closed"
  | .invertedRange => "a range ends before its beginning"
  | .badRangeEnd => "a range needs single characters"
  | .badClassMember => "not a member for a character class"
  | .badWordEdge => "unknown kind of word boundary"
  | .tooDeep => "the expression is nested too deeply"
  | .tooLarge => "the expression is too large"

end Moderation.Regex
