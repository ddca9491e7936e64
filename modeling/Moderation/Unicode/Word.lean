import Moderation.Text.Blank
import Moderation.Unicode.Category
import Moderation.Unicode.Property.Table

namespace Moderation.Unicode

def otherAlphabetic : Ranges := Ranges.ofText Table.otherAlphabetic

def isAlphabetic (c : Char) : Bool :=
  if c.toNat < 128 then c.isAlpha
  else hasCategory letterLabels c || category c == "Nl" || otherAlphabetic.contains c

def isDigit (c : Char) : Bool :=
  if c.toNat < 128 then c.isDigit else category c == "Nd"

def isAlphanumeric (c : Char) : Bool :=
  isAlphabetic c || isDigit c || hasCategory ["Nl", "No"] c

def isWord (c : Char) : Bool :=
  if c.toNat < 128 then c.isAlphanum || c == '_'
  else
    isAlphabetic c || hasCategory ["Mn", "Mc", "Me", "Nd", "Pc"] c || c == '\u200C' || c == '\u200D'

def isAsciiWord (c : Char) : Bool := c.isAlphanum || c == '_'

end Moderation.Unicode
