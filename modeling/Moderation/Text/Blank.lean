namespace Moderation.Text

/-- A blank is a character with the Unicode property `White_Space`. -/
def isBlank (c : Char) : Bool :=
  let n := c.toNat
  (0x09 ≤ n && n ≤ 0x0D) || n == 0x20 || n == 0x85 || n == 0xA0 || n == 0x1680 ||
    (0x2000 ≤ n && n ≤ 0x200A) || n == 0x2028 || n == 0x2029 || n == 0x202F || n == 0x205F ||
    n == 0x3000

def trimStart (s : List Char) : List Char := s.dropWhile isBlank

def trimEnd (s : List Char) : List Char := (s.reverse.dropWhile isBlank).reverse

def trim (s : List Char) : List Char := trimEnd (trimStart s)

def firstWord (s : List Char) : List Char := s.takeWhile (fun c => !isBlank c)

def cutAtBlank (s : List Char) : List Char × List Char :=
  (firstWord s, (s.dropWhile (fun c => !isBlank c)).drop 1)

@[simp] theorem trim_nil : trim [] = [] := rfl

theorem firstWord_append_dropWhile (s : List Char) :
    firstWord s ++ s.dropWhile (fun c => !isBlank c) = s :=
  List.takeWhile_append_dropWhile

end Moderation.Text

namespace String

def trimBlanks (s : String) : String := ofList (Moderation.Text.trim s.toList)

def asciiLower (s : String) : String := ofList (s.toList.map Char.toLower)

def hasBlank (s : String) : Bool := s.toList.any Moderation.Text.isBlank

def dropSlashes (s : String) : String := ofList (s.toList.dropWhile (· == '/'))

end String
