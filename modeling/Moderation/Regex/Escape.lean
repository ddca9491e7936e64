namespace Moderation.Regex

def isMeta (c : Char) : Bool :=
  c == '\\' || c == '.' || c == '+' || c == '*' || c == '?' || c == '(' || c == ')' || c == '|' ||
    c == '[' || c == ']' || c == '\x7B' || c == '\x7D' || c == '^' || c == '$' || c == '#' ||
    c == '&' || c == '-' || c == '~'

def escape : List Char → List Char
  | [] => []
  | c :: rest => if isMeta c then '\\' :: c :: escape rest else c :: escape rest

end Moderation.Regex
