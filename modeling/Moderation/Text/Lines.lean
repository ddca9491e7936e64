namespace Moderation.Text

/-- The line held back to front in `rev`, without a carriage return at its end. -/
def endedLine (rev : List Char) : List Char :=
  match rev with
  | '\r' :: rest => rest.reverse
  | rest => rest.reverse

def linesFrom (rev : List Char) : List Char → List (List Char)
  | [] => if rev.isEmpty then [] else [rev.reverse]
  | '\n' :: rest => endedLine rev :: linesFrom [] rest
  | c :: rest => linesFrom (c :: rev) rest

/-- A line ends at a line feed, or at a carriage return and a line feed; the last line needs neither. -/
def lines (s : List Char) : List (List Char) := linesFrom [] s

end Moderation.Text
