import Moderation.Rule.MatcherReader

namespace Moderation

inductive Keyword where
  | andThen
  | exceptFor
  deriving DecidableEq, Repr

structure Segment where
  keyword : Keyword
  body : List Char
  deriving DecidableEq, Repr

def Keyword.andThenWord : List Char := ['t', 'h', 'e', 'n']

def Keyword.exceptForWord : List Char := ['u', 'n', 'l', 'e', 's', 's']

namespace Segment

def keywordRegex : Regex :=
  .sequence [
    .alt (.look .textStart) (.char (.having Text.isBlank)),
    .alt (.literal Keyword.andThenWord) (.literal Keyword.exceptForWord),
    .alt (.char (.having Text.isBlank)) (.look .textStop)]

def keywordCode : Regex.Code := Regex.compile keywordRegex

def slice (text : List Char) (start stop : Nat) : List Char := (text.drop start).take (stop - start)

def keywordAt (text : List Char) (s : Regex.Span) : Keyword :=
  if Text.trim (slice text s.start s.stop) = Keyword.andThenWord then .andThen else .exceptFor

/-- Where the keyword of a stretch ends: before the blank that closes it. -/
def keywordStop (text : List Char) (s : Regex.Span) : Nat :=
  if (slice text s.start s.stop).getLast?.any Text.isBlank then s.stop - 1 else s.stop

def ofSpans (text : List Char) : List Regex.Span → List Segment
  | [] => []
  | s :: rest =>
    let stop := (rest.head?.map (·.start)).getD text.length
    ⟨keywordAt text s, Text.trim (slice text (keywordStop text s) stop)⟩ :: ofSpans text rest

/-- Splits a text that consists of segments. Anything before the first keyword is refused. -/
def split (text : List Char) : Except RuleFault (List Segment) :=
  let spans := keywordCode.findAll text.toArray
  let before := (spans.head?.map (·.start)).getD text.length
  let stray := Text.trim (text.take before)
  if stray.isEmpty then .ok (ofSpans text spans)
  else .error (.form (.strayText (String.ofList stray)))

end Segment

end Moderation
