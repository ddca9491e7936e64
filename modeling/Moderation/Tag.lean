import Moderation.Context

namespace Moderation

/-- The tags that are known, each name written small and held once. -/
structure Tags where
  entries : List (String × (Context → String))

namespace Tags

def none : Tags := ⟨[]⟩

def register (t : Tags) (name : String) (value : Context → String) : Tags :=
  let key := name.asciiLower
  ⟨(key, value) :: t.entries.filter (fun e => e.1 != key)⟩

def resolve (t : Tags) (name : String) (c : Context) : Option String :=
  (t.entries.lookup name.asciiLower).map fun value => value c

def names (t : Tags) : List String :=
  (t.entries.map Prod.fst).mergeSort (fun a b => decide (a ≤ b))

def standard : Tags :=
  [ ("player", fun c : Context => c.author.name),
    ("string", fun c => c.modified.plainString),
    ("rawstring", fun c => c.modified.rawString),
    ("original", fun c => c.received.plainString),
    ("chain", fun c => c.chain.getD "") ].foldl (fun t e => t.register e.1 e.2) none

def placeholder : Regex :=
  .sequence [.char (.single '%'), .repeated 1 .none true (.char (.having Unicode.isWord)),
    .char (.single '%')]

def placeholderCode : Regex.Code := Regex.compile placeholder

/-- What a placeholder becomes. One with an unknown name stays as it is. -/
def filling (t : Tags) (c : Context) (placeholder : List Char) : List Char :=
  match t.resolve (String.ofList ((placeholder.drop 1).dropLast)) c with
  | some value => value.toList
  | .none => placeholder

def fillFrom (fill : List Char → List Char) (text : List Char) (pos : Nat) :
    List Regex.Span → List Char
  | [] => text.drop pos
  | s :: rest =>
    (text.drop pos).take (s.start - pos) ++
      fill ((text.drop s.start).take (s.stop - s.start)) ++ fillFrom fill text s.stop rest

def fill (t : Tags) (template : String) (c : Context) : String :=
  let text := template.toList
  if text.contains '%' then
    String.ofList (fillFrom (t.filling c) text 0 (placeholderCode.findAll text.toArray))
  else template

end Tags

end Moderation
