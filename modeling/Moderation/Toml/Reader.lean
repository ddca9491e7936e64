import Moderation.Toml.Number
import Moderation.Toml.Table

namespace Moderation.Toml

def deepestNesting : Nat := 80

def readBoolean : List Char → Option (Value × List Char)
  | 't' :: 'r' :: 'u' :: 'e' :: rest => some (.boolean true, rest)
  | 'f' :: 'a' :: 'l' :: 's' :: 'e' :: rest => some (.boolean false, rest)
  | _ => none

def readScalar (s : List Char) : Option (Value × List Char) :=
  match s with
  | [] => none
  | c :: _ =>
    if c == '"' || c == '\'' then
      (readString s).map fun (text, rest) => (.string (String.ofList text), rest)
    else if c == 't' || c == 'f' then readBoolean s
    else readNumber s

def layout (s : List Char) : List Char := skipLayout (s.length + 1) s

mutual

/-- Reads a value. Every step takes a character, so the length of the text is fuel enough. -/
def readValue : Nat → Nat → List Char → Option (Value × List Char)
  | 0, _, _ => none
  | fuel + 1, depth, s =>
    match s with
    | '[' :: rest =>
      if deepestNesting ≤ depth then none
      else (readItems fuel (depth + 1) [] (layout rest)).map fun (items, rest) => (.array items, rest)
    | '\x7B' :: rest =>
      if deepestNesting ≤ depth then none
      else
        match skipSpaces rest with
        | '\x7D' :: rest => some (.table [], rest)
        | rest =>
          (readPairs fuel (depth + 1) [] rest).map fun (es, rest) =>
            (.table (entriesToValues es), rest)
    | _ => readScalar s

/-- The items of an array up to its closing bracket. A comma may follow the last one. -/
def readItems : Nat → Nat → List Value → List Char → Option (List Value × List Char)
  | 0, _, _, _ => none
  | fuel + 1, depth, rev, s =>
    match s with
    | ']' :: rest => some (rev.reverse, rest)
    | _ =>
      match readValue fuel depth s with
      | none => none
      | some (v, rest) =>
        match layout rest with
        | ',' :: rest => readItems fuel depth (v :: rev) (layout rest)
        | ']' :: rest => some ((v :: rev).reverse, rest)
        | _ => none

/-- The pairs of a table in braces up to the closing one, all in one line. -/
def readPairs : Nat → Nat → Entries → List Char → Option (Entries × List Char)
  | 0, _, _, _ => none
  | fuel + 1, depth, es, s =>
    match readKey (s.length + 1) s with
    | some (key, '=' :: rest) =>
      match readValue fuel depth (skipSpaces rest) with
      | none => none
      | some (v, rest) =>
        match assign key v es, skipSpaces rest with
        | some es, ',' :: rest => readPairs fuel depth es rest
        | some es, '\x7D' :: rest => some (es, rest)
        | _, _ => none
    | _ => none

end

end Moderation.Toml
