namespace Moderation.Toml

/-- Dates and times are kept as they are written. Tables hold each key once. -/
inductive Value where
  | string (s : String)
  | integer (n : Int)
  | float (x : Float)
  | boolean (b : Bool)
  | datetime (s : String)
  | array (items : List Value)
  | table (entries : List (String × Value))

end Moderation.Toml
