import CodeShape.Toml.DateTime

/-!
# Values of a TOML document
-/

namespace CodeShape.Toml

/-- A value. -/
inductive Value where
  | string (s : String)
  | integer (n : Int)
  /-- A number with a fraction or an exponent, an infinity or no number, as it was written. -/
  | float (written : String)
  | boolean (b : Bool)
  | dateTime (d : DateTime)
  | array (elements : List Value)
  /-- A table: each key once, in alphabetical order. -/
  | table (entries : List (String × Value))
deriving Repr

/-- The entries of a table: each key once, in alphabetical order. -/
abbrev Table := List (String × Value)

end CodeShape.Toml
