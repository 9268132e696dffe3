/-!
# JSON documents

The part of JSON that a report needs, and its indented form: two blanks per level, one member or
element a line, and nothing between the brackets of an empty one.
-/

namespace CodeShape.Json

/-- A JSON value without fractions, signs and literals. -/
inductive Value where
  | number (n : Nat)
  | string (s : String)
  | array (elements : List Value)
  | object (members : List (String × Value))
deriving Repr

/-- Two hexadecimal digits. -/
def hexPair (n : Nat) : List Char :=
  [Nat.digitChar (n / 16), Nat.digitChar (n % 16)]

/-- A character as it stands in a string. Only what has to be escaped is. -/
def stringChar (c : Char) : List Char :=
  match c with
  | '"' => ['\\', '"']
  | '\\' => ['\\', '\\']
  | '\x08' => ['\\', 'b']
  | '\x0c' => ['\\', 'f']
  | '\n' => ['\\', 'n']
  | '\r' => ['\\', 'r']
  | '\t' => ['\\', 't']
  | _ => if c.toNat < 0x20 then ['\\', 'u', '0', '0'] ++ hexPair c.toNat else [c]

/-- A string in quotes. -/
def string (s : String) : List Char :=
  '"' :: (s.toList.flatMap stringChar ++ ['"'])

/-- A new line, indented to a level. -/
def newline (level : Nat) : List Char :=
  '\n' :: List.replicate (2 * level) ' '

mutual

/-- The indented form of a value that stands at the given level. -/
def pretty (level : Nat) : Value → List Char
  | .number n => Nat.toDigits 10 n
  | .string s => string s
  | .array [] => ['[', ']']
  | .array (v :: vs) =>
    '[' :: newline (level + 1) ++ pretty (level + 1) v ++ prettyElements (level + 1) vs ++
      newline level ++ [']']
  | .object [] => ['{', '}']
  | .object (m :: ms) =>
    '{' :: newline (level + 1) ++ prettyMember (level + 1) m ++ prettyMembers (level + 1) ms ++
      newline level ++ ['}']

/-- The elements of an array behind the first one. -/
def prettyElements (level : Nat) : List Value → List Char
  | [] => []
  | v :: vs => ',' :: newline level ++ pretty level v ++ prettyElements level vs

/-- A member of an object. -/
def prettyMember (level : Nat) : String × Value → List Char
  | (key, v) => string key ++ [':', ' '] ++ pretty level v

/-- The members of an object behind the first one. -/
def prettyMembers (level : Nat) : List (String × Value) → List Char
  | [] => []
  | m :: ms => ',' :: newline level ++ prettyMember level m ++ prettyMembers level ms

end

end CodeShape.Json
