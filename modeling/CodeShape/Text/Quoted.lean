import CodeShape.Unicode.BinaryProperty
import CodeShape.Unicode.Category

/-!
# Quoted texts

A text in double quotes on one line: quotes, backslashes, the common controls and every character
that would not show by itself are written as escapes.
-/

namespace CodeShape.Text

/-- The categories of characters that do not show at all. -/
def hiddenCategories : List String :=
  ["cc", "cf", "cs", "co", "cn", "zl", "zp", "zs"]

/-- Does a character show by itself? Those do not that attach to the character before them. -/
def shows (c : Char) : Bool :=
  if c.toNat < 0x80 then 0x20 ≤ c.toNat && c.toNat < 0x7f
  else
    !Unicode.within Unicode.graphemeExtendProperty c.toNat &&
      !hiddenCategories.any fun category =>
        (Unicode.categoryTables.lookup category).any (Unicode.within · c.toNat)

/-- A character as it stands in a quoted text. -/
def quotedChar (c : Char) : List Char :=
  match c with
  | '"' => ['\\', '"']
  | '\\' => ['\\', '\\']
  | '\n' => ['\\', 'n']
  | '\r' => ['\\', 'r']
  | '\t' => ['\\', 't']
  | '\x00' => ['\\', '0']
  | _ => if shows c then [c] else ['\\', 'u', '{'] ++ Nat.toDigits 16 c.toNat ++ ['}']

/-- A text in double quotes. -/
def quoted (s : String) : String :=
  String.ofList ('"' :: (s.toList.flatMap quotedChar ++ ['"']))

end CodeShape.Text
