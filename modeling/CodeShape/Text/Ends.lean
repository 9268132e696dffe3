import CodeShape.Unicode.Word

/-!
# The ends of a text
-/

namespace CodeShape.Text

/-- Drops characters with a property from the end of a text. -/
def dropEndWhile (p : Char → Bool) (cs : List Char) : List Char :=
  (cs.reverse.dropWhile p).reverse

/-- A text without the blanks at its end. -/
def trimEnd (cs : List Char) : List Char :=
  dropEndWhile Unicode.isBlank cs

/-- A text without the blanks at its ends. -/
def trim (cs : List Char) : List Char :=
  trimEnd (cs.dropWhile Unicode.isBlank)

end CodeShape.Text
