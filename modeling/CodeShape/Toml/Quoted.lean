import CodeShape.Toml.Scalar

/-!
# Quoted strings

A string stands in double quotes, with escapes, or in single quotes, where every character stands for
itself. Three quotes instead of one open a string that may go over several lines.
-/

namespace CodeShape.Toml

open CodeShape.Text (characterOf?)

/-- Does a character stand for itself inside a line? Controls do not, a tab apart. -/
def isPlain (c : Char) : Bool :=
  c == '\t' || (0x20 ≤ c.toNat && c.toNat != 0x7f)

/-- Is a character a blank inside a line? -/
def isSpace (c : Char) : Bool :=
  c == ' ' || c == '\t'

/-- Drops a line end from the front of a text. -/
def dropNewline? : List Char → Option (List Char)
  | '\n' :: rest => some rest
  | '\r' :: '\n' :: rest => some rest
  | _ => none

/-- The character that a letter behind a backslash stands for. -/
def escapeLetter? : Char → Option Char
  | 'b' => some '\x08'
  | 't' => some '\t'
  | 'n' => some '\n'
  | 'f' => some '\x0c'
  | 'r' => some '\r'
  | 'e' => some '\x1b'
  | '"' => some '"'
  | '\\' => some '\\'
  | _ => none

/-- Puts a character, if there is one, in front of a text that was read. -/
def consRead (c : Option Char) (read : Option (List Char × List Char)) :
    Option (List Char × List Char) := do
  let (text, rest) ← read
  return ((← c) :: text, rest)

/-- Reads a string of one line from behind its opening double quote on. -/
def readBasic? : List Char → Option (List Char × List Char)
  | [] => none
  | '"' :: rest => some ([], rest)
  | '\\' :: 'x' :: a :: b :: rest => consRead (characterOf? [a, b]) (readBasic? rest)
  | '\\' :: 'u' :: a :: b :: c :: d :: rest => consRead (characterOf? [a, b, c, d]) (readBasic? rest)
  | '\\' :: 'U' :: a :: b :: c :: d :: e :: f :: g :: h :: rest =>
    consRead (characterOf? [a, b, c, d, e, f, g, h]) (readBasic? rest)
  | '\\' :: c :: rest => consRead (escapeLetter? c) (readBasic? rest)
  | c :: rest => if isPlain c then consRead (some c) (readBasic? rest) else none

/-- Reads a string of one line from behind its opening single quote on. -/
def readLiteral? : List Char → Option (List Char × List Char)
  | [] => none
  | '\'' :: rest => some ([], rest)
  | c :: rest => if isPlain c then consRead (some c) (readLiteral? rest) else none

/-- The end of a string of several lines, if it is here: three quotes, before which two more may stand
that belong to the string. -/
def readClosing? (quote : Char) (cs : List Char) : Option (List Char × List Char) :=
  let quotes := min 5 (cs.takeWhile (· == quote)).length
  if quotes < 3 then none else some (List.replicate (quotes - 3) quote, cs.drop quotes)

/-- Does a line end after nothing but blanks? -/
def endsLine (cs : List Char) : Bool :=
  (dropNewline? (cs.dropWhile isSpace)).isSome

/-- Reads a string of several lines from behind its opening double quotes on. A backslash at the end of
a line removes the line end and all blanks and line ends that follow it; `trimming` says that this
is being done. -/
def readBasicLines? (trimming : Bool) : List Char → Option (List Char × List Char)
  | [] => none
  | '"' :: rest =>
    match readClosing? '"' ('"' :: rest) with
    | some closed => some closed
    | none => consRead (some '"') (readBasicLines? false rest)
  | '\\' :: 'x' :: a :: b :: rest => consRead (characterOf? [a, b]) (readBasicLines? false rest)
  | '\\' :: 'u' :: a :: b :: c :: d :: rest =>
    consRead (characterOf? [a, b, c, d]) (readBasicLines? false rest)
  | '\\' :: 'U' :: a :: b :: c :: d :: e :: f :: g :: h :: rest =>
    consRead (characterOf? [a, b, c, d, e, f, g, h]) (readBasicLines? false rest)
  | '\\' :: c :: rest =>
    if endsLine (c :: rest) then readBasicLines? true (c :: rest)
    else consRead (escapeLetter? c) (readBasicLines? false rest)
  | '\r' :: '\n' :: rest =>
    if trimming then readBasicLines? true rest
    else consRead (some '\r') (consRead (some '\n') (readBasicLines? false rest))
  | c :: rest =>
    if c == '\n' || isPlain c then
      if trimming && (c == '\n' || isSpace c) then readBasicLines? true rest
      else consRead (some c) (readBasicLines? false rest)
    else none

/-- Reads a string of several lines from behind its opening single quotes on. -/
def readLiteralLines? : List Char → Option (List Char × List Char)
  | [] => none
  | '\'' :: rest =>
    match readClosing? '\'' ('\'' :: rest) with
    | some closed => some closed
    | none => consRead (some '\'') (readLiteralLines? rest)
  | '\r' :: '\n' :: rest => consRead (some '\r') (consRead (some '\n') (readLiteralLines? rest))
  | c :: rest =>
    if c == '\n' || isPlain c then consRead (some c) (readLiteralLines? rest) else none

/-- A text without the line end that it begins with, if it does. -/
def skipFirstNewline (cs : List Char) : List Char :=
  (dropNewline? cs).getD cs

/-- Reads a quoted string of one line. -/
def readQuotedLine? : List Char → Option (List Char × List Char)
  | '"' :: rest => readBasic? rest
  | '\'' :: rest => readLiteral? rest
  | _ => none

/-- Reads a quoted string. -/
def readQuoted? : List Char → Option (List Char × List Char)
  | '"' :: '"' :: '"' :: rest => readBasicLines? false (skipFirstNewline rest)
  | '\'' :: '\'' :: '\'' :: rest => readLiteralLines? (skipFirstNewline rest)
  | cs => readQuotedLine? cs

end CodeShape.Toml
