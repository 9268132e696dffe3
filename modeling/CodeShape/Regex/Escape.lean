import CodeShape.Regex.Error
import CodeShape.Regex.Expr
import CodeShape.Regex.Property
import CodeShape.Text.Digits

/-!
# Escapes

What follows a backslash in a regular expression, and the quoting of plain text: `quote` puts a
backslash before every character that has a meaning of its own, so that the expression matches the
text itself.
-/

namespace CodeShape.Regex

/-- The characters that plain text has to escape. -/
def isSpecial (c : Char) : Bool :=
  ['\\', '.', '+', '*', '?', '(', ')', '|', '[', ']', '{', '}', '^', '$', '#'].contains c

/-- The expression that matches exactly the given text. -/
def quote (text : List Char) : List Char :=
  text.flatMap fun c => if isSpecial c then ['\\', c] else [c]

/-- Reads a decimal number that fits into 64 bits. -/
def readDecimal? (cs : List Char) : Option (Nat × List Char) :=
  let digits := cs.takeWhile Char.isDigit
  if digits.isEmpty || 0x10000000000000000 ≤ Text.digitsValue 10 digits then none
  else some (Text.digitsValue 10 digits, cs.dropWhile Char.isDigit)

/-- Reads a character number: exactly `width` digits, or one to eight digits in braces. -/
def readCharacterCode (width : Nat) (cs : List Char) : Except Fault (Char × List Char) :=
  let code (digits rest : List Char) : Except Fault (Char × List Char) :=
    match Text.characterOf? digits with
    | some c => .ok (c, rest)
    | none => .error .badCharacterCode
  if (cs.take width).length = width && (cs.take width).all (Text.isDigitIn 16) then
    code (cs.take width) (cs.drop width)
  else
    match cs with
    | '{' :: inside =>
      match inside.span (· != '}') with
      | (digits, '}' :: rest) =>
        if digits.isEmpty || 8 < digits.length then .error .badCharacterCode else code digits rest
      | _ => .error .badCharacterCode
    | _ => .error .badCharacterCode

/-- Reads the name after `\p` or `\P`: one character, or a name in braces. -/
def readProperty (negated ignoreCase : Bool) (cs : List Char) :
    Except Fault (CharSet × List Char) :=
  let named (name rest : List Char) : Except Fault (CharSet × List Char) :=
    match CharSet.ofProperty? name with
    | some s =>
      let s := s.withCase ignoreCase
      .ok (if negated then .compl s else s, rest)
    | none => .error .unknownProperty
  match cs with
  | '{' :: inside =>
    match inside.span (· != '}') with
    | (name, '}' :: rest) => named name rest
    | _ => .error .unknownProperty
  | c :: rest => named [c] rest
  | [] => .error .unknownEscape

/-- The controls that have a letter of their own. -/
def controlLetter? : Char → Option Char
  | 'a' => some '\x07'
  | 'f' => some '\x0c'
  | 'n' => some '\n'
  | 'r' => some '\r'
  | 't' => some '\t'
  | 'v' => some '\x0b'
  | 'e' => some '\x1b'
  | _ => none

/-- The sets of characters that have a letter of their own; the capital letter stands for the
complement. -/
def classLetter? : Char → Option CharSet
  | 'd' => some .digit
  | 'D' => some (.compl .digit)
  | 's' => some .blank
  | 'S' => some (.compl .blank)
  | 'w' => some .word
  | 'W' => some (.compl .word)
  | 'h' => some .hexDigit
  | 'H' => some (.compl .hexDigit)
  | _ => none

/-- What an escape for characters stands for. -/
inductive Escaped where
  /-- One character, with no meaning beyond itself. -/
  | char (c : Char)
  /-- A set of characters. -/
  | set (s : CharSet)
deriving Repr, DecidableEq

/-- The set of the characters that the escape stands for. -/
def Escaped.toSet (ignoreCase : Bool) : Escaped → CharSet
  | .char c => (CharSet.single c).withCase ignoreCase
  | .set s => s

/-- Reads an escape that stands for characters, from the character after the backslash on: a
control, a class, a property, a character number, or a character that is no ASCII letter or digit
and stands for itself. -/
def readEscape (ignoreCase : Bool) : List Char → Except Fault (Escaped × List Char)
  | [] => .error .trailingBackslash
  | c :: rest =>
    let number (width : Nat) : Except Fault (Escaped × List Char) := do
      let (d, rest) ← readCharacterCode width rest
      return (.char d, rest)
    match c with
    | 'x' => number 2
    | 'u' => number 4
    | 'U' => number 8
    | 'p' | 'P' => do
      let (s, rest) ← readProperty (c == 'P') ignoreCase rest
      return (.set s, rest)
    | _ =>
      match controlLetter? c, classLetter? c with
      | some d, _ => .ok (.char d, rest)
      | none, some s => .ok (.set s, rest)
      | none, none => if c.isAlphanum then .error .unknownEscape else .ok (.char c, rest)

end CodeShape.Regex
