import CodeShape.Grammar
import CodeShape.Pattern.Token

/-!
# The layout of a pattern

Blanks in a pattern stand for any blanks, or none, in the searched text. So that `if()` and `if ()`
are the same pattern, `pad` sets identifiers, literals, brackets and semicolons apart by spaces, and
`normalize` then splits the text into runs of blanks and the text between them, which is quoted for
the regular expression.
-/

namespace CodeShape.Pattern

/-- A part of a pattern with its layout settled. -/
inductive Segment where
  /-- A run of blanks. -/
  | space
  /-- Quoted plain text. -/
  | text (quoted : List Char)
  | token (t : Token)
deriving Repr, DecidableEq

/-! ## Padding -/

/-- A character with which an identifier may begin. -/
def isIdentifierStart (c : Char) : Bool :=
  c.isAlpha || c == '$' || c == '_'

/-- A character that an identifier may hold. -/
def isIdentifierChar (c : Char) : Bool :=
  c.isAlphanum || c == '$' || c == '_'

/-- A character that always stands by itself. -/
def isBoundary (c : Char) : Bool :=
  ['(', ')', '{', '}', '[', ']', ';'].contains c

/-- Sets a run of characters apart by spaces. -/
def setApart (run : List Char) : List Char :=
  ' ' :: (run ++ [' '])

/-- Sets the words that `next?` finds apart by spaces. `next?` splits off the word at the front of a
text, if one stands there; it never splits off nothing. -/
def padWords (next? : List Char → Option (List Char × List Char)) (cs : List Char) : List Char :=
  match cs with
  | [] => []
  | c :: rest =>
    match next? (c :: rest) with
    | some (word, after) =>
      if _h : after.length < (c :: rest).length then setApart word ++ padWords next? after
      else c :: padWords next? rest
    | none => c :: padWords next? rest
termination_by cs.length
decreasing_by
  · exact _h
  · exact Nat.lt_succ_self _
  · exact Nat.lt_succ_self _

/-- Splits off the identifier at the front. -/
def identifier? : List Char → Option (List Char × List Char)
  | [] => none
  | c :: rest =>
    if isIdentifierStart c then
      some (c :: rest.takeWhile isIdentifierChar, rest.dropWhile isIdentifierChar)
    else none

/-- Splits off what stands between a delimiter and its next occurrence, delimiters included. -/
def delimited? (delimiter : Char) : List Char → Option (List Char × List Char)
  | [] => none
  | c :: rest =>
    if c == delimiter then
      match rest.span (· != delimiter) with
      | (inside, stop :: after) => some (c :: inside ++ [stop], after)
      | _ => none
    else none

/-- Splits off an unsigned number: a digit, and the word characters and dots that follow it. -/
def unsigned? : List Char → Option (List Char × List Char)
  | [] => none
  | c :: rest =>
    if Unicode.isDigit c then
      let goesOn (c : Char) : Bool := Unicode.isWord c || c == '.'
      some (c :: rest.takeWhile goesOn, rest.dropWhile goesOn)
    else none

/-- Splits off a number, which may have a minus sign. -/
def number? : List Char → Option (List Char × List Char)
  | '-' :: rest => (unsigned? rest).map fun (digits, after) => ('-' :: digits, after)
  | cs => unsigned? cs

/-- Splits off a given word. -/
def word? (word cs : List Char) : Option (List Char × List Char) :=
  if word.isPrefixOf cs then some (word, cs.drop word.length) else none

/-- Splits off the literal at the front: a string, a number, a regular expression or one of the
literal keywords. -/
def literal? (cs : List Char) : Option (List Char × List Char) :=
  let readers : List (List Char → Option (List Char × List Char)) :=
    [delimited? '"', delimited? '\'', delimited? '\x60', number?, delimited? '/'] ++
      Grammar.literalKeywords.map fun w => word? w.toList
  readers.findSome? (· cs)

/-- Sets identifiers, then literals, then brackets and semicolons apart by spaces. -/
def pad (text : List Char) : List Char :=
  (padWords literal? (padWords identifier? text)).flatMap fun c =>
    if isBoundary c then setApart [c] else [c]

/-! ## Segments -/

/-- Splits a text into runs of blanks and the text between them. -/
def splitBlanks (cs : List Char) : List Segment :=
  match cs with
  | [] => []
  | c :: rest =>
    if Unicode.isBlank c then .space :: splitBlanks (rest.dropWhile Unicode.isBlank)
    else
      let inText (c : Char) : Bool := !Unicode.isBlank c
      .text (Regex.quote (c :: rest.takeWhile inText)) :: splitBlanks (rest.dropWhile inText)
termination_by cs.length
decreasing_by
  all_goals
    exact Nat.lt_succ_of_le (length_dropWhile_le _ _)

/-- The segments of a piece. A block stands flush against its neighbours; every other token stands
between blanks. -/
def Piece.segments : Piece → List Segment
  | text cs => splitBlanks (pad cs)
  | token (.block greedy id) => [.token (.block greedy id)]
  | token t => [.space, .token t, .space]

/-- The segments of a list of pieces. -/
def normalize (pieces : List Piece) : List Segment :=
  pieces.flatMap Piece.segments

end CodeShape.Pattern
