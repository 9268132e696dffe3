import CodeShape.Grammar
import CodeShape.Pattern.Segment

/-!
# From segments to one expression

`bind` turns every token into an expression: the first token of an identity captures a word of its
category, and each later one demands the text that was captured. `relax` then merges the blanks of
the pattern and drops those at its ends, and `assemble` writes everything as one regular expression.
-/

namespace CodeShape.Pattern

/-- A part of the assembled expression. -/
inductive Fragment where
  /-- Blanks. -/
  | space
  /-- Quoted text, a capture or a reference to one. -/
  | expr (e : List Char)
  /-- The capture of a raw expression. -/
  | raw (e : List Char)
deriving Repr, DecidableEq

/-! ## Captures -/

/-- The name of the capture with a given number. -/
def captureName (n : Nat) : String :=
  "__cg" ++ toString n

/-- The captures of a pattern: the category of each by its number, and the number of the capture for
each identity of a category. -/
structure Captures where
  categories : List Category := []
  bound : List ((Category × Identity) × Nat) := []
deriving Repr, DecidableEq

namespace Captures

/-- The number of captures. -/
def size (c : Captures) : Nat :=
  c.categories.length

/-- The category of the capture with the given name; a name that no capture has is in the category
`other`. -/
def category (c : Captures) (name : String) : Category :=
  let named := (List.range c.size).map captureName
  ((named.zip c.categories).lookup name).getD .other

/-- Adds a capture. -/
def define (c : Captures) (category : Category) : Captures :=
  { c with categories := c.categories ++ [category] }

end Captures

/-- A capture of the expression `body`. -/
def capture (n : Nat) (body : List Char) : List Char :=
  "(?P<".toList ++ (captureName n).toList ++ '>' :: body ++ [')']

/-- A reference to a capture. -/
def reference (n : Nat) : List Char :=
  "\\k<".toList ++ (captureName n).toList ++ ['>']

/-- The expression for one word of a token's kind, and the identity it has. -/
def Token.body : Token → List Char
  | .variable _ => Grammar.variableName
  | .literal _ => Grammar.literal
  | .operator _ => Grammar.operator
  | .keyword _ => Grammar.keyword
  | .block true _ => Grammar.greedyBlock
  | .block false _ => Grammar.lazyBlock
  | .raw body => body

/-- Binds a token: to a new capture, or to the one that its identity has already. -/
def bindToken (c : Captures) (t : Token) : Fragment × Captures :=
  let fresh := capture c.size t.body
  match t.identity? with
  | none => (.raw fresh, c.define t.category)
  | some id =>
    match c.bound.lookup (t.category, id) with
    | some n => (.expr (reference n), c)
    | none =>
      let defined := c.define t.category
      (.expr fresh, { defined with bound := ((t.category, id), c.size) :: c.bound })

/-- Binds the tokens of a list of segments, the captures so far being given. -/
def bindFrom (c : Captures) : List Segment → List Fragment × Captures
  | [] => ([], c)
  | .space :: rest =>
    let (fragments, c) := bindFrom c rest
    (.space :: fragments, c)
  | .text quoted :: rest =>
    let (fragments, c) := bindFrom c rest
    (.expr quoted :: fragments, c)
  | .token t :: rest =>
    let (fragment, c) := bindToken c t
    let (fragments, c) := bindFrom c rest
    (fragment :: fragments, c)

/-- Binds the tokens of a pattern. -/
def bind (segments : List Segment) : List Fragment × Captures :=
  bindFrom {} segments

/-! ## Blanks -/

/-- Merges blanks that stand side by side. -/
def mergeSpaces : List Fragment → List Fragment
  | .space :: .space :: rest => mergeSpaces (.space :: rest)
  | f :: rest => f :: mergeSpaces rest
  | [] => []

/-- Drops the blanks at the end. -/
def dropLastSpace (fragments : List Fragment) : List Fragment :=
  if fragments.getLast? = some .space then fragments.dropLast else fragments

/-- Drops the blanks at the beginning. -/
def dropFirstSpace : List Fragment → List Fragment
  | .space :: rest => rest
  | fragments => fragments

/-- Merges the blanks between fragments and drops those at the ends, so that what surrounds a pattern
never hinders a match. -/
def relax (fragments : List Fragment) : List Fragment :=
  dropLastSpace (dropFirstSpace (mergeSpaces fragments))

/-- The expression of a fragment. -/
def Fragment.written : Fragment → List Char
  | space => Grammar.blanks
  | expr e => e
  | raw e => e

/-- The expression of a list of fragments. -/
def assemble (fragments : List Fragment) : List Char :=
  fragments.flatMap Fragment.written

end CodeShape.Pattern
