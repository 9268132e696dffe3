import CodeShape.Regex.CharSet

/-!
# Regular expressions

The tree of a regular expression: sets of characters, sequences, alternatives, repetitions and
groups, and beside these the parts that need backtracking: looking around, repeating what a group
has matched, and atomic parts.

Three measures of a tree steer how it is searched: the least number of characters it takes
(`minSize`), whether it always takes the same number (`fixedSize`), and whether it needs
backtracking (`needsBacktracking`).
-/

namespace CodeShape.Regex

/-- A condition on a position of the text. -/
inductive Assertion where
  | textStart
  | textEnd
  | lineStart
  | lineEnd
  /-- Between a word character and something else. -/
  | wordEdge
  | notWordEdge
  | wordStart
  | wordEnd
deriving Repr, DecidableEq

namespace Assertion

/-- Does the condition hold before character `i` of the text? -/
def holds (a : Assertion) (text : Array Char) (i : Nat) : Bool :=
  let before : Option Char := if i = 0 then none else text[i - 1]?
  let after : Option Char := text[i]?
  let wordBefore := before.any Unicode.isWord
  let wordAfter := after.any Unicode.isWord
  match a with
  | textStart => before.isNone
  | textEnd => after.isNone
  | lineStart => before.all (· == '\n')
  | lineEnd => after.all (· == '\n')
  | wordEdge => wordBefore != wordAfter
  | notWordEdge => wordBefore == wordAfter
  | wordStart => !wordBefore && wordAfter
  | wordEnd => wordBefore && !wordAfter

/-- Conditions on words are left to the backtracking search. -/
def isAboutWords : Assertion → Bool
  | wordEdge | notWordEdge | wordStart | wordEnd => true
  | textStart | textEnd | lineStart | lineEnd => false

end Assertion

/-- The side to which a lookaround looks. -/
inductive Side where
  | ahead
  | behind
deriving Repr, DecidableEq

/-- A regular expression. -/
inductive Expr where
  /-- Takes nothing. -/
  | empty
  /-- One character of a set. -/
  | chars (s : CharSet)
  /-- A condition on the position. -/
  | assert (a : Assertion)
  /-- One after the other. -/
  | cat (first second : Expr)
  /-- The first if possible, else the second. -/
  | alt (first second : Expr)
  /-- Parentheses that capture nothing. -/
  | parens (e : Expr)
  /-- Parentheses that capture as group `index`. -/
  | group (index : Nat) (e : Expr)
  /-- At least `lo` and at most `hi` times, as often as possible if `greedy`, else as seldom. -/
  | repeated (lo : Nat) (hi : Option Nat) (greedy : Bool) (e : Expr)
  /-- Looks without taking anything. -/
  | look (side : Side) (negated : Bool) (e : Expr)
  /-- The text that a group took last. -/
  | backref (group : Nat)
  /-- The first way of matching, never another one. -/
  | atomic (e : Expr)
  /-- Lets the reported match begin here. -/
  | keepOut
  /-- Only where the search began. -/
  | searchStart
deriving Repr, DecidableEq

namespace Expr

/-- The sequence of a list of expressions. -/
def cats : List Expr → Expr
  | [] => empty
  | [e] => e
  | e :: rest => cat e (cats rest)

/-- The alternatives of a list of expressions, the first one preferred. -/
def alts : List Expr → Expr
  | [] => empty
  | [e] => e
  | e :: rest => alt e (alts rest)

/-- The items of a sequence. -/
def items : Expr → List Expr
  | cat a b => a :: b.items
  | e => [e]

/-- Does the expression consist of nothing, but perhaps parentheses? -/
def isBlank : Expr → Bool
  | empty => true
  | parens e => e.isBlank
  | _ => false

/-- Nothing, conditions and lookarounds cannot be repeated. -/
def isRepeatable : Expr → Bool
  | empty | assert _ | look .. => false
  | parens e => e.isRepeatable
  | _ => true

/-- The least number of characters that a match takes. -/
def minSize : Expr → Nat
  | chars _ => 1
  | cat a b => a.minSize + b.minSize
  | alt a b => min a.minSize b.minSize
  | parens e | group _ e | atomic e => e.minSize
  | repeated lo _ _ e => lo * e.minSize
  | empty | assert _ | look .. | backref _ | keepOut | searchStart => 0

/-- Do all matches take the same number of characters? -/
def fixedSize : Expr → Bool
  | cat a b => a.fixedSize && b.fixedSize
  | alt a b => a.fixedSize && b.fixedSize && a.minSize == b.minSize
  | parens e | group _ e | atomic e => e.fixedSize
  | repeated lo hi _ e => e.fixedSize && hi == some lo
  | backref _ => false
  | empty | chars _ | assert _ | look .. | keepOut | searchStart => true

/-- Does the search for this expression need backtracking? It does for lookarounds, conditions on
words, atomic parts and repeated captures, and for the groups in `recalled`, whose text is needed
while the search still runs. -/
def needsBacktracking (recalled : List Nat) : Expr → Bool
  | cat a b | alt a b => a.needsBacktracking recalled || b.needsBacktracking recalled
  | parens e | repeated _ _ _ e => e.needsBacktracking recalled
  | group i e => recalled.contains i || e.needsBacktracking recalled
  | assert a => a.isAboutWords
  | look .. | backref _ | atomic _ | keepOut | searchStart => true
  | empty | chars _ => false

/-- The groups whose text is needed while the search runs. -/
def recalledGroups : Expr → List Nat
  | cat a b | alt a b => a.recalledGroups ++ b.recalledGroups
  | parens e | repeated _ _ _ e | group _ e | look _ _ e | atomic e => e.recalledGroups
  | backref g => [g]
  | empty | chars _ | assert _ | keepOut | searchStart => []

/-- The groups of an expression, in order. -/
def groups : Expr → List Nat
  | cat a b | alt a b => a.groups ++ b.groups
  | parens e | repeated _ _ _ e | look _ _ e | atomic e => e.groups
  | group i e => i :: e.groups
  | empty | chars _ | assert _ | backref _ | keepOut | searchStart => []

end Expr

/-- An expression as it was read: the tree, the number of capturing groups and the names, each with
the group that owns it. -/
structure Source where
  expr : Expr
  groups : Nat
  names : List (String × Nat)
deriving Repr

end CodeShape.Regex
