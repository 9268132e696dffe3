import CodeShape.Regex.Backtrack
import CodeShape.Regex.Parser

/-!
# Searching a text with a regular expression

`Searcher.compile` reads an expression and decides how it is searched: by an automaton if no part of
it needs backtracking, else by a plan that first goes to the place where the match begins.
`Searcher.next` gives the matches of a text one after the other. They do not overlap, except that
`\K` in a lookbehind may let a match begin before the end of the last one; an empty match directly
behind the last match is passed over.
-/

namespace CodeShape.Regex

/-- The two ways to search for an expression. -/
inductive Method where
  | automaton (a : Automaton)
  | backtracking (p : Plan)
deriving Repr

/-- A regular expression that is ready to search with. -/
structure Searcher where
  /-- The expression as written. -/
  written : List Char
  /-- The number of capturing groups. -/
  groups : Nat
  /-- The names of groups, the latest one first. -/
  names : List (String × Nat)
  method : Method
deriving Repr

/-- An expression with more leaves than this is too large to be searched for. -/
def maxLeaves : Nat := 20000

/-- A plan for a match that may begin anywhere from the start of the search on. -/
def Plan.anywhere (p : Plan) : Plan :=
  .cat (.repeated 0 none false (.chars .all)) (.group 0 p)

/-- The method by which an expression is searched. -/
def Method.ofExpr (e : Expr) : Except Fault Method := do
  let recalled := e.recalledGroups
  if maxLeaves < Automaton.leafCount e then .error .tooLarge
  else if e.needsBacktracking recalled then
    return .backtracking (← Plan.ofExpr recalled true e).anywhere
  else return .automaton (Automaton.ofExpr e)

/-- A match: where it begins and ends, and the slots of its groups. -/
structure Match where
  start : Nat
  stop : Nat
  slots : Slots
deriving Repr

namespace Match

/-- The match that a list of slots describes. What is reported never begins behind its end. -/
def ofSlots? (slots : Slots) : Option Match :=
  (slots.span? 0).map fun (start, stop) => ⟨min start stop, stop, slots⟩

/-- The start and the end of a group that took part; group 0 is the match itself. -/
def span? (m : Match) (group : Nat) : Option (Nat × Nat) :=
  if group = 0 then some (m.start, m.stop) else m.slots.span? group

end Match

/-- The answer to one search. -/
inductive Answer where
  | found (m : Match)
  | missing
  /-- The backtracking budget was spent. -/
  | exhausted
deriving Repr

/-- How far a text has been searched: where the next search begins, and where the last match
ended. -/
structure Cursor where
  next : Nat := 0
  last : Option Nat := none
deriving Repr, DecidableEq

namespace Searcher

/-- Reads an expression. -/
def compile (written : List Char) : Except Fault Searcher := do
  let source ← parse written
  return ⟨written, source.groups, source.names, ← Method.ofExpr source.expr⟩

/-- The name of a group. A name given twice belongs to the later group. -/
def nameOf? (s : Searcher) (group : Nat) : Option String :=
  (s.names.find? fun (name, g) => g == group && s.names.lookup name == some g).map (·.1)

/-- Searches for the first match from position `start` on. `origin` is the position to which `\G`
is tied. -/
def search (s : Searcher) (budget : Nat) (text : Array Char) (start : Nat) (origin : Option Nat) :
    Answer :=
  let answer (slots : Slots) : Answer :=
    match Match.ofSlots? slots with
    | some m => .found m
    | none => .missing
  match s.method with
  | .automaton a =>
    match a.find text false start with
    | some slots => answer slots
    | none => .missing
  | .backtracking p =>
    match (Subject.mk text origin).explore budget (some ⟨[.plan p], start, []⟩) [] with
    | .found _ slots _ => answer slots
    | .missing _ => .missing
    | .exhausted => .exhausted

/-- The next match, with the cursor behind it. -/
def next (s : Searcher) (budget : Nat) (text : Array Char) (c : Cursor) : Answer × Cursor :=
  if text.size < c.next then (.missing, c)
  else
    let origin := if c.last.any (· < c.next) then none else some c.next
    match s.search budget text c.next origin with
    | .found m =>
      if m.start = m.stop then
        if c.last = some m.stop ∧ c.next ≤ m.stop then
          s.next budget text { c with next := m.stop + 1 }
        else (.found m, ⟨m.stop + 1, some m.stop⟩)
      else (.found m, ⟨m.stop, some m.stop⟩)
    | answer => (answer, c)
termination_by text.size + 1 - c.next

/-- The matches from a cursor on, at most `limit` of them. -/
def matchesFrom (s : Searcher) (budget : Nat) (text : Array Char) : Nat → Cursor → List Match
  | 0, _ => []
  | limit + 1, c =>
    match s.next budget text c with
    | (.found m, c) => m :: matchesFrom s budget text limit c
    | _ => []

/-- Does the text hold a match? -/
def isMatch (s : Searcher) (budget : Nat) (text : Array Char) : Bool :=
  match s.search budget text 0 (some 0) with
  | .found _ => true
  | _ => false

end Searcher

end CodeShape.Regex
