import CodeShape.Regex.Automaton
import CodeShape.Regex.Error

/-!
# Plans for the backtracking search

An expression with lookarounds, repeated captures or other backtracking parts is turned into a
`Plan`. The parts of it that need no backtracking are handed to automata where that cannot change
the result: items of fixed size at the ends of a sequence, and whole parts from which nothing
follows that could fail. An automaton takes its preferred match and offers no other one.
-/

namespace CodeShape.Regex

/-- A plan of a backtracking search. -/
inductive Plan where
  /-- Takes nothing. -/
  | nothing
  /-- The preferred match of an automaton, which decides about the given groups. -/
  | delegate (groups : List Nat) (a : Automaton)
  /-- One character of a set. -/
  | chars (s : CharSet)
  | assert (a : Assertion)
  | cat (first second : Plan)
  | alt (first second : Plan)
  | group (index : Nat) (p : Plan)
  /-- At least `lo` and at most `hi` times. -/
  | repeated (lo : Nat) (hi : Option Nat) (greedy : Bool) (p : Plan)
  /-- Goes `n` characters back. -/
  | back (n : Nat)
  /-- The part has to match here, and takes nothing. -/
  | peek (p : Plan)
  /-- The part must not match here. -/
  | forbid (p : Plan)
  /-- The text that a group took last. -/
  | copyOf (group : Nat)
  /-- The first way of matching the part. -/
  | atomic (p : Plan)
  /-- Lets the reported match begin here. -/
  | keepOut
  /-- Only where the search began. -/
  | searchStart
deriving Repr

namespace Plan

/-- The sequence of a list of plans. -/
def cats : List Plan → Plan
  | [] => nothing
  | [p] => p
  | p :: rest => cat p (cats rest)

/-- The alternatives of a list of plans. -/
def alts : List Plan → Plan
  | [] => nothing
  | [p] => p
  | p :: rest => alt p (alts rest)

/-- Hands an expression to an automaton. -/
def delegating (e : Expr) : Plan :=
  delegate e.groups (Automaton.ofExpr e)

/-- Hands a list of items to one automaton. -/
def delegated : List Expr → List Plan
  | [] => []
  | es => [delegating (Expr.cats es)]

/-- Looks behind from the end of an item of fixed size. -/
def behind (size : Nat) (p : Plan) : Plan :=
  cat (back size) p

/-- May an item be delegated at the end of a sequence? Where the whole sequence is delicate, only an
item of fixed size may. -/
def mayDelegate (recalled : List Nat) (delicate : Bool) (e : Expr) : Bool :=
  !e.needsBacktracking recalled && (!delicate || e.fixedSize)

/-- Where the middle of a sequence begins and ends: before it stand items of fixed size, behind it
items that may be delegated. -/
def middle (recalled : List Nat) (delicate : Bool) (items : List Expr) : Nat × Nat :=
  let head := (items.takeWhile (mayDelegate recalled true)).length
  let tail := ((items.drop head).reverse.takeWhile (mayDelegate recalled delicate)).length
  (head, items.length - tail)

/-- A lookaround made of the plan of its part. -/
def lookaround (negated : Bool) (p : Plan) : Plan :=
  if negated then forbid p else peek p

/-- Looks behind for one of several parts, each of which has to be of fixed size: for a lookbehind
one of them has to match, for a negated one none may. -/
def lookbehinds (negated : Bool) (parts : List (Expr × Plan)) : Except Fault Plan := do
  let looks ← parts.mapM fun (e, p) =>
    if e.fixedSize then Except.ok (lookaround negated (behind e.minSize p))
    else Except.error Fault.unboundedLookbehind
  return if negated then cats looks else alts looks

/-- The plans of the items of a sequence: the middle ones as they are, the ones around it
delegated. -/
def sequence (recalled : List Nat) (delicate : Bool) (items : List Expr) (plans : List Plan) :
    Plan :=
  let (head, stop) := middle recalled delicate items
  cats (delegated (items.take head) ++ (plans.take stop).drop head ++ delegated (items.drop stop))

mutual

/-- The plan of an expression. `delicate` says that what follows may come back for another way of
matching; else an expression without backtracking parts is delegated as a whole. -/
def ofExpr (recalled : List Nat) (delicate : Bool) (e : Expr) : Except Fault Plan :=
  if !delicate && !e.needsBacktracking recalled then .ok (delegating e)
  else
    match e with
    | .empty => .ok nothing
    | .chars s => .ok (chars s)
    | .assert a => .ok (assert a)
    | .cat a b => do
      let first ← ofExpr recalled true a
      let rest ← match b with
        | .cat .. => ofItems recalled b
        | _ => return sequence recalled delicate [a, b] [first, ← ofExpr recalled true b]
      return sequence recalled delicate (a :: b.items) (first :: rest)
    | .alt a b => return alt (← ofExpr recalled delicate a) (← ofExpr recalled delicate b)
    | .parens e => ofExpr recalled delicate e
    | .group i e => return group i (← ofExpr recalled delicate e)
    | .repeated lo hi greedy e => do
      let optional := lo == 0 && hi == some 1
      return repeated lo hi greedy (← ofExpr recalled (delicate || !optional) e)
    | .look .ahead negated e => return lookaround negated (← ofExpr recalled false e)
    | .look .behind negated e => do
      let plan ← ofExpr recalled false e
      if e.fixedSize then return lookaround negated (behind e.minSize plan)
      else
        match ← ofBranches recalled e with
        | [] => .error .unboundedLookbehind
        | parts => lookbehinds negated parts
    | .backref g => .ok (copyOf g)
    | .atomic e => return atomic (← ofExpr recalled false e)
    | .keepOut => .ok keepOut
    | .searchStart => .ok searchStart

/-- The plans of the items of a sequence, each made for the middle of it. -/
def ofItems (recalled : List Nat) : Expr → Except Fault (List Plan)
  | .cat a b => do
    let first ← ofExpr recalled true a
    match b with
    | .cat .. => return first :: (← ofItems recalled b)
    | _ => return [first, ← ofExpr recalled true b]
  | _ => .ok []

/-- The branches of a choice with their plans, looking through parentheses around the choice. What
is no choice has none. -/
def ofBranches (recalled : List Nat) : Expr → Except Fault (List (Expr × Plan))
  | .parens e => ofBranches recalled e
  | .alt a b => do
    let first ← ofExpr recalled false a
    match b with
    | .alt .. => return (a, first) :: (← ofBranches recalled b)
    | _ => return [(a, first), (b, ← ofExpr recalled false b)]
  | _ => .ok []

end

end Plan

end CodeShape.Regex
