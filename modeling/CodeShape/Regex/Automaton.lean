import CodeShape.Regex.Expr

/-!
# The automaton of an expression

An expression without backtracking parts is searched by an automaton whose states are the places of
the expression that take a character (its *leaves*), after Glushkov. `Automaton.ofExpr` lists, in
order of preference, the leaves with which a match can begin and for each leaf those that can follow
it; such an `Edge` carries the conditions to check and the slots to set on the way. A search keeps
the ordered list of the leaves reached, at most one entry per leaf, and so needs one pass over the
text.

Preference is that of a backtracking search: of two ways to the same leaf at the same place the
preferred one stays, and a way that completes the match ends all ways that come after it.
-/

namespace CodeShape.Regex

/-- The slots set by a search, the latest first. Slots `2 * g` and `2 * g + 1` hold the start and
the end of group `g`. -/
abbrev Slots := List (Nat × Option Nat)

namespace Slots

/-- The value of a slot. -/
def get? (s : Slots) (slot : Nat) : Option Nat :=
  (s.lookup slot).join

/-- The start and the end of a group that took part. -/
def span? (s : Slots) (group : Nat) : Option (Nat × Nat) :=
  match s.get? (2 * group), s.get? (2 * group + 1) with
  | some start, some stop => some (start, stop)
  | _, _ => none

/-- Sets slots to one position. -/
def mark (s : Slots) (slots : List Nat) (pos : Nat) : Slots :=
  slots.foldl (fun s slot => (slot, some pos) :: s) s

end Slots

/-- A way to a leaf, or to the end of the match if there is no `leaf`. -/
structure Edge where
  leaf : Option Nat
  conditions : List Assertion
  slots : List Nat
deriving Repr, DecidableEq

namespace Edge

/-- The edge that completes the match. -/
def accept : Edge :=
  ⟨none, [], []⟩

/-- The edge, with one more slot to set. -/
def setting (slot : Nat) (e : Edge) : Edge :=
  { e with slots := slot :: e.slots }

/-- The edge, with one more condition. -/
def requiring (a : Assertion) (e : Edge) : Edge :=
  { e with conditions := a :: e.conditions }

end Edge

/-- A place of the expression that takes a character, and the ways onwards. -/
structure Leaf where
  set : CharSet
  next : List Edge
deriving Repr

/-- An automaton: the ways in, and the leaves. -/
structure Automaton where
  start : List Edge
  leaves : Array Leaf
deriving Repr

namespace Automaton

/-- The number of leaves of an expression, repetitions written out. -/
def leafCount : Expr → Nat
  | .chars _ => 1
  | .cat a b | .alt a b => leafCount a + leafCount b
  | .parens e | .group _ e | .atomic e => leafCount e
  | .repeated lo hi _ e => (hi.getD (max lo 1)) * leafCount e
  | .empty | .assert _ | .look .. | .backref _ | .keepOut | .searchStart => 0

/-- Two lists of ways, the first one preferred if `greedy`, else the second. -/
def prefer (greedy : Bool) (again onward : List Edge) : List Edge :=
  if greedy then again ++ onward else onward ++ again

/-- A fragment of an automaton: the ways in, and its leaves in order. -/
structure Fragment where
  start : List Edge
  leaves : List Leaf
deriving Repr

/-- A builder of fragments for one expression: takes the number of the first leaf and the ways
onward. -/
abbrev Builder := Nat → List Edge → Fragment

/-- `n` copies one after the other, each with `size` leaves. -/
def copies (size : Nat) (body : Builder) : Nat → Builder
  | 0 => fun _ onward => ⟨onward, []⟩
  | n + 1 => fun first onward =>
    let rest := copies size body n (first + size) onward
    let head := body first rest.start
    ⟨head.start, head.leaves ++ rest.leaves⟩

/-- Up to `n` copies, each one inside the one before it. -/
def optionals (greedy : Bool) (size : Nat) (body : Builder) : Nat → Builder
  | 0 => fun _ onward => ⟨onward, []⟩
  | n + 1 => fun first onward =>
    let rest := optionals greedy size body n (first + size) onward
    let head := body first rest.start
    ⟨prefer greedy head.start onward, head.leaves ++ rest.leaves⟩

/-- One copy that may be repeated. A repetition that took nothing is not repeated again. -/
def plus (greedy : Bool) (body : Builder) : Builder := fun first onward =>
  let again := prefer greedy (body first []).start onward
  ⟨(body first onward).start, (body first again).leaves⟩

/-- One copy that may be left out or repeated. -/
def star (greedy : Bool) (body : Builder) : Builder := fun first onward =>
  let again := prefer greedy (body first []).start onward
  let ways := if greedy then (body first onward).start ++ onward else again
  ⟨ways, (body first again).leaves⟩

/-- The fragment of an expression. Parts that need backtracking are taken for nothing. -/
def fragment : Expr → Builder
  | .chars s => fun first onward => ⟨[⟨some first, [], []⟩], [⟨s, onward⟩]⟩
  | .assert a => fun _ onward => ⟨onward.map (.requiring a), []⟩
  | .cat a b => fun first onward =>
    let second := fragment b (first + leafCount a) onward
    let head := fragment a first second.start
    ⟨head.start, head.leaves ++ second.leaves⟩
  | .alt a b => fun first onward =>
    let one := fragment a first onward
    let other := fragment b (first + leafCount a) onward
    ⟨one.start ++ other.start, one.leaves ++ other.leaves⟩
  | .parens e | .atomic e => fragment e
  | .group i e => fun first onward =>
    let inner := fragment e first (onward.map (.setting (2 * i + 1)))
    ⟨inner.start.map (.setting (2 * i)), inner.leaves⟩
  | .repeated lo (some hi) greedy e => fun first onward =>
    let size := leafCount e
    let rest := optionals greedy size (fragment e) (hi - lo) (first + lo * size) onward
    let head := copies size (fragment e) lo first rest.start
    ⟨head.start, head.leaves ++ rest.leaves⟩
  | .repeated 0 none greedy e => star greedy (fragment e)
  | .repeated (lo + 1) none greedy e => fun first onward =>
    let size := leafCount e
    let last := plus greedy (fragment e) (first + lo * size) onward
    let head := copies size (fragment e) lo first last.start
    ⟨head.start, head.leaves ++ last.leaves⟩
  | .empty | .look .. | .backref _ | .keepOut | .searchStart => fun _ onward => ⟨onward, []⟩

/-- The automaton of an expression. -/
def ofExpr (e : Expr) : Automaton :=
  let f := fragment e 0 [.accept]
  ⟨f.start, f.leaves.toArray⟩

/-- A leaf that waits for the next character, with the slots set on the way to it. -/
structure Thread where
  leaf : Nat
  slots : Slots
deriving Repr

/-- A step of a search: the leaves reached, the last one first, and the slots of the match that was
completed, if one was. -/
structure Frontier where
  threads : List Thread
  done : Option Slots
deriving Repr

/-- Follows edges at position `pos`, in order, until one completes the match. -/
def Frontier.follow (text : Array Char) (pos : Nat) (slots : Slots) :
    List Edge → Frontier → Frontier
  | [], f => f
  | e :: rest, f =>
    if f.done.isSome then f
    else if e.conditions.all (·.holds text pos) then
      match e.leaf with
      | none => { f with done := some (slots.mark e.slots pos) }
      | some leaf =>
        if f.threads.any (·.leaf == leaf) then follow text pos slots rest f
        else
          follow text pos slots rest
            { f with threads := ⟨leaf, slots.mark e.slots pos⟩ :: f.threads }
    else follow text pos slots rest f

/-- Lets every leaf take the character before position `pos`, in order, until a match is
completed. -/
def advance (a : Automaton) (text : Array Char) (pos : Nat) (c : Char) :
    List Thread → Frontier → Frontier
  | [], f => f
  | t :: rest, f =>
    if f.done.isSome then f
    else
      match a.leaves[t.leaf]? with
      | some leaf =>
        if leaf.set.contains c then a.advance text pos c rest (f.follow text pos t.slots leaf.next)
        else a.advance text pos c rest f
      | none => a.advance text pos c rest f

/-- The slots of the whole match: group 0 begins at `start` and ends at `stop`. -/
def complete (slots : Slots) (stop : Nat) : Slots :=
  (1, some stop) :: slots

/-- Searches on from position `pos` with the given leaves. A new match may begin at every position
unless the search is `anchored` or a match has been found; `best` is the match found last. -/
def search (a : Automaton) (text : Array Char) (anchored : Bool) (pos : Nat)
    (threads : List Thread) (best : Option Slots) : Option Slots :=
  if threads.isEmpty && (anchored || best.isSome) then best
  else
    if h : pos < text.size then
      let stepped := a.advance text (pos + 1) text[pos] threads ⟨[], none⟩
      let best := (stepped.done.map (complete · (pos + 1))).orElse fun _ => best
      let frontier :=
        if anchored || best.isSome then stepped
        else stepped.follow text (pos + 1) [(0, some (pos + 1))] a.start
      let best := (frontier.done.map (complete · (pos + 1))).orElse fun _ => best
      a.search text anchored (pos + 1) frontier.threads.reverse best
    else best
termination_by text.size - pos

/-- The preferred match that begins at `pos` or, unless `anchored`, at the first position from there
on at which one begins. -/
def find (a : Automaton) (text : Array Char) (anchored : Bool) (pos : Nat) : Option Slots :=
  let first := (⟨[], none⟩ : Frontier).follow text pos [(0, some pos)] a.start
  a.search text anchored pos first.threads.reverse (first.done.map (complete · pos))

end Automaton

end CodeShape.Regex
