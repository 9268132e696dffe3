/-!
# Line numbers

A `LineIndex` holds the byte offset at which each line of a text begins. The line of an offset is
found by bisection: it is the number of lines that begin there or before, in 32 bits.
-/

namespace CodeShape

/-- The byte offsets at which the lines of a text begin, in increasing order. -/
structure LineIndex where
  starts : Array Nat
deriving Repr

namespace LineIndex

/-- The offsets at which lines begin behind the newlines of a text that begins at offset `pos`. -/
def startsFrom (pos : Nat) : List Char → List Nat
  | [] => []
  | c :: rest =>
    let next := pos + c.utf8Size
    if c = '\n' then next :: startsFrom next rest else startsFrom next rest

/-- The index of a text. -/
def ofText (cs : List Char) : LineIndex :=
  ⟨(0 :: startsFrom 0 cs).toArray⟩

/-- Looks for an offset in an increasing array, from index `lo` up to index `hi`. The answer is the index
at which it stands, or else, as an error, the index at which it would have to be inserted. -/
def locate (starts : Array Nat) (offset lo hi : Nat) : Except Nat Nat :=
  if lo < hi then
    let mid := (lo + hi) / 2
    let start := starts.getD mid 0
    if start = offset then .ok mid
    else if start < offset then locate starts offset (mid + 1) hi
    else locate starts offset lo mid
  else .error lo
termination_by hi - lo

/-- How many entries are at most the offset, by the answer of the search for it. -/
def entriesUpTo : Except Nat Nat → Nat
  | .ok found => found + 1
  | .error place => place

/-- Line numbers are words of 32 bits: so many of them are there. -/
def lineNumbers : Nat := 0x100000000

/-- The number of the line that holds the byte at `offset`, counted from 1. Offsets behind the end
belong to the last line. -/
def lineOf (index : LineIndex) (offset : Nat) : Nat :=
  entriesUpTo (locate index.starts offset 0 index.starts.size) % lineNumbers

end LineIndex

end CodeShape
