/-!
# Sets of code points by their boundaries

A set of code points is written as the increasing list of the points at which membership changes:
it begins at the first boundary, ends before the second, begins again at the third, and so on. A
list of odd length describes a set that has no upper end.
-/

namespace CodeShape.Unicode

/-- Membership of `n` in the set with the given boundaries. -/
def within : List Nat → Nat → Bool
  | [], _ => false
  | [first], n => decide (first ≤ n)
  | first :: stop :: rest, n => if n < first then false else n < stop || within rest n

end CodeShape.Unicode
