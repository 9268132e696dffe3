import CodeShape.Pattern.Token

/-!
# Classified matches
-/

namespace CodeShape.Pattern

/-- The captured texts of a match by category, each list in the order of the captures. -/
structure MatchResult where
  /-- What variables stand for. -/
  names : List String := []
  literals : List String := []
  keywords : List String := []
  operators : List String := []
  blocks : List String := []
  others : List String := []
deriving Repr, DecidableEq

namespace MatchResult

/-- Has nothing been captured? -/
def isEmpty (m : MatchResult) : Bool :=
  m.names.isEmpty && m.literals.isEmpty && m.keywords.isEmpty && m.operators.isEmpty &&
    m.blocks.isEmpty && m.others.isEmpty

/-- The captured texts of one category. -/
def get (m : MatchResult) : Category → List String
  | .variable => m.names
  | .literal => m.literals
  | .keyword => m.keywords
  | .operator => m.operators
  | .block => m.blocks
  | .other => m.others

/-- The result whose lists are given by category. -/
def ofLists (texts : Category → List String) : MatchResult where
  names := texts .variable
  literals := texts .literal
  keywords := texts .keyword
  operators := texts .operator
  blocks := texts .block
  others := texts .other

@[simp] theorem get_ofLists (texts : Category → List String) (c : Category) :
    (ofLists texts).get c = texts c := by
  cases c <;> rfl

/-- Sorts captured texts by their categories. -/
def classify (captured : List (Category × String)) : MatchResult :=
  ofLists fun c => captured.filterMap fun (d, text) => if d = c then some text else none

end MatchResult

end CodeShape.Pattern
