/-!
# Why an expression is refused
-/

namespace CodeShape.Regex

/-- The reasons for which a regular expression is refused. -/
inductive Fault where
  /-- The expression ends with a lone backslash. -/
  | trailingBackslash
  /-- An escape that has no meaning. -/
  | unknownEscape
  /-- A character number that is malformed or names no character. -/
  | badCharacterCode
  /-- `\p{…}` with a name that no property has. -/
  | unknownProperty
  /-- A bracketed class that never ends. -/
  | unclosedClass
  /-- A range in a class that runs backwards or has a class for an end. -/
  | badRange
  /-- A parenthesis that is never closed. -/
  | unclosedGroup
  /-- A closing parenthesis that closes nothing. -/
  | strayClose
  /-- Parentheses nested too deeply. -/
  | tooDeep
  /-- A group name that is empty or not closed. -/
  | badGroupName
  /-- A flag that does not exist. -/
  | unknownFlag
  /-- A reference to a group that does not exist. -/
  | unknownGroup
  /-- A numbered reference beside named groups. -/
  | numberBesideNames
  /-- A quantifier with nothing before it that could be repeated. -/
  | nothingToRepeat
  /-- A repetition whose upper limit is below its lower one. -/
  | emptyRepetition
  /-- Looking behind for something that has no fixed length. -/
  | unboundedLookbehind
  /-- The expression is too large. -/
  | tooLarge
deriving Repr, DecidableEq

end CodeShape.Regex
