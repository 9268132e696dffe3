import CodeShape.Finding

/-!
# Rules

A rule is a pattern with the message and the severity to report it with, and the extensions of the
files it is meant for.
-/

namespace CodeShape

/-- A rule as the configuration gives it. -/
structure RuleEntry where
  name : String
  pattern : String
  /-- The message to report; the name if there is none. -/
  message : Option String := none
  severity : Severity := .error
  /-- Extensions of files, with or without the dot before them. No extension means every file. -/
  extensions : List String := []
deriving Repr, DecidableEq

/-- A rule that is ready to run. -/
structure Rule where
  name : String
  matcher : Pattern.Matcher
  message : String
  severity : Severity
  /-- Extensions without the dot before them. -/
  extensions : List (List Char)

namespace Rule

/-- The rule of an entry. -/
def ofEntry (e : RuleEntry) (limits : Pattern.Limits) : Except Pattern.Error Rule := do
  let matcher ← Pattern.Matcher.compile e.pattern.toList limits
  return {
    name := e.name
    matcher := matcher
    message := e.message.getD e.name
    severity := e.severity
    extensions := e.extensions.map fun ext => ext.toList.dropWhile (· == '.') }

/-- The rule of a pattern that stands by itself. -/
def adHoc (pattern : String) (message : Option String) (severity : Severity)
    (limits : Pattern.Limits) : Except Pattern.Error Rule := do
  let matcher ← Pattern.Matcher.compile pattern.toList limits
  return {
    name := pattern
    matcher := matcher
    message := message.getD ("matched `" ++ pattern ++ "`")
    severity := severity
    extensions := [] }

/-- Is the rule meant for a file? Extensions are compared without regard to the case of ASCII
letters. -/
def appliesTo (r : Rule) (path : Path) : Bool :=
  r.extensions.isEmpty ||
    r.extensions.any fun ext => ext.map Char.toLower == path.extension.map Char.toLower

/-- Reports every place of the rule's pattern, if the rule is meant for the file. -/
def run (r : Rule) (c : Collector) : Collector :=
  if r.appliesTo c.path then c.report (.pattern r.matcher) r.message r.severity else c

end Rule

end CodeShape
