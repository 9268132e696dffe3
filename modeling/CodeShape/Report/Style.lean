import CodeShape.Severity

/-!
# Styled text

The colours of a report, and text with changes of style in it, which is shown either without any
style or with the control sequences of a terminal.
-/

namespace CodeShape.Report

/-- The colours in use. -/
inductive Color where
  | red
  | yellow
  | cyan
deriving Repr, DecidableEq

/-- A style: a colour, if it is not the default one, and bold or not. -/
structure Style where
  color : Option Color := none
  bold : Bool := false
deriving Repr, DecidableEq

namespace Style

/-- The severity of a finding. -/
def severity (s : Severity) : Style where
  color := match s with
    | .error => some .red
    | .warn => some .yellow
    | .info => some .cyan
  bold := true

/-- The message of a finding. -/
def message : Style := { bold := true }

/-- The path of a file. -/
def path : Style := { color := some .cyan }

/-- The number of a line. -/
def lineNumber : Style := { color := some .yellow }

/-- The text of a finding. -/
def matched : Style := {}

end Style

/-- A part of a styled text. -/
inductive Part where
  | text (cs : List Char)
  /-- From here on in the given style. -/
  | style (s : Style)
  /-- From here on in the default style. -/
  | reset
deriving Repr, DecidableEq

/-- The control sequence that goes back to the default style. -/
def resetSequence : List Char := "\x1b[0m".toList

/-- The control sequence for a colour. -/
def Color.sequence : Color → List Char
  | red => "\x1b[31m".toList
  | yellow => "\x1b[33m".toList
  | cyan => "\x1b[36m".toList

/-- The control sequences for a style. -/
def Style.sequence (s : Style) : List Char :=
  resetSequence ++ (if s.bold then "\x1b[1m".toList else []) ++
    (match s.color with
      | some c => c.sequence
      | none => [])

/-- A part without its style. -/
def Part.plain : Part → List Char
  | text cs => cs
  | style _ | reset => []

/-- A part with the control sequences of a terminal. -/
def Part.ansi : Part → List Char
  | text cs => cs
  | style s => s.sequence
  | reset => resetSequence

/-- A styled text as it is shown, in colour or not. -/
def render (colored : Bool) (parts : List Part) : List Char :=
  parts.flatMap (if colored then Part.ansi else Part.plain)

end CodeShape.Report
