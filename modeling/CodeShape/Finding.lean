import CodeShape.LineIndex
import CodeShape.Path
import CodeShape.Pattern.Matcher
import CodeShape.Severity
import CodeShape.Warning

/-!
# Findings

A `Collector` goes through one file. Each report to it names a target, a pattern or a plain text, and
adds one finding for every place at which the target stands in the file.
-/

namespace CodeShape

/-- A place that was reported. -/
structure Finding where
  path : Path
  /-- The line at which the place begins, counted from 1. -/
  line : Nat
  severity : Severity
  message : String
  /-- The text that stands there. -/
  text : String
deriving Repr, DecidableEq

/-- The number of findings that are errors. -/
def errorCount (findings : List Finding) : Nat :=
  findings.countP (·.severity = .error)

/-- What a report looks for. -/
inductive Target where
  | pattern (m : Pattern.Matcher)
  /-- A text that has to stand there as it is. -/
  | text (cs : List Char)

/-- The findings of one file, and the warnings that came up. -/
structure Collector where
  path : Path
  text : Pattern.Text
  lines : LineIndex
  /-- The limits for searching plain texts; a pattern has limits of its own. -/
  limits : Pattern.Limits
  findings : List Finding := []
  warnings : List Warning := []

namespace Collector

/-- A collector for a file with the given contents. -/
def new (path : Path) (contents : String) (limits : Pattern.Limits) : Collector :=
  { path := path, text := .ofString contents, lines := .ofText contents.toList, limits := limits }

/-- The warning that a scan leaves behind, if it was cut short for a reason to warn of. -/
def scanWarning? (source : List Char) : Pattern.ScanEnd → Option Warning
  | .noMore | .full => none
  | .repeated offset => some (.repeatedMatch (String.ofList source) offset)
  | .exhausted => some (.scanAborted (String.ofList source))

/-- The finding for a place. -/
def findingAt (c : Collector) (message : String) (severity : Severity) (s : Pattern.Span) :
    Finding where
  path := c.path
  line := c.lines.lineOf s.start
  severity := severity
  message := message
  text := s.text

/-- Adds the findings of a pattern. -/
def record (c : Collector) (m : Pattern.Matcher) (message : String) (severity : Severity) :
    Collector :=
  let scan := m.scan c.text
  let spans := scan.found.map (Pattern.Matcher.spanOf c.text)
  { c with
    findings := c.findings ++ spans.map (c.findingAt message severity)
    warnings := c.warnings ++ (scanWarning? m.source scan.ended).toList }

/-- Reports every place of a target. -/
def report (c : Collector) (target : Target) (message : String) (severity : Severity) : Collector :=
  match target with
  | .pattern m => c.record m message severity
  | .text cs =>
    match Pattern.Matcher.literal cs c.limits with
    | .ok m => c.record m message severity
    | .error e => { c with warnings := c.warnings ++ [.unsearchable (String.ofList cs) e.message] }

/-- Has an error been found? -/
def hasErrors (c : Collector) : Bool :=
  c.findings.any (·.severity = .error)

end Collector

end CodeShape
