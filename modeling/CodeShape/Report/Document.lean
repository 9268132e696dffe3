import CodeShape.Finding
import CodeShape.Json.Value

/-!
# The report as a JSON document
-/

namespace CodeShape.Report

/-- A finding as a JSON object, its members in alphabetical order. -/
def findingValue (f : Finding) : Json.Value :=
  .object [("line", .number f.line), ("message", .string f.message),
    ("path", .string f.path.written), ("severity", .string f.severity.name),
    ("text", .string f.text)]

/-- The findings and the number of errors among them. -/
def documentValue (findings : List Finding) : Json.Value :=
  .object [("errors", .number (errorCount findings)),
    ("findings", .array (findings.map findingValue))]

/-- The report on a list of findings. -/
def document (findings : List Finding) : List Char :=
  Json.pretty 0 (documentValue findings) ++ ['\n']

end CodeShape.Report
