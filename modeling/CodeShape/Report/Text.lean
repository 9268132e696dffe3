import CodeShape.Finding
import CodeShape.Report.Style

/-!
# The report as text

One line for each finding, under a header that consecutive findings share if they agree in file,
severity and message, and a summary at the end. Nothing is written if nothing was found.
-/

namespace CodeShape.Report

/-- Do two findings that follow each other share a header? -/
def sameGroup (a b : Finding) : Bool :=
  a.path.same b.path && a.severity == b.severity && a.message == b.message

/-- The first line of a text. A text of several lines is marked as cut, blanks before the mark being
dropped. -/
def firstLine (cs : List Char) : List Char :=
  match cs.span (· != '\n') with
  | (first, _ :: _) => CodeShape.Text.trimEnd first ++ " ...".toList
  | (first, []) => first

/-- A word in the singular or in the plural. -/
def counted (n : Nat) (word : String) : String :=
  toString n ++ " " ++ (if n = 1 then word else word ++ "s")

/-- The header over a finding. -/
def header (f : Finding) : List Part :=
  [.style (.severity f.severity), .text f.severity.name.toList, .reset, .text ": ".toList,
    .style .message, .text (f.message.toList ++ ['\n']), .reset]

/-- The line of a finding. -/
def location (f : Finding) : List Part :=
  [.text "  ".toList, .style .path, .text f.path.written.toList, .reset, .text [':'],
    .style .lineNumber, .text (toString f.line).toList, .reset,
    .style .matched, .text (": ".toList ++ firstLine f.text.toList ++ ['\n']), .reset]

/-- The lines of findings, the one before the first of them being given. -/
def lines (previous : Option Finding) : List Finding → List Part
  | [] => []
  | f :: rest =>
    (if previous.any (sameGroup · f) then [] else header f) ++ location f ++ lines (some f) rest

/-- The summary. -/
def summary (findings : List Finding) : List Part :=
  let errors := errorCount findings
  [.text ("\n" ++ counted findings.length "finding" ++ ", " ++ counted errors "error" ++ "\n").toList]

/-- The report on a list of findings. -/
def text (findings : List Finding) : List Part :=
  if findings.isEmpty then [] else lines none findings ++ summary findings

end CodeShape.Report
