import CodeShape.Report.Document
import CodeShape.Report.Text

/-!
# Formats of a report
-/

namespace CodeShape.Report

/-- The format of a report. -/
inductive Format where
  | text
  | json
deriving Repr, DecidableEq

/-- When a report is coloured. -/
inductive ColorMode where
  /-- If it goes to a terminal. -/
  | auto
  | always
  | never
deriving Repr, DecidableEq

/-- Is a report coloured? The wish for no colour comes first; `terminal` says whether the report goes
to a terminal that shows colours. -/
def isColored (mode : ColorMode) (noColor terminal : Bool) : Bool :=
  !noColor &&
    match mode with
    | .auto => terminal
    | .always => true
    | .never => false

/-- The report on a list of findings. A document has no colours. -/
def write (format : Format) (colored : Bool) (findings : List Finding) : String :=
  String.ofList <|
    match format with
    | .text => render colored (text findings)
    | .json => document findings

end CodeShape.Report
