import CodeShape.Text.Ends

/-!
# Severities
-/

namespace CodeShape

/-- How serious a finding is. -/
inductive Severity where
  | error
  | warn
  | info
deriving Repr, DecidableEq, Inhabited

namespace Severity

/-- The name of a severity. -/
def name : Severity → String
  | error => "error"
  | warn => "warn"
  | info => "info"

/-- Reads a severity, without regard to letter case and to blanks around it. What is no severity
counts as an error. -/
def ofName (name : String) : Severity :=
  match String.ofList ((Text.trim name.toList).map Char.toLower) with
  | "warn" => warn
  | "warning" => warn
  | "info" => info
  | _ => error

@[simp] theorem ofName_name (s : Severity) : ofName s.name = s := by
  cases s <;> decide

end Severity

end CodeShape
