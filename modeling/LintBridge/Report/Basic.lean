/-!
# Lint reports

What a lint run says about one file: a list of issues, each with the rule that
found it, a place, a severity and a message.  Lines and columns count from one;
zero stands for an unknown place.
-/

set_option autoImplicit false

namespace LintBridge

inductive Severity where
  | error
  | warning
  deriving DecidableEq, Repr

namespace Severity

def name : Severity → String
  | .error => "error"
  | .warning => "warning"

/-- The severity that a report's word stands for.  A word other than `error` is a
warning; where there is none, the issue is an error. -/
def ofWord? : Option String → Severity
  | none => .error
  | some word => if word = "error" then .error else .warning

end Severity

structure Issue where
  source : String
  line : Int32
  column : Int32
  severity : Severity
  message : String
  deriving DecidableEq, Repr

/-- The findings in one file, in the order in which they were reported. -/
structure FileReport where
  name : String
  issues : List Issue
  deriving DecidableEq, Repr

/-- A report, with the version of its format where that is given. -/
structure Report where
  version : Option String
  file : Option FileReport
  deriving DecidableEq, Repr

namespace Report

def issues (report : Report) : List Issue :=
  match report.file with
  | some file => file.issues
  | none => []

def fileName (report : Report) : String :=
  match report.file with
  | some file => file.name
  | none => ""

def hasErrors (report : Report) : Bool :=
  report.issues.any (·.severity = .error)

end Report

end LintBridge
