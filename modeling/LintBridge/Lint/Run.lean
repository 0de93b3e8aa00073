import LintBridge.Process.Capture
import LintBridge.Report.Collector
import LintBridge.Settings.Basic
import LintBridge.Settings.Discovery

/-!
# Running the linter

A run that ends with code zero found nothing.  Any other one may have printed a report,
and what it wrote to standard error counts before the report.
-/

set_option autoImplicit false

namespace LintBridge

structure LintResult where
  report : Option Report
  errorOutput : String
  deriving DecidableEq, Repr

namespace LintResult

def clean : LintResult :=
  ⟨none, ""⟩

/-- Some error output is there, be it blank. -/
def hasError (result : LintResult) : Bool :=
  result.errorOutput ≠ ""

def issues (result : LintResult) : List Issue :=
  match result.report with
  | some report => report.issues
  | none => []

end LintResult

namespace LintConfiguration

def interpret (config : LintConfiguration) (outcome : ProcessOutcome) : Logged LintResult :=
  if outcome.success then do
    Logged.note .debug ("No issues in " ++ config.target)
    return .clean
  else do
    match ← Report.parse outcome.out with
    | .ok report => return ⟨some report, outcome.err⟩
    | .error e =>
        Logged.note .error
          ("Failed to parse CoffeeLint output for " ++ config.target ++ ": " ++ e.message)
        return ⟨none, outcome.err⟩

def lint (config : LintConfiguration) (budget : Nat) : Job LintResult := do
  match ← config.lintCommand.execute budget with
  | .error e =>
      Job.log .warn ("CoffeeLint run failed: " ++ e.message)
      return ⟨none, e.message⟩
  | .ok outcome => Job.ofLogged (config.interpret outcome)

/-- Asks the linter for its version.  Without an executable nothing is run. -/
def version (config : LintConfiguration) (budget : Nat) : Job (Except LintError String) := do
  if ← Job.doesExist (Path.ofText config.executable) then
    match ← config.versionCommand.execute budget with
    | .error e => return .error e
    | .ok outcome => return .ok (if outcome.success then Text.trim outcome.out else "")
  else
    Job.log .warn ("Calling version with invalid coffeelint exe " ++ config.executable)
    return .ok ""

end LintConfiguration

end LintBridge
