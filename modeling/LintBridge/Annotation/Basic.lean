import LintBridge.Document.LineTable
import LintBridge.Log
import LintBridge.Report.Basic
import LintBridge.Text.Basic

/-!
# Annotations

An annotation marks a whole line of the document with an issue.  An issue whose line
the document does not have is dropped; the log tells of those behind the last line.
-/

set_option autoImplicit false

namespace LintBridge

/-- An issue on a line of the document.  The line counts from zero; the column is the
linter's and only shown. -/
structure Annotation where
  range : TextRange
  line : Nat
  column : Int32
  severity : Severity
  source : String
  message : String
  deriving DecidableEq, Repr

namespace Issue

def display (issue : Issue) : String :=
  "CoffeeLint: " ++ Text.trim issue.message ++ " (" ++ issue.source ++ ")"

def shownSeverity (allWarnings : Bool) (issue : Issue) : Severity :=
  if allWarnings then .warning else issue.severity

def lineNumber? (issue : Issue) : Option Nat :=
  let n := issue.line.toInt - 1
  if 0 ≤ n then some n.toNat else none

def onLine (allWarnings : Bool) (issue : Issue) (line : Nat) (range : TextRange) :
    Annotation :=
  { range, line, column := issue.column, severity := issue.shownSeverity allWarnings,
    source := issue.source, message := issue.display }

def staleText (lines : LineTable) (issue : Issue) : String :=
  "Dropping stale issue '" ++ issue.source ++ "' at line " ++ toString issue.line.toInt
    ++ " (" ++ toString lines.count ++ " lines in document)"

def annotate (allWarnings : Bool) (lines : LineTable) (issue : Issue) :
    Logged (Option Annotation) :=
  match issue.lineNumber? with
  | none => pure none
  | some n =>
      match lines.line? n with
      | some range => pure (some (issue.onLine allWarnings n range))
      | none => do
          Logged.note .debug (issue.staleText lines)
          return none

end Issue

def annotateAll (allWarnings : Bool) (lines : LineTable) : List Issue → Logged (List Annotation)
  | [] => pure []
  | issue :: rest => do
      let first ← issue.annotate allWarnings lines
      let others ← annotateAll allWarnings lines rest
      return first.toList ++ others

def Report.annotations (allWarnings : Bool) (lines : LineTable) (report : Report) :
    Logged (List Annotation) :=
  annotateAll allWarnings lines report.issues

end LintBridge
