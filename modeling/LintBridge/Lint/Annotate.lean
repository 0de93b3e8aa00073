import LintBridge.Annotation.Basic
import LintBridge.Annotation.Shape
import LintBridge.Lint.Copy
import LintBridge.Lint.Run

/-!
# Annotating a document

The way of one document: a gate that skips what is not to be linted, the text on disk,
the run of the linter, and its report on the lines of the text.
-/

set_option autoImplicit false

namespace LintBridge

inductive SkipReason where
  | notCoffeeScript
  | emptyContent
  | disabled
  | invalidSettings
  deriving DecidableEq, Repr

namespace SkipReason

/-- The reason as a value of an answer. -/
def name : SkipReason → String
  | notCoffeeScript => "notCoffeeScript"
  | emptyContent => "emptyContent"
  | disabled => "disabled"
  | invalidSettings => "invalidSettings"

/-- The reason as the log tells it. -/
def title : SkipReason → String
  | notCoffeeScript => "NotCoffeeScript"
  | emptyContent => "EmptyContent"
  | disabled => "Disabled"
  | invalidSettings => "InvalidSettings"

end SkipReason

inductive LintOutcome where
  | skipped (reason : SkipReason)
  | annotated (annotations : List Annotation)
  | failed (message : String)
  deriving DecidableEq, Repr

namespace LintOutcome

def toJson : LintOutcome → Json
  | skipped reason =>
      .ofMembers [("status", .string "skipped"), ("value", .string reason.name)]
  | annotated annotations =>
      .ofMembers
        [("status", .string "annotated"), ("value", .array (annotations.map Annotation.toJson))]
  | failed message => .ofMembers [("status", .string "failed"), ("value", .string message)]

end LintOutcome

structure Annotator where
  root : Path
  settings : LintSettings
  /-- The time budget of one run, in microseconds. -/
  budget : Nat
  deriving DecidableEq, Repr

namespace Annotator

def new (root : Path) (settings : LintSettings) : Annotator :=
  ⟨root, settings, usualBudget⟩

/-- The first reason not to lint a document. -/
def gate (a : Annotator) (path : Path) (content : String) : Job (Option SkipReason) := do
  if !path.isCoffeeScript then return some .notCoffeeScript
  else if content.toList.all Text.isBlank then return some .emptyContent
  else if !a.settings.enabled then return some .disabled
  else
    let problems ← a.settings.problems a.root
    return if problems.isEmpty then none else some .invalidSettings

def lintCopy (a : Annotator) (copy : Copy) : Job (Except LintError LintResult) := do
  match ← copy.relativePath a.root with
  | .error e => return .error e
  | .ok relative =>
      let result ← (a.settings.configuration a.root relative).lint a.budget
      return .ok result

/-- Lints the text; the copy is gone before the result is looked at. -/
def lintText (a : Annotator) (path : Path) (content : String) :
    Job (Except LintError LintResult) := do
  match ← Copy.materialize a.root path content with
  | .error e => return .error e
  | .ok copy =>
      let result ← a.lintCopy copy
      copy.release
      return result

def judge (a : Annotator) (content : String) (result : LintResult) : Logged LintOutcome :=
  if result.hasError then pure (.failed result.errorOutput)
  else
    match result.report with
    | none => pure (.annotated [])
    | some report => do
        let annotations ←
          report.annotations a.settings.treatAllAsWarnings (.ofText content.toList)
        return .annotated annotations

def annotate (a : Annotator) (path : Path) (content : String) : Job LintOutcome := do
  match ← a.gate path content with
  | some reason =>
      Job.log .debug ("Skipping " ++ path.text ++ ": " ++ reason.title)
      return .skipped reason
  | none =>
      match ← a.lintText path content with
      | .error e =>
          let message := "Error running CoffeeLint inspection: " ++ e.message
          Job.log .error message
          return .failed message
      | .ok result => Job.ofLogged (a.judge content result)

end Annotator

end LintBridge
