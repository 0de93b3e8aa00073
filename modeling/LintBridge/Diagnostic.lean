import LintBridge.Annotation.Basic
import LintBridge.Document.Position
import LintBridge.Report.Shape

/-!
# Diagnostics

What an editor is told about one annotation.
-/

set_option autoImplicit false

namespace LintBridge

structure Diagnostic where
  range : EditorRange
  severity : Severity
  code : String
  message : String
  deriving DecidableEq, Repr

namespace Diagnostic

/-- The diagnostic of an annotation, if its bytes lie in the text. -/
def ofAnnotation? (text : List Char) (a : Annotation) : Option Diagnostic :=
  (EditorRange.ofBytes? text a.range).map fun range =>
    { range, severity := a.severity, code := a.source, message := a.message }

end Diagnostic

namespace Position

def toJson (p : Position) : Json :=
  .ofMembers [("line", .ofNat p.line), ("character", .ofNat p.character)]

end Position

namespace EditorRange

def toJson (range : EditorRange) : Json :=
  .ofMembers [("start", range.start.toJson), ("end", range.stop.toJson)]

end EditorRange

namespace Diagnostic

/-- The severity as a number: an error is graver than a warning. -/
def severityNumber : Severity → Nat
  | .error => 1
  | .warning => 2

def toJson (d : Diagnostic) : Json :=
  .ofMembers
    [("range", d.range.toJson), ("severity", .ofNat (severityNumber d.severity)),
     ("code", .string d.code), ("source", .string "coffeelint"),
     ("message", .string d.message)]

end Diagnostic

end LintBridge
