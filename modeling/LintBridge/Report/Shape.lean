import LintBridge.Json.Decoder
import LintBridge.Report.Basic

/-!
# Reports as JSON

A report without version or file leaves that member out.
-/

set_option autoImplicit false

namespace LintBridge

open Json

namespace Severity

def ofName? : String → Option Severity
  | "error" => some .error
  | "warning" => some .warning
  | _ => none

def decode : Decoder Severity :=
  Decoder.word "`error` or `warning`" ofName?

def toJson (severity : Severity) : Json :=
  .string severity.name

end Severity

def Json.ofInt32 (n : Int32) : Json :=
  .integer n.toInt

def Json.ofNat (n : Nat) : Json :=
  .integer n

namespace Issue

def shape : Shape :=
  ⟨"Issue",
    [.of "source" Decoder.text .required, .of "line" Decoder.int32 .required,
     .of "column" Decoder.int32 .required, .of "severity" Severity.decode .required,
     .of "message" Decoder.text .required]⟩

def decode : Decoder Issue := fun value => do
  let members ← shape.members value
  return { source := ← members.need "source" Decoder.text
           line := ← members.need "line" Decoder.int32
           column := ← members.need "column" Decoder.int32
           severity := ← members.need "severity" Severity.decode
           message := ← members.need "message" Decoder.text }

def toJson (issue : Issue) : Json :=
  .ofMembers
    [("source", .string issue.source), ("line", .ofInt32 issue.line),
     ("column", .ofInt32 issue.column), ("severity", issue.severity.toJson),
     ("message", .string issue.message)]

end Issue

namespace FileReport

def shape : Shape :=
  ⟨"ReportFile",
    [.of "name" Decoder.text .required, .of "issues" (Decoder.list Issue.decode) .required]⟩

def decode : Decoder FileReport := fun value => do
  let members ← shape.members value
  return { name := ← members.need "name" Decoder.text
           issues := ← members.need "issues" (Decoder.list Issue.decode) }

def toJson (file : FileReport) : Json :=
  .ofMembers
    [("name", .string file.name), ("issues", .array (file.issues.map Issue.toJson))]

end FileReport

namespace Report

def shape : Shape :=
  ⟨"Report",
    [.of "version" (Decoder.option Decoder.text) .optional,
     .of "file" (Decoder.option FileReport.decode) .optional]⟩

def decode : Decoder Report := fun value => do
  let members ← shape.members value
  return { version := ← members.get "version" (Decoder.option Decoder.text) none
           file := ← members.get "file" (Decoder.option FileReport.decode) none }

def toJson (report : Report) : Json :=
  .ofMembers
    ((report.version.map fun text => ("version", Json.string text)).toList
      ++ (report.file.map fun file => ("file", file.toJson)).toList)

end Report

end LintBridge
