import LintBridge.Annotation.Basic
import LintBridge.Report.Shape

/-!
# Annotations as JSON
-/

set_option autoImplicit false

namespace LintBridge

namespace TextRange

open Json

def shape : Shape :=
  ⟨"TextRange",
    [.of "start" Decoder.natural .required, .of "end" Decoder.natural .required]⟩

def decode : Decoder TextRange := fun value => do
  let members ← shape.members value
  return { start := ← members.need "start" Decoder.natural
           stop := ← members.need "end" Decoder.natural }

def toJson (range : TextRange) : Json :=
  .ofMembers [("start", .ofNat range.start), ("end", .ofNat range.stop)]

end TextRange

namespace Annotation

open Json

def shape : Shape :=
  ⟨"Annotation",
    [.of "range" TextRange.decode .required, .of "line" Decoder.natural .required,
     .of "column" Decoder.int32 .required, .of "severity" Severity.decode .required,
     .of "source" Decoder.text .required, .of "message" Decoder.text .required]⟩

def decode : Decoder Annotation := fun value => do
  let members ← shape.members value
  return { range := ← members.need "range" TextRange.decode
           line := ← members.need "line" Decoder.natural
           column := ← members.need "column" Decoder.int32
           severity := ← members.need "severity" Severity.decode
           source := ← members.need "source" Decoder.text
           message := ← members.need "message" Decoder.text }

def toJson (a : Annotation) : Json :=
  .ofMembers
    [("range", a.range.toJson), ("line", .ofNat a.line), ("column", .ofInt32 a.column),
     ("severity", a.severity.toJson), ("source", .string a.source),
     ("message", .string a.message)]

end Annotation

end LintBridge
