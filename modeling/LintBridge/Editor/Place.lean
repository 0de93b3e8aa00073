import LintBridge.Json.Check
import LintBridge.Uri.Reader

/-!
# Documents and places

The form in which the editor names documents, places and parts of them.
-/

set_option autoImplicit false

namespace LintBridge.Editor

open Json Check Field

namespace Params

def uri : Decoder Uri
  | .string text =>
      match Uri.read text with
      | .ok uri => .ok uri
      | .error fault => .error (.refused (fault.message ++ ": " ++ Text.quoted text))
  | other => .error (.wrongType other "a string representing an URL")

def uriField : Field :=
  required "uri" (by' uri)

/-- A record of which one field counts. -/
def single {α : Type} (shape : Shape) (key : String) (decode : Decoder α) : Decoder α :=
  fun value => do (← shape.members value).need key decode

def documentName : Decoder Uri :=
  single ⟨"TextDocumentIdentifier", [uriField]⟩ "uri" uri

def documentField : Field :=
  required "textDocument" (by' documentName)

def placeFields : List Field :=
  [required "line" nat32, required "character" nat32]

def place : Check :=
  record "Position" placeFields

def part : Check :=
  record "Range" [required "start" place, required "end" place]

def partField : Field :=
  required "range" part

def placePart : Part :=
  .fields
    [required "textDocument" (keptRecord "TextDocumentIdentifier" [uriField]),
     required "position" (keptRecord "Position" placeFields)]

def location : Check :=
  record "Location" [uriField, partField]

def numberOrText : Check :=
  anyOf "NumberOrString" [int32, text]

end Params

end LintBridge.Editor
