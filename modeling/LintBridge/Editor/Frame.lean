import LintBridge.Editor.Session
import LintBridge.Json.Reader

/-!
# Frames

On a stream every message stands behind a header that tells its length in bytes.
-/

set_option autoImplicit false

namespace LintBridge.Editor.Frame

def lengthField : String :=
  "content-length"

def lengthIn? (line : String) : Option Nat :=
  let field := line.toList.takeWhile (· ≠ ':')
  let value := Text.trimChars (line.toList.drop (field.length + 1))
  if field.map Char.toLower = lengthField.toList && !value.isEmpty && value.all Char.isDigit then
    some (value.foldl (fun n c => n * 10 + (c.toNat - 48)) 0)
  else none

def write (message : Json) : String :=
  let body := message.compact
  "Content-Length: " ++ toString body.utf8ByteSize ++ "\r\n\r\n" ++ body

def read (body : Bytes) : Incoming :=
  match Json.read (Text.decodeLossy body) with
  | .ok value => .ofJson value
  | .error _ => .malformed

end LintBridge.Editor.Frame
