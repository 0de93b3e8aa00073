import LintBridge.Editor.Desk
import LintBridge.Json.Check
import LintBridge.Settings.FileKind

/-!
# Messages

What goes over the wire: the editor's requests and notifications, the responses to
them, and what the server sends by itself.
-/

set_option autoImplicit false

namespace LintBridge.Editor

open Json

/-- A message of the editor.  One with an id waits for a response. -/
structure Message where
  method : String
  params? : Option Json
  id? : Option Json

inductive Incoming where
  | message (m : Message)
  /-- The editor's response to a request of the server. -/
  | reply
  | malformed

namespace Incoming

/-- The value may stand for an id: a word of 64 bits with a sign, a text, or null. -/
def isId : Json → Bool
  | .integer n => -9223372036854775808 ≤ n && n < 9223372036854775808
  | .string _ | .null => true
  | _ => false

/-- A failure as a response tells it: these members and no others. -/
def isFailure (value : Json) : Bool :=
  let code : Field := .required "code" fun
    | .integer n => if isId (.integer n) then .ok () else .error (.wrongValue "" "")
    | other => .error (.wrongType other "")
  let shape : Shape :=
    ⟨"Error", [code, .required "message" Check.text, .optional "data" Check.any]⟩
  let known :=
    match value with
    | .object members => members.all fun m => shape.fields.any (·.name = m.1)
    | _ => true
  known && (shape.members value).isOk

/-- A value with an id that tells a result or a failure. -/
def isReply (members : Members) : Bool :=
  (members.find? "id").any isId
    && ((members.find? "result").isSome || (members.find? "error").any isFailure)

/-- The message of its parts, as far as they are told.  Without a method it has an empty
one, which no method is. -/
def ofParts (method? params? id? : Option Json) : Incoming :=
  if id?.all isId then
    match method? with
    | none => .message ⟨"", params?, id?⟩
    | some (.string method) => .message ⟨method, params?, id?⟩
    | some _ => .malformed
  else .malformed

/-- A message tells the version of the protocol and then its parts, by name or in order. -/
def ofJson : Json → Incoming
  | .object members =>
      match Members.find? "jsonrpc" members with
      | some (.string "2.0") =>
          if isReply members then .reply
          else
            ofParts (Members.find? "method" members) (Members.find? "params" members)
              (Members.find? "id" members)
      | _ => .malformed
  | .array (.string "2.0" :: parts) =>
      if parts.length ≤ 3 then ofParts parts[0]? parts[1]? parts[2]? else .malformed
  | _ => .malformed

end Incoming

inductive Refusal where
  | notInitialized
  | invalidRequest
  /-- The method is not known, or known and not served. -/
  | methodNotFound (name? : Option String)
  | invalidParams (message : String)

namespace Refusal

def code : Refusal → Int
  | notInitialized => -32002
  | invalidRequest => -32600
  | methodNotFound _ => -32601
  | invalidParams _ => -32602

def message : Refusal → String
  | notInitialized => "Server not initialized"
  | invalidRequest => "Invalid request"
  | methodNotFound _ => "Method not found"
  | invalidParams message => message

def toJson (r : Refusal) : Json :=
  .ofMembers
    ([("code", .integer r.code), ("message", .string r.message)]
      ++ match r with
         | methodNotFound (some name) => [("data", .string name)]
         | _ => [])

end Refusal

structure Response where
  id : Json
  result : Except Refusal Json

namespace Response

def toJson (r : Response) : Json :=
  .ofMembers
    [("jsonrpc", .string "2.0"), ("id", r.id),
     match r.result with
     | .ok value => ("result", value)
     | .error refusal => ("error", refusal.toJson)]

end Response

inductive Outgoing where
  | publish (p : Publication)
  | warn (text : String)
  | greet
  | watchFiles (id : Nat)
  deriving DecidableEq, Repr

namespace Publication

def toJson (p : Publication) : Json :=
  .ofMembers
    ([("uri", .string p.uri.text),
      ("diagnostics", .array (p.diagnostics.map Diagnostic.toJson))]
      ++ match p.version? with
         | some version => [("version", .ofInt32 version)]
         | none => [])

end Publication

namespace Outgoing

def method : Outgoing → String
  | publish _ => "textDocument/publishDiagnostics"
  | warn _ => "window/showMessage"
  | greet => "window/logMessage"
  | watchFiles _ => "client/registerCapability"

/-- A message of a gravity: two warns, three informs. -/
def textParams (gravity : Nat) (text : String) : Json :=
  .ofMembers [("type", .ofNat gravity), ("message", .string text)]

/-- The names of the files to be watched, in any directory. -/
def watchedPatterns : List String :=
  ["**/" ++ lintConfigName, "**/" ++ settingsName]

def watchParams : Json :=
  let watchers := watchedPatterns.map fun pattern =>
    Json.ofMembers [("globPattern", .string pattern)]
  .ofMembers
    [("registrations", .array
      [.ofMembers
        [("id", .string "coffeelint-watched-files"),
         ("method", .string "workspace/didChangeWatchedFiles"),
         ("registerOptions", .ofMembers [("watchers", .array watchers)])]])]

def params : Outgoing → Json
  | publish p => p.toJson
  | warn text => textParams 2 text
  | greet => textParams 3 "CoffeeLint LSP server initialized!"
  | watchFiles _ => watchParams

def toJson (m : Outgoing) : Json :=
  .ofMembers
    ([("jsonrpc", .string "2.0"), ("method", .string m.method), ("params", m.params)]
      ++ match m with
         | watchFiles id => [("id", .ofNat id)]
         | _ => [])

end Outgoing

end LintBridge.Editor
