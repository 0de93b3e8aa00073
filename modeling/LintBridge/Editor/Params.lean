import LintBridge.Editor.Ability
import LintBridge.Editor.Documents
import LintBridge.Editor.FileChange
import LintBridge.Editor.Inquiry
import LintBridge.Editor.Place

/-!
# Methods and their parameters

The messages that the editor sends by their names, and the shapes of what they carry.
-/

set_option autoImplicit false

/-!
## Parameters of messages

The shapes in which the editor tells of its documents, of files, and of itself.
-/

namespace LintBridge.Editor

open Json

structure Introduction where
  root? : Option Uri
  folders : List Uri
  offer? : Option Json

/-- Where the project is: at the root, or else in the first folder. -/
def Introduction.project? (i : Introduction) : Option Path :=
  (i.root? <|> i.folders.head?).bind Uri.filePath?

namespace Params

/-! ## Documents -/

def opened : Decoder DocumentEvent :=
  let item : Decoder DocumentEvent := fun value => do
    let shape : Shape :=
      ⟨"TextDocumentItem",
        [.of "uri" uri .required, .of "languageId" Decoder.text .required,
         .of "version" Decoder.int32 .required, .of "text" Decoder.text .required]⟩
    let members ← shape.members value
    return .opened (← members.need "uri" uri) (← members.need "text" Decoder.text)
      (← members.need "version" Decoder.int32)
  single ⟨"DidOpenTextDocumentParams", [.of "textDocument" item .required]⟩ "textDocument" item

def versionedName : Decoder (Uri × Int32) := fun value => do
  let shape : Shape :=
    ⟨"VersionedTextDocumentIdentifier",
      [.of "uri" uri .required, .of "version" Decoder.int32 .required]⟩
  let members ← shape.members value
  return (← members.need "uri" uri, ← members.need "version" Decoder.int32)

def change : Decoder String :=
  single
    ⟨"TextDocumentContentChangeEvent",
      [.optional "range" part,
       .of "rangeLength" (Decoder.option Decoder.nat32) .optional,
       .of "text" Decoder.text .required]⟩
    "text" Decoder.text

def changed : Decoder DocumentEvent := fun value => do
  let changes : Decoder (List String) := Decoder.list change
  let shape : Shape :=
    ⟨"DidChangeTextDocumentParams",
      [.of "textDocument" versionedName .required, .of "contentChanges" changes .required]⟩
  let members ← shape.members value
  let name ← members.need "textDocument" versionedName
  return .changed name.1 name.2 (← members.need "contentChanges" changes)

def saved : Decoder DocumentEvent := fun value => do
  let text : Decoder (Option String) := Decoder.option Decoder.text
  let shape : Shape :=
    ⟨"DidSaveTextDocumentParams",
      [.of "textDocument" documentName .required, .of "text" text .optional]⟩
  let members ← shape.members value
  return .saved (← members.need "textDocument" documentName) (← members.get "text" text none)

def closed : Decoder DocumentEvent := fun value => do
  let shape : Shape :=
    ⟨"DidCloseTextDocumentParams", [.of "textDocument" documentName .required]⟩
  return .closed (← (← shape.members value).need "textDocument" documentName)

/-! ## Files -/

def fileChange : Decoder FileChange := fun value => do
  let shape : Shape :=
    ⟨"FileEvent", [.of "uri" uri .required, .of "type" Decoder.int32 .required]⟩
  let members ← shape.members value
  return ⟨← members.need "uri" uri, ← members.need "type" Decoder.int32⟩

def fileChanges : Decoder (List FileChange) :=
  let changes : Decoder (List FileChange) := Decoder.list fileChange
  single ⟨"DidChangeWatchedFilesParams", [.of "changes" changes .required]⟩ "changes" changes

/-! ## The session -/

/-- A record whose members are not used. -/
def unused (name : String) : Decoder Unit := fun value => do
  let shape : Shape := ⟨name, []⟩
  let _ ← shape.members value

def editorName : Decoder Unit := fun value => do
  let shape : Shape :=
    ⟨"ClientInfo",
      [.of "name" Decoder.text .required,
       .of "version" (Decoder.option Decoder.text) .optional]⟩
  let _ ← shape.members value

def trace : Decoder Unit :=
  Decoder.word "one of `off`, `messages`, `verbose`" fun word =>
    if ["off", "messages", "verbose"].contains word then some () else none

def folder : Decoder Uri :=
  single
    ⟨"WorkspaceFolder", [.of "uri" uri .required, .of "name" Decoder.text .required]⟩
    "uri" uri

def introduction : Decoder Introduction := fun value => do
  let folders : Decoder (Option (List Uri)) := Decoder.option (Decoder.list folder)
  let shape : Shape :=
    ⟨"InitializeParams",
      [.of "processId" (Decoder.option Decoder.nat32) .optional,
       .of "rootPath" (Decoder.option Decoder.text) .optional,
       .of "rootUri" (Decoder.option uri) .defaulted,
       .of "initializationOptions" (Decoder.option Decoder.any) .optional,
       .required "capabilities" Ability.all,
       .of "trace" (Decoder.option trace) .defaulted,
       .of "workspaceFolders" folders .optional,
       .of "clientInfo" (Decoder.option editorName) .optional,
       .of "locale" (Decoder.option Decoder.text) .optional]⟩
  let members ← shape.members value
  let listed ← members.get "workspaceFolders" folders none
  return { root? := ← members.get "rootUri" (Decoder.option uri) none
           folders := listed.getD []
           offer? := ← members.get "initializationOptions" (Decoder.option Decoder.any) none }

end Params

end LintBridge.Editor

/-!
## Methods

The methods that the server serves, and those that it knows without serving them.  A
method whose name begins with a dollar sign and a slash may be passed over.
-/

namespace LintBridge.Editor

inductive Method where
  | enter
  | entered
  | leave
  | exit
  | opened
  | changed
  | saved
  | closed
  | filesChanged
  /-- A request that is known and not served, with what its parameters must be. -/
  | unservedRequest (params : Json.Decoder Unit)
  | unservedNotice
  /-- The notification that a request is no longer wanted.  It changes nothing, as
  requests are served at once. -/
  | withdrawal
  | optional
  | unknown (name : String)

namespace Method

def unservedNotices : List String :=
  ["textDocument/willSave", "workspace/didChangeConfiguration",
   "workspace/didChangeWorkspaceFolders", "workspace/didCreateFiles",
   "workspace/didRenameFiles", "workspace/didDeleteFiles"]

def ofUnserved (name : String) : Method :=
  match Inquiry.paramsOf? name with
  | some params => unservedRequest params
  | none =>
      if unservedNotices.contains name then unservedNotice
      else
        match name.toList with
        | '$' :: '/' :: _ => optional
        | _ => unknown name

def ofName : String → Method
  | "initialize" => enter
  | "initialized" => entered
  | "shutdown" => leave
  | "exit" => exit
  | "textDocument/didOpen" => opened
  | "textDocument/didChange" => changed
  | "textDocument/didSave" => saved
  | "textDocument/didClose" => closed
  | "workspace/didChangeWatchedFiles" => filesChanged
  | "$/cancelRequest" => withdrawal
  | name => ofUnserved name

end Method

end LintBridge.Editor
