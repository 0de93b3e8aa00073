import LintBridge.Editor.Message
import LintBridge.Editor.Params
import LintBridge.Editor.Workspace
import LintBridge.Notice
import LintBridge.Settings.FileKind

/-!
# A session

The life of the server beside one editor.  The editor introduces itself before anything
else is served, and after it takes leave nothing more is.  Validations are done in the
order in which they are started, each to its end.
-/

set_option autoImplicit false

namespace LintBridge.Editor

inductive Phase where
  | waiting
  | serving
  | leaving
  | ended
  deriving DecidableEq, Repr

structure Session where
  phase : Phase
  workspace : Workspace
  desk : Desk
  notifier : Notifier
  /-- Milliseconds since the start. -/
  now : Nat
  /-- How many requests the server has made. -/
  asked : Nat
  deriving DecidableEq, Repr

structure Turn where
  session : Session
  response? : Option Response
  sent : List Outgoing

namespace Session

def start (given? : Option LintSettings) : Session :=
  { phase := .waiting, workspace := .start given?, desk := .empty,
    notifier := .initial Notifier.usualInterval, now := 0, asked := 0 }

def silent (s : Session) : Turn :=
  ⟨s, none, []⟩

def withDesk (s : Session) (desk : Desk) : Session :=
  { s with desk }

/-! ## Validations -/

def lintText (s : Session) (path : Path) (text : String) : Job LintOutcome :=
  match s.workspace.annotator? with
  | some annotator => annotator.annotate path text
  | none => do
      Job.log .debug "Annotator not available, skipping linting"
      return .annotated []

def diagnosticsOf (text : String) (annotations : List Annotation) : List Diagnostic :=
  annotations.filterMap (Diagnostic.ofAnnotation? text.toList)

/-- Shows a failure, unless one was shown a short time ago. -/
def complain (s : Session) (message : String) : Job (Session × List Outgoing) := do
  let message := Text.trim message
  let attempt := s.notifier.tryAcquire (← Job.clock)
  let s := { s with notifier := attempt.2 }
  if attempt.1 then return (s, [.warn message])
  else
    Job.log .debug ("Suppressed CoffeeLint failure notification: " ++ message)
    return (s, [])

/-- What an outcome means for the editor: diagnostics, and perhaps a message. -/
def report (s : Session) (v : Validation) :
    LintOutcome → Job (List Diagnostic × Session × List Outgoing)
  | .annotated annotations => return (diagnosticsOf v.text annotations, s, [])
  | .skipped reason => do
      Job.log .debug ("Not linting " ++ v.uri.text ++ ": " ++ reason.title)
      return ([], s, [])
  | .failed message => do
      let told ← s.complain message
      return ([], told.1, told.2)

/-- Finishes the validation that was started first, with the given diagnostics. -/
def conclude (s : Session) (diagnostics? : Option (List Diagnostic)) :
    Session × List Outgoing :=
  let after := s.desk.finish 0 diagnostics?
  (s.withDesk after.1, after.2.map .publish)

/-- Does the validation that was started first.  A document that is no file has no
diagnostics. -/
def validate (s : Session) (v : Validation) : Job (Session × List Outgoing) := do
  Job.log .debug ("Validating document: " ++ v.uri.text)
  match v.uri.filePath? with
  | none =>
      Job.log .debug ("Skipping validation for non-file URI: " ++ v.uri.text)
      return s.conclude none
  | some path =>
      let outcome ← s.lintText path v.text
      let told ← s.report v outcome
      let done := told.2.1.conclude (some told.1)
      return (done.1, told.2.2 ++ done.2)

def validateAll (s : Session) : List Validation → Job (Session × List Outgoing)
  | [] => return (s, [])
  | v :: rest => do
      let first ← s.validate v
      let others ← first.1.validateAll rest
      return (others.1, first.2 ++ others.2)

def work (s : Session) : Job (Session × List Outgoing) :=
  s.validateAll s.desk.running

/-! ## Events -/

def eventText : DocumentEvent → String
  | .opened uri _ _ => "Document opened: " ++ uri.text
  | .changed uri _ _ => "Document changed: " ++ uri.text
  | .saved uri _ => "Document saved: " ++ uri.text
  | .closed uri => "Document closed: " ++ uri.text

def note (s : Session) (event : DocumentEvent) : Job (Session × List Outgoing) := do
  Job.log .debug (eventText event)
  let after := s.desk.note s.now event
  let done ← (s.withDesk after.1).work
  return (done.1, after.2.map .publish ++ done.2)

def changesText (changes : List FileChange) : String :=
  "[" ++ String.intercalate ", " (changes.map (·.describe)) ++ "]"

/-- Takes changes of files: settings are read anew, and where linting depends on one of
the files, all documents are linted again. -/
def noteFiles (s : Session) (changes : List FileChange) : Job (Session × List Outgoing) := do
  Job.log .debug ("Watched files changed: " ++ changesText changes)
  let settings := changes.any (·.writtenPath.isSettings)
  let config := changes.any (·.writtenPath.isLintConfig)
  let s ←
    if settings then do
      Job.log .info "Settings file changed, reloading..."
      let workspace ← s.workspace.reload
      pure { s with workspace }
    else pure s
  if config then Job.log .info "coffeelint.json changed"
  if settings || config then (s.withDesk s.desk.revalidate).work
  else return (s, [])

def dueTimer? (s : Session) (limit : Nat) : Option (Nat × Nat) :=
  match s.desk.nextTimer? with
  | some (place, due) => if due ≤ limit then some (place, due) else none
  | none => none

def staleText (edit : Edit) : String :=
  "Skipping stale validation of " ++ edit.uri.text ++ " (version "
    ++ toString edit.version.toInt ++ ")"

def expire (s : Session) (place due : Nat) : Job (Session × List Outgoing) := do
  let s := { s with now := max s.now due }
  match s.desk.timers[place]? with
  | some timer =>
      if !s.desk.isCurrent timer.edit then Job.log .debug (staleText timer.edit)
  | none => pure ()
  (s.withDesk (s.desk.expire place)).work

/-- Lets timers run out up to a time, so many at most. -/
def expireUntil (limit : Nat) : Nat → Session → Job (Session × List Outgoing)
  | 0, s => return (s, [])
  | count + 1, s =>
      match s.dueTimer? limit with
      | none => return (s, [])
      | some (place, due) => do
          let first ← s.expire place due
          let others ← expireUntil limit count first.1
          return (others.1, first.2 ++ others.2)

/-! ## Messages -/

/-- After the end nothing can be sent. -/
def deliver (s : Session) (sent : List Outgoing) : List Outgoing :=
  if s.phase = .ended then [] else sent

def wait (s : Session) (time : Nat) : Job (Session × List Outgoing) := do
  let limit := s.now + time
  let done ← expireUntil limit s.desk.timers.length s
  return ({ done.1 with now := limit }, s.deliver done.2)

/-- Refuses a request; a notification is dropped. -/
def refuse (s : Session) (m : Message) (refusal : Refusal) : Turn :=
  ⟨s, m.id?.map fun id => ⟨id, .error refusal⟩, []⟩

def refusal (s : Session) : Refusal :=
  if s.phase = .waiting then .notInitialized else .invalidRequest

def paramsOf {α : Type} (m : Message) (decode : Json.Decoder α) : Except Refusal α :=
  match m.params? with
  | none => .error (.invalidParams "Missing params field")
  | some params => (decode params).mapError fun mismatch => .invalidParams mismatch.message

/-- Serves a notification.  One with an id is refused, and one with wrong parameters is
dropped. -/
def serveNotice {α : Type} (s : Session) (m : Message) (decode : Json.Decoder α)
    (act : α → Job (Session × List Outgoing)) : Job Turn :=
  if s.phase = .serving then
    match m.id?, paramsOf m decode with
    | none, .ok params => do
        let done ← act params
        return ⟨done.1, none, done.2⟩
    | _, _ => return s.refuse m .invalidRequest
  else return s.refuse m s.refusal

def abilities : Json :=
  .ofMembers
    [("capabilities", .ofMembers
      [("textDocumentSync", .ofMembers
        [("openClose", .bool true), ("change", .ofNat 1),
         ("save", .ofMembers [("includeText", .bool true)])])]),
     ("serverInfo", .ofMembers
      [("name", .string "coffeelint-lsp"), ("version", .string "0.1.0")])]

def enter (s : Session) (m : Message) : Job Turn :=
  if s.phase = .waiting then
    match m.id?, paramsOf m Params.introduction with
    | none, _ => return s.silent
    | some _, .error refusal => return s.refuse m refusal
    | some id, .ok introduction => do
        Job.log .info "CoffeeLint LSP server initializing..."
        let workspace ← s.workspace.enter introduction.project? introduction.offer?
        return ⟨{ s with phase := .serving, workspace }, some ⟨id, .ok abilities⟩, []⟩
  else return s.refuse m .invalidRequest

def greet (s : Session) : Session × List Outgoing :=
  ({ s with asked := s.asked + 1 }, [.greet, .watchFiles s.asked])

def leave (s : Session) (m : Message) : Job Turn :=
  if s.phase = .serving then
    let s := { s with phase := .leaving }
    match m.id?, m.params? with
    | none, _ => return s.silent
    | some _, some params =>
        return s.refuse m (.invalidParams ("Unexpected params: " ++ params.compact))
    | some id, none => do
        Job.log .info "CoffeeLint LSP server shutting down..."
        return ⟨s, some ⟨id, .ok .null⟩, []⟩
  else return s.refuse m s.refusal

def declineRequest (s : Session) (m : Message) (decode : Json.Decoder Unit) : Turn :=
  if s.phase = .serving then
    match paramsOf m decode with
    | .ok () => s.refuse m (.methodNotFound none)
    | .error refusal => s.refuse m refusal
  else s.refuse m s.refusal

def receive (s : Session) (m : Message) : Job Turn :=
  match Method.ofName m.method with
  | .enter => s.enter m
  | .entered => s.serveNotice m (Params.unused "InitializedParams") fun () => return s.greet
  | .leave => s.leave m
  | .exit => return silent { s with phase := .ended }
  | .opened => s.serveNotice m Params.opened s.note
  | .changed => s.serveNotice m Params.changed s.note
  | .saved => s.serveNotice m Params.saved s.note
  | .closed => s.serveNotice m Params.closed s.note
  | .filesChanged => s.serveNotice m Params.fileChanges s.noteFiles
  | .unservedRequest params => return s.declineRequest m params
  | .unservedNotice =>
      return s.refuse m (if s.phase = .serving then .invalidRequest else s.refusal)
  | .withdrawal => return s.refuse m .invalidRequest
  | .optional => return s.silent
  | .unknown name => return s.refuse m (.methodNotFound (some name))

def receiveAny (s : Session) : Incoming → Job Turn
  | .message m => s.receive m
  | .reply => return s.silent
  | .malformed => return ⟨s, some ⟨.null, .error .invalidRequest⟩, []⟩

def converse : Session → List Json → Job (List Json)
  | _, [] => return []
  | s, value :: rest =>
      if s.phase = .ended then return []
      else do
        let turn ← s.receiveAny (.ofJson value)
        let others ← turn.session.converse rest
        return (turn.response?.map Response.toJson).toList
          ++ turn.sent.map Outgoing.toJson ++ others

end Session

end LintBridge.Editor
