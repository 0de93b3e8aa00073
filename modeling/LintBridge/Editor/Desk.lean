import LintBridge.Diagnostic
import LintBridge.Editor.Documents

/-!
# The desk

Documents, the timers of postponed edits, and the validations that are under way.
Moves may come in any order: events of the editor, timers that run out, and validations
that finish.  What a move publishes is what the editor gets to see.
-/

set_option autoImplicit false

namespace LintBridge.Editor

/-- An edit that waits for its time, in milliseconds. -/
structure Timer where
  due : Nat
  edit : Edit
  deriving DecidableEq, Repr

structure Publication where
  uri : Uri
  version? : Option Int32
  diagnostics : List Diagnostic
  deriving DecidableEq, Repr

structure Desk where
  documents : Documents
  /-- In the order of setting. -/
  timers : List Timer
  /-- In the order of starting. -/
  running : List Validation
  deriving DecidableEq, Repr

inductive Move where
  | event (now : Nat) (event : DocumentEvent)
  | expire (place : Nat)
  | revalidate
  /-- The validation at a place finishes; it may have nothing to publish. -/
  | finish (place : Nat) (diagnostics? : Option (List Diagnostic))
  deriving DecidableEq, Repr

/-- How long an edited document has to rest, in milliseconds. -/
def restTime : Nat :=
  300

namespace Desk

def empty : Desk :=
  ⟨.empty, [], []⟩

def start (desk : Desk) (v : Validation) : Desk :=
  { desk with running := desk.running ++ [v] }

def note (desk : Desk) (now : Nat) (event : DocumentEvent) : Desk × List Publication :=
  let after := desk.documents.apply event
  let desk := { desk with documents := after.1 }
  match after.2 with
  | .nothing => (desk, [])
  | .validate v => (desk.start v, [])
  | .postpone edit => ({ desk with timers := desk.timers ++ [⟨now + restTime, edit⟩] }, [])
  | .clear uri => (desk, [⟨uri, none, []⟩])

/-- The edit is still the latest one of its document. -/
def isCurrent (desk : Desk) (edit : Edit) : Bool :=
  desk.documents.isAt edit.uri edit.version

/-- Takes a timer away and validates its edit if that is current. -/
def expire (desk : Desk) (place : Nat) : Desk :=
  match desk.timers[place]? with
  | none => desk
  | some timer =>
      let rest := { desk with timers := desk.timers.eraseIdx place }
      if rest.isCurrent timer.edit then rest.start timer.edit.validation else rest

def revalidate (desk : Desk) : Desk :=
  { desk with running := desk.running ++ desk.documents.validations }

/-- Takes a validation away and publishes its diagnostics, if there are any to
publish. -/
def finish (desk : Desk) (place : Nat) (diagnostics? : Option (List Diagnostic)) :
    Desk × List Publication :=
  match desk.running[place]? with
  | none => (desk, [])
  | some v =>
      ({ desk with running := desk.running.eraseIdx place },
        match diagnostics? with
        | some diagnostics => [⟨v.uri, v.version?, diagnostics⟩]
        | none => [])

def step (desk : Desk) : Move → Desk × List Publication
  | .event now event => desk.note now event
  | .expire place => (desk.expire place, [])
  | .revalidate => (desk.revalidate, [])
  | .finish place diagnostics? => desk.finish place diagnostics?

def run : Desk → List Move → Desk × List Publication
  | desk, [] => (desk, [])
  | desk, move :: rest =>
      let next := desk.step move
      let last := run next.1 rest
      (last.1, next.2 ++ last.2)

/-- The place and the time of the timer that runs out first; of two that run out
together it is the one that was set first. -/
def firstDue : List Timer → Option (Nat × Nat)
  | [] => none
  | timer :: rest =>
      match firstDue rest with
      | some (place, due) => some (if due < timer.due then (place + 1, due) else (0, timer.due))
      | none => some (0, timer.due)

def nextTimer? (desk : Desk) : Option (Nat × Nat) :=
  firstDue desk.timers

end Desk

end LintBridge.Editor
