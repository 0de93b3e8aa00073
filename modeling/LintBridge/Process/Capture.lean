import LintBridge.Host.Job
import LintBridge.LintError

/-!
# Watching a process

The watcher looks at a process again and again.  It is done when the process has ended
and both streams are closed, and gives up when the time is up; then the process is
killed, and what is still under way is taken in.  The bytes of each stream are decoded
together at the end, so it does not matter how they were cut into chunks.
-/

set_option autoImplicit false

namespace LintBridge

structure Watch where
  /-- The chunks, the last one first. -/
  chunks : List Chunk
  exit? : Option Exit
  streamsOpen : Bool
  deriving DecidableEq, Repr

structure Capture where
  chunks : List Chunk
  exit? : Option Exit
  timedOut : Bool
  deriving DecidableEq, Repr

namespace Watch

def initial : Watch :=
  ⟨[], none, true⟩

inductive Turn where
  | more (watch : Watch)
  | ended (watch : Watch)
  | late (watch : Watch)
  | failed (error : OsError)

def hear (w : Watch) : Heard → Watch
  | .chunk c => { w with chunks := c :: w.chunks }
  | .closed => { w with streamsOpen := false }
  | .nothing => w

def poll (w : Watch) (glance : Glance) : Except OsError Watch :=
  match w.exit? with
  | some _ => .ok w
  | none => glance.exit?.map fun exit? => { w with exit? }

def turn (w : Watch) (glance : Glance) : Turn :=
  match w.poll glance with
  | .error e => .failed e
  | .ok w =>
      if w.exit?.isSome && !w.streamsOpen then .ended w
      else if glance.late then .late w
      else if w.streamsOpen then .more (w.hear glance.heard)
      else .more w

/-- What the looks to come show.  A watcher that is not shown an end gives up. -/
def run (queued : List Chunk) : Watch → List Glance → Except OsError Capture
  | w, [] => .ok ⟨w.chunks.reverse ++ queued, none, true⟩
  | w, glance :: rest =>
      match w.turn glance with
      | .more next => run queued next rest
      | .ended last => .ok ⟨last.chunks.reverse, last.exit?, false⟩
      | .late last => .ok ⟨last.chunks.reverse ++ queued, none, true⟩
      | .failed e => .error e

end Watch

def Observation.capture (o : Observation) : Except OsError Capture :=
  Watch.initial.run o.queued o.glances

def streamBytes (stream : Stream) (chunks : List Chunk) : Bytes :=
  (chunks.filter (·.stream = stream)).flatMap (·.bytes)

structure ProcessOutcome where
  exitCode? : Option Nat
  out : String
  err : String
  timedOut : Bool
  deriving DecidableEq, Repr

namespace ProcessOutcome

def success (o : ProcessOutcome) : Bool :=
  o.exitCode? = some 0

end ProcessOutcome

namespace Capture

/-- The code of a process that ended by itself. -/
def exitCode? (c : Capture) : Option Nat :=
  match c.exit? with
  | some (.code n) => some n
  | _ => none

def outcome (c : Capture) : ProcessOutcome :=
  { exitCode? := c.exitCode?,
    out := Text.decodeLossy (streamBytes .out c.chunks),
    err := Text.decodeLossy (streamBytes .err c.chunks),
    timedOut := c.timedOut }

/-- What a listener is called with.  Each chunk is decoded alone. -/
def calls (c : Capture) : List (Stream × String) :=
  c.chunks.map fun chunk => (chunk.stream, Text.decodeLossy chunk.bytes)

def heard (stream : Stream) (c : Capture) : String :=
  String.join ((c.calls.filter (·.1 = stream)).map (·.2))

end Capture

/-- The usual time budget: two minutes, in microseconds. -/
def usualBudget : Nat :=
  120000000

namespace CommandLine

def showExit : Option Nat → String
  | some n => "Some(" ++ toString n ++ ")"
  | none => "None"

def showBool (b : Bool) : String :=
  if b then "true" else "false"

def capture (command : CommandLine) (budget : Nat) : Job (Except LintError Capture) := do
  Job.log .info ("Running coffeelint command: " ++ command.display)
  let launched ← Job.launch command budget
  match launched with
  | .error e => return .error (.launch command.display e.message)
  | .ok observation =>
      match observation.capture with
      | .error e => return .error (.io e.message)
      | .ok captured =>
          if captured.timedOut then
            Job.log .warn
              ("Command '" ++ command.display ++ "' exceeded " ++ toString (budget / 1000)
                ++ "ms, killing it")
          Job.log .debug
            ("Command finished: exit code " ++ showExit captured.exitCode? ++ ", timed out "
              ++ showBool captured.timedOut)
          return .ok captured

def execute (command : CommandLine) (budget : Nat) :
    Job (Except LintError ProcessOutcome) := do
  match ← command.capture budget with
  | .error e => return .error e
  | .ok captured =>
      if captured.timedOut then return .error (.timeout command.display budget)
      else return .ok captured.outcome

end CommandLine

end LintBridge
