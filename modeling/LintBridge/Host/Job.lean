import LintBridge.Host.Basic
import LintBridge.Log

/-!
# Jobs

A job is work that asks the host: it is done, or it makes a request and goes on with
the reply.  A server of requests turns a job into a change of its own state, all at
once or one request at a time.
-/

set_option autoImplicit false

namespace LintBridge

inductive Request where
  | log (entry : LogEntry)
  | currentDirectory
  | read (path : Path)
  /-- What the path leads to, through links. -/
  | kind (path : Path)
  /-- The path without links and dots. -/
  | canonical (path : Path)
  /-- A new empty file of a name that nothing else has, between two given texts. -/
  | createCopy (directory : Path) (before after : String)
  | write (path : Path) (content : Bytes)
  | remove (path : Path)
  /-- Runs a process and watches it, for a time in microseconds at most. -/
  | launch (command : CommandLine) (budget : Nat)
  /-- Milliseconds since some time in the past. -/
  | clock
  deriving DecidableEq, Repr

namespace Request

def Reply : Request → Type
  | log _ => Unit
  | currentDirectory => Except OsError Path
  | read _ => Except OsError Bytes
  | kind _ => Option FileKind
  | canonical _ => Except OsError Path
  | createCopy _ _ _ => Except (OsError × Path) Path
  | write _ _ => Except OsError Unit
  | remove _ => Unit
  | launch _ _ => Except OsError Observation
  | clock => Nat

end Request

inductive Job (α : Type) : Type where
  | done (value : α)
  | ask (request : Request) (next : request.Reply → Job α)

namespace Job

variable {α β : Type}

def andThen : Job α → (α → Job β) → Job β
  | done a, f => f a
  | ask request next, f => ask request fun reply => (next reply).andThen f

instance : Monad Job where
  pure := done
  bind := andThen

def request (r : Request) : Job r.Reply :=
  ask r done

def log (level : Level) (text : String) : Job Unit :=
  request (.log ⟨level, text⟩)

def currentDirectory : Job (Except OsError Path) :=
  request .currentDirectory

def read (path : Path) : Job (Except OsError Bytes) :=
  request (.read path)

def kind (path : Path) : Job (Option FileKind) :=
  request (.kind path)

def canonical (path : Path) : Job (Except OsError Path) :=
  request (.canonical path)

def createCopy (directory : Path) (before after : String) :
    Job (Except (OsError × Path) Path) :=
  request (.createCopy directory before after)

def write (path : Path) (content : Bytes) : Job (Except OsError Unit) :=
  request (.write path content)

def remove (path : Path) : Job Unit :=
  request (.remove path)

def launch (command : CommandLine) (budget : Nat) : Job (Except OsError Observation) :=
  request (.launch command budget)

def clock : Job Nat :=
  request .clock

/-- Tells the log of a computation that needs nothing else. -/
def tell : List LogEntry → Job Unit
  | [] => done ()
  | entry :: rest => ask (.log entry) fun _ => tell rest

def ofLogged (m : Logged α) : Job α :=
  (tell m.log).andThen fun _ => done m.value

/-- A part of the host that answers requests. -/
abbrev Server (σ : Type) := (r : Request) → σ → r.Reply × σ

def run {σ : Type} (serve : Server σ) : Job α → σ → α × σ
  | done a, s => (a, s)
  | ask r next, s =>
      let answer := serve r s
      (next answer.1).run serve answer.2

def advance {σ : Type} (serve : Server σ) : Job α → σ → Job α × σ
  | done a, s => (done a, s)
  | ask r next, s =>
      let answer := serve r s
      (next answer.1, answer.2)

/-- The requests that a job makes on its way, in order. -/
def requests {σ : Type} (serve : Server σ) : Job α → σ → List Request
  | done _, _ => []
  | ask r next, s =>
      let answer := serve r s
      r :: (next answer.1).requests serve answer.2

/-- Lets the job at a place make its next request. -/
def advanceAt {σ : Type} (serve : Server σ) : List (Job α) → Nat → σ → List (Job α) × σ
  | [], _, s => ([], s)
  | job :: rest, 0, s =>
      let next := job.advance serve s
      (next.1 :: rest, next.2)
  | job :: rest, place + 1, s =>
      let next := advanceAt serve rest place s
      (job :: next.1, next.2)

/-- Runs jobs side by side: the schedule tells which of them makes the next request. -/
def interleave {σ : Type} (serve : Server σ) : List (Job α) → List Nat → σ → List (Job α) × σ
  | jobs, [], s => (jobs, s)
  | jobs, place :: schedule, s =>
      let next := advanceAt serve jobs place s
      interleave serve next.1 schedule next.2

@[simp] theorem run_done {σ : Type} (serve : Server σ) (a : α) (s : σ) :
    (done a).run serve s = (a, s) := rfl

theorem run_andThen {σ : Type} (serve : Server σ) (job : Job α) (f : α → Job β) (s : σ) :
    (job.andThen f).run serve s
      = (f (job.run serve s).1).run serve (job.run serve s).2 := by
  induction job generalizing s with
  | done a => rfl
  | ask r next ih => exact ih _ _

end Job

end LintBridge
