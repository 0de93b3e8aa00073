import LintBridge.Console.Run
import LintBridge.Editor.Frame
import LintBridge.Machine.Basic

/-!
# The program

Runs a command on a machine that holds the files of the current directory, and tells
what it printed and logged.  As a server it reads messages from standard input.
-/

set_option autoImplicit false

namespace LintBridge.Program

partial def load (tree : FileTree) (directory : String) : IO FileTree := do
  let place ← IO.FS.realPath directory
  let mut tree := tree.makeDirectories [] (Path.ofText place.toString).body
  for entry in ← place.readDir do
    let name := entry.path.toString
    if ← entry.path.isDir then tree ← load tree name
    else
      let content ← IO.FS.readBinFile name
      tree := tree.set (Path.ofText name).body (.file content.toList false)
  return tree

def machine : IO Machine := do
  let start := Machine.standard
  let place := (← IO.currentDir).toString
  return { start with tree := ← load start.tree place, current := (Path.ofText place).body }

def logLine (entry : LogEntry) : String :=
  entry.level.name.toUpper ++ " " ++ entry.text

/-- Tells the entries that are shown, and forgets them all. -/
def tell (o : Console.Options) (m : Machine) : IO Machine := do
  for entry in o.shown m.log do
    IO.eprintln (logLine entry)
  return { m with entries := [] }

/-- The length of the next body, behind the lines of its header. -/
partial def readHeader (input : IO.FS.Stream) (length? : Option Nat) : IO (Option Nat) := do
  let line ← input.getLine
  if line.isEmpty then return none
  else if Text.trim line = "" then return length?
  else readHeader input (Editor.Frame.lengthIn? line <|> length?)

partial def readBody (input : IO.FS.Stream) (count : Nat) (done : ByteArray) : IO ByteArray := do
  if count ≤ done.size then return done
  let more ← input.read (USize.ofNat (count - done.size))
  if more.isEmpty then return done else readBody input count (done ++ more)

def readFrame (input : IO.FS.Stream) : IO (Option Bytes) := do
  match ← readHeader input none with
  | none => return none
  | some length => return some (← readBody input length .empty).toList

def send (messages : List Json) : IO Unit := do
  let output ← IO.getStdout
  for message in messages do
    output.putStr (Editor.Frame.write message)
  output.flush

/-- Serves messages until they end, and lets timers run out in between. -/
partial def serve (o : Console.Options) (input : IO.FS.Stream)
    (frame : Task (Except IO.Error (Option Bytes))) (last : Nat)
    (s : Editor.Session) (m : Machine) : IO Unit := do
  if s.phase = .ended then return
  let now ← IO.monoMsNow
  let ((s, sent), m) := { m with clock := now }.run (s.wait (now - last))
  send (sent.map (·.toJson))
  let m ← tell o m
  if ← IO.hasFinished frame then
    match frame.get with
    | .ok (some body) =>
        let (turn, m) := m.run (s.receiveAny (Editor.Frame.read body))
        send ((turn.response?.map (·.toJson)).toList ++ turn.sent.map (·.toJson))
        serve o input (← IO.asTask (readFrame input)) now turn.session (← tell o m)
    | _ => return
  else
    IO.sleep 10
    serve o input frame now s m

def perform (i : Console.Invocation) : IO UInt32 := do
  let (ending, m) := (← machine).run i.run
  let m ← tell i.options m
  IO.print ending.out
  match ending with
  | .printed _ _ => pure ()
  | .gaveUp fatal => IO.eprintln ("ERROR " ++ fatal.message)
  | .serving settings? =>
      let input ← IO.getStdin
      serve i.options input (← IO.asTask (readFrame input)) (← IO.monoMsNow)
        (.start settings?) m
  return UInt32.ofNat ending.exitCode

end LintBridge.Program

def main (args : List String) : IO UInt32 := do
  match LintBridge.Console.parse args with
  | .ok invocation => LintBridge.Program.perform invocation
  | .error halt =>
      IO.print halt.out
      if let .fault fault := halt then IO.eprintln fault.message
      return UInt32.ofNat halt.exitCode
