import LintBridge.Bench.Rule.Course
import LintBridge.Bench.Shell.Session

/-!
# What rules read and write

The files of a call, further files, and commands that are read or written to.  The output
waits until the end, or until a command is started that may write too.
-/

set_option autoImplicit false

namespace LintBridge.Rule

open Shell (Layer)

abbrev Doing := StateM Course

def goes : Doing Bool :=
  return (← get).goes

def runError (text : Raw) : Doing Unit :=
  modify fun c =>
    c.breakOff ("run time error: ".toList ++ text ++ "\n\tFILENAME=\"".toList ++ c.keptText "FILENAME"
      ++ "\" FNR=".toList ++ c.keptText "FNR" ++ " NR=".toList ++ c.keptText "NR")

def cannotOpen (name : Raw) (e : OsError) (forOutput : Bool) : Doing Unit :=
  modify fun c =>
    c.breakOff ("cannot open \"".toList ++ name ++ ['"']
      ++ (if forOutput then " for output (" else " (").toList ++ e.reason ++ [')'])

/-! ## Commands -/

/-- Runs a command in a shell with a text as its input, or with the input of the script; what
it writes may be taken. -/
def runCommand (inner : Layer) (called text : Raw) (input : Option Raw) (taken : Bool) :
    Doing (Raw × Nat) := do
  modify Course.flush
  let before := (← get).shell
  let id := before.fresh
  let s := { before with fresh := id + 2 }
  let s :=
    match input with
    | some raw => (s.setText id raw).setTarget 0 (some (.input id false))
    | none => s
  let s := if taken then s.setTarget 1 (some (.buffer (id + 1))) else s
  let after := s.adopt (inner.runShell called ["-c".toList, text] s.child)
  let out := after.textOf (id + 1)
  let shell :=
    { after with
      descriptors := before.descriptors,
      texts := after.texts.filter fun t => t.1 ≠ id && t.1 ≠ id + 1 }
  modify fun c => { c with shell, flow := if shell.flow = .go then c.flow else .hung }
  return (out, after.status)

/-- Runs the command of a pipe that was filled.  The output of the script waits. -/
def runPipe (inner : Layer) (pipe : Raw × Raw) : Doing Nat := do
  let waiting := (← get).out
  modify fun c => { c with pipes := c.pipes.filter (·.1 ≠ pipe.1), out := [] }
  let (_, status) ← runCommand inner "/bin/sh".toList pipe.1 (some pipe.2) false
  modify fun c => { c with out := waiting }
  return status

def runPipes (inner : Layer) : List (Raw × Raw) → Doing Unit
  | [] => return
  | pipe :: rest => do
      let _ ← runPipe inner pipe
      runPipes inner rest

/-! ## Output -/

def streamOf? (name : Raw) : Option Nat :=
  if name = "/dev/stdout".toList || name = ['-'] then some 1
  else if name = "/dev/stderr".toList then some 2
  else none

def toOutput (text : Raw) : Doing Unit :=
  modify fun c => { c with out := text :: c.out }

/-- Writes to a file, which is emptied when it is first written to. -/
def toFile (name text : Raw) (keeps : Bool) : Doing Unit := do
  match streamOf? name with
  | some 1 => toOutput text
  | some n => modify fun c => { c with shell := c.shell.send n text }
  | none =>
      let c ← get
      let s := c.shell
      let before : Bytes :=
        if keeps || c.written.contains name then
          match s.tree.read s.current (Raw.toPath name) with
          | .ok bytes => bytes
          | .error _ => []
        else []
      match s.tree.write s.current (Raw.toPath name) (before ++ Raw.toBytes text) with
      | .ok tree =>
          set { c with shell := { s with tree }, written := name :: c.written.filter (· ≠ name) }
      | .error e => cannotOpen name e true

def toCommand (command text : Raw) : Doing Unit := do
  let c ← get
  if c.pipes.any (·.1 = command) then
    let filled := c.pipes.map fun p : Raw × Raw =>
      if p.1 = command then (command, p.2 ++ text) else p
    set { c with pipes := filled }
  else set { c.flush with pipes := (command, text) :: c.pipes }

/-! ## Input -/

def contentOf (name : Raw) : Doing (Except OsError Raw) := do
  let c ← get
  if name = ['-'] || name = "/dev/stdin".toList then
    let (raw, shell) := c.shell.takeInput
    set { c with shell }
    return .ok raw
  else
    return (c.shell.tree.read c.shell.current (Raw.toPath name)).map Raw.ofBytes

def assignment? (word : Raw) : Option (String × Raw) :=
  let name := word.takeWhile Token.isNamePart
  match name.head?, word.drop name.length with
  | some first, '=' :: value => if first.isDigit then none else some (String.ofList name, value)
  | _, _ => none

def assignWord (name : String) (value : Raw) : Doing Unit :=
  modify fun c => c.assign name (.input (Token.unescaped (value.length + 1) value))

/-- Opens the next file of the call; without any it is the input. -/
def openNext : Nat → Doing Bool
  | 0 => return false
  | fuel + 1 => do
      let c ← get
      let take (name : Raw) : Doing Bool := do
        match ← contentOf name with
        | .ok raw =>
            modify fun c =>
              ({ c with input := some raw, hasInput := true }.bind "FILENAME"
                (.value (.text name))).bind "FNR" (.value (.number 0.0))
            return true
        | .error .isADirectory =>
            modify fun c => c.breakOff "read error (Is a directory)".toList
            return false
        | .error e =>
            cannotOpen name e false
            return false
      if (c.kept "ARGC").toInt ≤ c.nextArg then
        if c.hasInput then return false else take ['-']
      else
        let key := Raw.ofNat c.nextArg
        let word :=
          match c.binding? "ARGV" with
          | some (.table id) => ((c.table id).find? (·.1 = key)).map fun e => c.textOf e.2
          | _ => none
        set { c with nextArg := c.nextArg + 1 }
        match word with
        | none | some [] => openNext fuel
        | some word =>
            match assignment? word with
            | some (name, value) =>
                assignWord name value
                openNext fuel
            | none => take word

def nextMain : Nat → Doing (Option Raw)
  | 0 => return none
  | fuel + 1 => do
      let c ← get
      match c.input with
      | some text =>
          match c.nextRecord? text with
          | some (record, rest) =>
              set ({ c with input := some rest }.count ["NR", "FNR"])
              return some record
          | none =>
              set { c with input := none }
              nextMain fuel
      | none =>
          if (← openNext (c.shell.fresh + (c.kept "ARGC").toInt.toNat + 1)) then nextMain fuel
          else return none

/-- The next record of a source that is open already, or that is opened now. -/
def nextOf (inner : Layer) (command : Bool) (name : Raw) : Doing (Except Unit (Option Raw)) := do
  let c ← get
  let known := (c.sources.find? (·.1 = (command, name))).map (·.2)
  let found : Option Raw ← (do
    match known with
    | some raw => return some raw
    | none =>
        if command then return some (← runCommand inner "/bin/sh".toList name none true).1
        else
          match ← contentOf name with
          | .ok raw => return some raw
          | .error _ => return none : Doing (Option Raw))
  match found with
  | none => return .error ()
  | some raw =>
      let c ← get
      let others := c.sources.filter (·.1 ≠ (command, name))
      match c.nextRecord? raw with
      | some (record, rest) =>
          set { c with sources := ((command, name), rest) :: others }
          return .ok (some record)
      | none =>
          set { c with sources := ((command, name), []) :: others }
          return .ok none

/-- Closes what has a name: its status, or less than nothing if there is no such thing. -/
def close (inner : Layer) (name : Raw) : Doing Int := do
  let c ← get
  let isKnown := c.written.contains name || c.sources.any (·.1.2 = name)
  set { c with
    written := c.written.filter (· ≠ name), sources := c.sources.filter (·.1.2 ≠ name) }
  match c.pipes.find? (·.1 = name) with
  | some pipe => return (← runPipe inner pipe : Nat)
  | none => return if isKnown then 0 else -1

end LintBridge.Rule
