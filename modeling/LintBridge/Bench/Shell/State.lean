import LintBridge.Machine.FileTree
import LintBridge.Bench.Shell.Script

/-!
# The state of a shell

A shell has variables, functions and descriptors, stands in a directory, and has a
clock of its own that only waiting moves.  When its clock reaches the limit it is
killed.
-/

set_option autoImplicit false

namespace LintBridge.Shell

inductive Target where
  | stream (stream : Stream)
  | buffer (id : Nat)
  | file (location : Location)
  /-- A text to be read; a file is left where its last reader stopped. -/
  | input (id : Nat) (file : Bool)
  | sink
  deriving DecidableEq, Repr

inductive Flow where
  | go
  | exit (status : Nat)
  | signal (number : Nat)
  | hung
  | leave (loops : Nat)
  | again (loops : Nat)
  | back
  deriving DecidableEq, Repr

/-- What went to one of the streams, when, in microseconds, and from which process. -/
structure Sent where
  time : Nat
  stream : Stream
  raw : Raw
  sender : Nat

structure Variable where
  value : Option Raw
  exported : Bool
  fixed : Bool

structure Background where
  number : Nat
  ends : Nat
  status : Nat
  holds : Bool
  alone : Bool

structure State where
  tree : FileTree
  /-- Microseconds since the launch. -/
  time : Nat
  limit : Nat
  /-- What was written, the last one first. -/
  sent : List Sent
  /-- Until when processes that nobody can name keep the streams open. -/
  heldUntil : Nat
  /-- Texts in the making and texts still to be read: their pieces, the last one first. -/
  texts : List (Nat × List Raw)
  fresh : Nat
  process : Nat
  writer : Nat
  name : Raw
  args : List Raw
  values : List (String × Variable)
  functions : List (String × Command)
  aliases : List (String × Raw)
  status : Nat
  outputStatus : Nat
  current : Location
  directory : Raw
  descriptors : List (Nat × Target)
  jobs : List Background
  options : List Char
  /-- What is done at signals, and at the end under the number zero. -/
  traps : List (Nat × Raw)
  /-- The variables that the running function has taken for itself, as they were. -/
  locals : Option (List (String × Option Variable))
  loops : Nat
  line : Nat
  context : Option Raw
  tested : Bool
  /-- The next argument that is looked at for options, counted from one. -/
  optionIndex : Nat
  /-- How many letters of the argument before it are taken already. -/
  lettersTaken : Nat
  lastJob : Option Nat
  flow : Flow

namespace State

def has (s : State) (option : Char) : Bool :=
  s.options.contains option

def done (s : State) (status : Nat) : State :=
  { s with status }

def ended (s : State) (status : Nat) : State :=
  { s with flow := .exit status, status }

def target? (s : State) (descriptor : Nat) : Option Target :=
  (s.descriptors.find? (·.1 = descriptor)).map (·.2)

def setTarget (s : State) (descriptor : Nat) (target : Option Target) : State :=
  let others := s.descriptors.filter (·.1 ≠ descriptor)
  { s with
    descriptors := match target with
      | some t => (descriptor, t) :: others
      | none => others }

def piecesOf (s : State) (id : Nat) : List Raw :=
  ((s.texts.find? (·.1 = id)).map (·.2)).getD []

def setPieces (s : State) (id : Nat) (pieces : List Raw) : State :=
  { s with texts := (id, pieces) :: s.texts.filter (·.1 ≠ id) }

def textOf (s : State) (id : Nat) : Raw :=
  match s.piecesOf id with
  | [raw] => raw
  | pieces => pieces.reverse.flatten

def setText (s : State) (id : Nat) (raw : Raw) : State :=
  s.setPieces id [raw]

/-- Writes to a descriptor; a closed one takes nothing. -/
def send (s : State) (descriptor : Nat) (raw : Raw) : State :=
  if raw.isEmpty then s
  else
    match s.target? descriptor with
    | some (.stream stream) => { s with sent := ⟨s.time, stream, raw, s.writer⟩ :: s.sent }
    | some (.buffer id) => s.setPieces id (raw :: s.piecesOf id)
    | some (.file location) =>
        match s.tree.get? location with
        | some (.file content executable) =>
            { s with
              tree := s.tree.set location (.file (content ++ Raw.toBytes raw) executable) }
        | _ => s
    | _ => s

def takeInput (s : State) : Raw × State :=
  match s.target? 0 with
  | some (.input id _) => (s.textOf id, s.setText id [])
  | _ => ([], s)

def takeLine (s : State) : (Raw × Bool) × State :=
  match s.target? 0 with
  | some (.input id _) =>
      let source := s.textOf id
      let line := source.takeWhile (· ≠ '\n')
      match source.drop line.length with
      | _ :: rest => ((line, true), s.setText id rest)
      | [] => ((line, false), s.setText id [])
  | _ => (([], false), s)

def complain (s : State) (text : Raw) : State :=
  let front := s.name ++ ':' :: ' ' :: Raw.ofNat s.line ++ [':', ' ']
  let context :=
    match s.context with
    | some name => name ++ [':', ' ']
    | none => []
  s.send 2 (front ++ context ++ text ++ ['\n'])

def fail (s : State) (text : Raw) : State :=
  (s.complain text).ended 2

def binding? (s : State) (name : String) : Option Variable :=
  (s.values.find? (·.1 = name)).map (·.2)

def look (s : State) (name : String) : Option Raw :=
  s.binding? name >>= (·.value)

def putVariable (s : State) (name : String) (v : Option Variable) : State :=
  let others := s.values.filter (·.1 ≠ name)
  { s with
    values := match v with
      | some v => (name, v) :: others
      | none => others }

/-- Gives a variable its value, even one that cannot be changed. -/
def assign (s : State) (name : String) (value : Raw) : State :=
  let before := s.binding? name
  let exported := (before.map (·.exported)).getD false || s.has 'a'
  let s := s.putVariable name (some ⟨some value, exported, (before.map (·.fixed)).getD false⟩)
  if name = "OPTIND" then { s with optionIndex := max 1 ((Raw.nat? value).getD 1), lettersTaken := 0 }
  else s

def isFixed (s : State) (name : String) : Bool :=
  ((s.binding? name).map (·.fixed)).getD false

/-- Gives a variable its value; one that cannot be changed ends the shell. -/
def tryAssign (s : State) (name : String) (value : Raw) : State :=
  if s.isFixed name then s.fail (name.toList ++ ": is read only".toList) else s.assign name value

def environment (s : State) : List (String × Raw) :=
  s.values.filterMap fun v =>
    match v.2 with
    | ⟨some value, true, _⟩ => some (v.1, value)
    | _ => none

/-- Lets time pass; at the limit the shell is killed. -/
def wait (s : State) (micros : Nat) : State :=
  let time := s.time + micros
  if s.limit ≤ time then { s with time := s.limit, flow := .hung } else { s with time }

def trap? (s : State) (signal : Nat) : Option Raw :=
  (s.traps.find? (·.1 = signal)).map (·.2)

def separators (s : State) : Raw :=
  (s.look "IFS").getD [' ', '\t', '\n']

/-- The letters of options in the order in which they are shown. -/
def optionLetters : List Char :=
  "pubaCEVvxsnmiIfe".toList

def parameter? (s : State) (name : String) : Option Raw :=
  match name with
  | "?" => some (Raw.ofNat s.status)
  | "#" => some (Raw.ofNat s.args.length)
  | "$" => some (Raw.ofNat s.process)
  | "!" => s.lastJob.map Raw.ofNat
  | "-" => some (optionLetters.filter s.has)
  | "@" | "*" => some ((s.separators.take 1).intercalate s.args)
  | name =>
      match Raw.nat? name.toList with
      | some 0 => some s.name
      | some n => s.args[n - 1]?
      | none => s.look name

end State

end LintBridge.Shell

/-!
## Finding commands

Where a command of a name is found, and which interpreter the first line of a script
names.
-/

namespace LintBridge.Shell

inductive Finding where
  | program (place : Raw) (name : String)
  | script (place : Raw) (content : Raw)
  | denied
  | missing

def findingOf (place : Raw) : Except OsError (Location × Node) → Finding
  | .ok (_, .program name) => .program place name
  | .ok (_, .file content true) => .script place (Raw.ofBytes content)
  | .ok _ => .denied
  | .error .notFound => .missing
  | .error .notADirectory => .missing
  | .error _ => .denied

/-- The directories in which programs are looked for where nothing else is said. -/
def searchPath : List String :=
  ["/usr/local/sbin", "/usr/local/bin", "/usr/sbin", "/usr/bin", "/sbin", "/bin"]

def search (s : State) (name : Raw) : List Raw → Finding
  | [] => .missing
  | directory :: rest =>
      let place := if directory.isEmpty then name else directory ++ '/' :: name
      match s.tree.node s.current (Raw.toPath place) with
      | .ok (_, .directory) => search s name rest
      | found =>
          match findingOf place found with
          | .missing => search s name rest
          | .denied =>
              match search s name rest with
              | .missing => .denied
              | found => found
          | found => found

def State.searchPath (s : State) : List Raw :=
  match s.look "PATH" with
  | some raw => Raw.split ':' raw
  | none => Shell.searchPath.map String.toList

def findCommand (s : State) (name : Raw) : Finding :=
  if name.isEmpty then .missing
  else if name.contains '/' then findingOf name (s.tree.node s.current (Raw.toPath name))
  else search s name s.searchPath

/-- The interpreter that the first line of a script names, with its argument. -/
def interpreter? (content : Raw) : Option (Raw × List Raw) :=
  match content with
  | '#' :: '!' :: rest =>
      let line := Raw.trimLeft Raw.isBlank (rest.takeWhile (· ≠ '\n'))
      let name := line.takeWhile fun c => !Raw.isBlank c
      let arg := Raw.trim Raw.isBlank (line.drop name.length)
      if name.isEmpty then none else some (name, if arg.isEmpty then [] else [arg])
  | _ => none

end LintBridge.Shell
