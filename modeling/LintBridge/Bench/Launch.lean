import LintBridge.Bench.Shell.Run

/-!
# Launching processes

How the machine finds the program of a command, and what a watcher sees of the process.
A script names its interpreter in its first line.  A process is late when it has not
ended, or some process still holds its streams, at the end of its time.
-/

set_option autoImplicit false

namespace LintBridge

open Shell

/-- A program to run, the name it is called by, and its arguments. -/
structure Image where
  program : String
  name : Raw
  args : List Raw

namespace Image

def longestArgument : Nat :=
  131071

def ofNode (tree : FileTree) (current : Location) :
    Nat → Raw → List Raw → Except OsError (Location × Node) → Except OsError Image
  | _, _, _, .error e => .error e
  | _, name, args, .ok (_, .program program) => .ok ⟨program, name, args⟩
  | 0, _, _, .ok _ => .error .tooManyLinks
  | depth + 1, name, args, .ok (_, .file content true) =>
      match interpreter? (Raw.ofBytes content) with
      | none => .error .notExecutable
      | some (interpreter, options) =>
          ofNode tree current depth interpreter (options ++ name :: args)
            (tree.node current (Raw.toPath interpreter))
  | _, _, _, .ok _ => .error .accessDenied

/-- The first file of a name in the directories of the search path that can be run. -/
def search (tree : FileTree) (name : Path) : List String → Except OsError (Location × Node)
  | [] => .error .notFound
  | directory :: rest =>
      match tree.node [] ((Path.ofText directory).join name) with
      | .ok (location, .program program) => .ok (location, .program program)
      | .ok (location, .file content true) => .ok (location, .file content true)
      | .ok _ =>
          match search tree name rest with
          | .error .notFound => .error .accessDenied
          | found => found
      | .error _ => search tree name rest

def find (tree : FileTree) (current : Location) (command : CommandLine) : Except OsError Image :=
  let name := Raw.ofName command.program
  let args := command.args.map Raw.ofName
  if args.any fun a => longestArgument < a.length then .error .tooManyArguments
  else if command.program = "" then .error .notFound
  else if name.contains '/' then
    ofNode tree current 4 name args (tree.node current (Raw.toPath name))
  else ofNode tree current 4 name args (search tree (Raw.toPath name) searchPath)

end Image

def startEnvironment : List (String × Raw) :=
  [("HOME", "/root".toList), ("LANG", "C.UTF-8".toList),
   ("PATH", "/usr/local/sbin:/usr/local/bin:/usr/sbin:/usr/bin:/sbin:/bin".toList)]

def Shell.State.begin (tree : FileTree) (current : Location) (limit : Nat) : State :=
  let directory := Raw.ofPath (FileTree.pathOf current)
  { tree, time := 0, limit, sent := [], heldUntil := 0, texts := [], fresh := 1,
    process := State.processNumber 0, writer := State.processNumber 0, name := [], args := [],
    values := startValues startEnvironment directory, functions := [], aliases := [], status := 0,
    outputStatus := 0, current, directory, descriptors := [(1, .stream .out), (2, .stream .err)],
    jobs := [], options := [], traps := [], locals := none, loops := 0, line := 0,
    context := none, tested := false, optionIndex := 1, lettersTaken := 0, lastJob := none,
    flow := .go }

def readSize : Nat :=
  8192

def readsOf (stream : Stream) : Nat → Bytes → List Chunk
  | 0, _ => []
  | fuel + 1, bytes =>
      if bytes.isEmpty then []
      else ⟨stream, bytes.take readSize⟩ :: readsOf stream fuel (bytes.drop readSize)

/-- What is written at one time is read together, stream by stream. -/
def readsAt (time : Nat) (sent : List Sent) : List Chunk :=
  let bytesOf (stream : Stream) : Bytes :=
    Raw.toBytes ((sent.filter fun x => x.time = time && x.stream = stream).flatMap (·.raw))
  let out := bytesOf .out
  let err := bytesOf .err
  readsOf .out (out.length + 1) out ++ readsOf .err (err.length + 1) err

/-- The times of a list without repetition, the earliest first. -/
def timesOf (sent : List Sent) : List Nat :=
  ((sent.map (·.time)).mergeSort fun a b => a ≤ b).eraseDups

def Shell.State.exit? (s : State) : Option Exit :=
  match s.flow with
  | .hung => none
  | .signal _ => some .signal
  | .exit status => some (.code status)
  | _ => some (.code s.status)

/-- What a watcher sees of a process whose shell came to this state. -/
def Shell.State.observation (s : State) : Observation :=
  let sent := s.sent.reverse.filter fun x => x.time < s.limit
  let exitAt (time : Nat) : Option Exit := if s.time ≤ time then s.exit? else none
  let reads := (timesOf sent).flatMap fun time =>
    (readsAt time sent).map fun chunk => (⟨.ok (exitAt time), false, .chunk chunk⟩ : Glance)
  let late := s.exit?.isNone || s.limit ≤ max s.time s.held
  if late then ⟨reads ++ [⟨.ok (exitAt s.held), true, .nothing⟩], []⟩
  else ⟨reads ++ [⟨.ok s.exit?, false, .closed⟩, ⟨.ok s.exit?, false, .nothing⟩], []⟩

/-- Runs a command for so many microseconds at most: what is seen of it, and the tree
that it leaves. -/
def FileTree.launch (tree : FileTree) (current : Location) (command : CommandLine) (budget : Nat) :
    Except OsError (Observation × FileTree) :=
  let directory := command.directory?.getD (.ofText ".")
  let hasNul (text : String) : Bool := text.toList.contains '\x00'
  if hasNul command.program || command.args.any hasNul || hasNul directory.kept then
    .error .nulInCommand
  else
    match tree.node current directory with
    | .error e => .error e
    | .ok (location, .directory) =>
        match Image.find tree location command with
        | .error e => .error e
        | .ok image =>
            let start := Shell.State.begin tree location budget
            if budget = 0 then .ok (⟨[⟨.ok none, true, .nothing⟩], []⟩, tree)
            else
              let run :=
                if image.program = "sh" then Layer.usual.runShell
                else Layer.usual.runProgram image.program
              let last := run image.name image.args start
              .ok (last.observation, last.tree)
    | .ok _ => .error .notADirectory

end LintBridge
