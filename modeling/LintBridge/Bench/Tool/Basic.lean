import LintBridge.Machine.FileTree
import LintBridge.Bench.Tool.Quote

/-!
# Tools

The small programs of the machine.  A tool is given its arguments, its input and the
file tree, and gives back what it writes, its status and the tree.
-/

set_option autoImplicit false

namespace LintBridge

structure Errand where
  name : Raw
  args : List Raw
  input : Raw
  onFile : Bool
  tree : FileTree
  current : Location
  environment : List (String × Raw)

inductive Ending where
  | comes
  | unread
  | never
  deriving DecidableEq, Repr

def Ending.later : Ending → Ending → Ending
  | .never, _ | _, .never => .never
  | .unread, _ | _, .unread => .unread
  | .comes, .comes => .comes

structure Product where
  written : List (Stream × Raw)
  status : Nat
  tree : FileTree
  left : Raw
  ending : Ending

namespace Product

def say (p : Product) (raw : Raw) : Product :=
  if raw.isEmpty then p else { p with written := p.written ++ [(.out, raw)] }

def grumble (p : Product) (raw : Raw) : Product :=
  { p with written := p.written ++ [(.err, raw)] }

def done (p : Product) (status : Nat) : Product :=
  { p with status }

def atLeast (p : Product) (status : Nat) : Product :=
  { p with status := max p.status status }

def leaving (p : Product) (left : Raw) : Product :=
  { p with left }

/-- Does more; the worst status counts. -/
def andAlso (p q : Product) : Product :=
  ⟨p.written ++ q.written, max p.status q.status, q.tree,
    if q.left.isEmpty then p.left else q.left, p.ending.later q.ending⟩

end Product

namespace Errand

def quiet (t : Errand) (status : Nat) : Product :=
  ⟨[], status, t.tree, [], .comes⟩

def said (t : Errand) (out : Raw) : Product :=
  (t.quiet 0).say out

def saidLines (t : Errand) (lines : List Raw) : Product :=
  t.said (Raw.ofLines lines)

def line (t : Errand) (text : Raw) : Raw :=
  t.name ++ ':' :: ' ' :: text ++ ['\n']

def complaint (t : Errand) (text : Raw) (status : Nat) : Product :=
  ((t.quiet status).grumble (t.line text))

def advice (t : Errand) : Raw :=
  "Try '".toList ++ t.name ++ " --help' for more information.\n".toList

def misuse (t : Errand) (text : Raw) (status : Nat) : Product :=
  (t.quiet status).grumble (t.line text ++ t.advice)

def binding? (t : Errand) (name : String) : Option Raw :=
  (t.environment.find? (·.1 = name)).map (·.2)

end Errand

def OsError.reason : OsError → Raw
  | .notFound => "No such file or directory".toList
  | .isADirectory => "Is a directory".toList
  | .notADirectory => "Not a directory".toList
  | .accessDenied => "Permission denied".toList
  | .nameTooLong => "File name too long".toList
  | .tooManyLinks => "Too many levels of symbolic links".toList
  | .tooManyArguments => "Argument list too long".toList
  | .notExecutable => "Exec format error".toList
  | _ => "Invalid argument".toList

namespace Tool

def isInput (name : Raw) : Bool :=
  name = ['-'] || name = "/dev/stdin".toList

end Tool

/-- A source that never ends gives so many bytes, which no reader of it asks for. -/
def endlessSize : Nat :=
  1048576

/-- The content of a file; a dash is the input. -/
def Errand.source (t : Errand) (name : Raw) : Except OsError Raw :=
  if Tool.isInput name then .ok t.input
  else if name = "/dev/zero".toList then .ok (List.replicate endlessSize '\x00')
  else (t.tree.read t.current name.toPath).map Raw.ofBytes

/-- The files of a list with what they hold; without names the input is read. -/
def Errand.sources (t : Errand) (names : List Raw) : List (Raw × Except OsError Raw) :=
  if names.isEmpty then [(['-'], .ok t.input)] else names.map fun name => (name, t.source name)

/-- Does something for each part of a list, one after the other, with the tree as it is
by then. -/
def Errand.forEach {α : Type} (t : Errand) (parts : List α) (work : Errand → α → Product) :
    Product :=
  parts.foldl (fun p part => p.andAlso (work { t with tree := p.tree } part)) (t.quiet 0)

/-- What all files hold together, and a complaint about each that cannot be read. -/
def Errand.gather (t : Errand) (names : List Raw) (status : Nat) : Raw × Product :=
  (t.sources names).foldl
    (fun (content, p) item =>
      match item.2 with
      | .ok raw => (content ++ raw, p)
      | .error e =>
          (content,
            (p.grumble (t.line (Tool.quoteOdd item.1 ++ ':' :: ' ' :: e.reason))).atLeast status))
    ([], t.quiet 0)

end LintBridge
