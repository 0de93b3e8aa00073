import LintBridge.Process.CommandLine
import LintBridge.Text.Utf8

/-!
# The host

What the program asks of the system that it runs on: files, the clock, and processes.
Each request has its own type of reply, and a refused one a reason.
-/

set_option autoImplicit false

namespace LintBridge

inductive OsError where
  | notFound
  | tooManyArguments
  | notExecutable
  | accessDenied
  | notADirectory
  | isADirectory
  | nameTooLong
  | tooManyLinks
  | nulInPath
  | nulInCommand
  | notUtf8
  /-- Any other refusal, with its text, in which no apostrophe stands. -/
  | other (text : { text : String // '\'' ∉ text.toList })
  deriving DecidableEq, Repr

namespace OsError

def message : OsError → String
  | notFound => "No such file or directory (os error 2)"
  | tooManyArguments => "Argument list too long (os error 7)"
  | notExecutable => "Exec format error (os error 8)"
  | accessDenied => "Permission denied (os error 13)"
  | notADirectory => "Not a directory (os error 20)"
  | isADirectory => "Is a directory (os error 21)"
  | nameTooLong => "File name too long (os error 36)"
  | tooManyLinks => "Too many levels of symbolic links (os error 40)"
  | nulInPath => "file name contained an unexpected NUL byte"
  | nulInCommand => "nul byte found in provided data"
  | notUtf8 => "stream did not contain valid UTF-8"
  | other text => text.val

/-- Why an empty path leads nowhere. -/
def emptyPath : OsError :=
  other ⟨"cannot make an empty path absolute", by decide⟩

end OsError

inductive FileKind where
  | file
  | directory
  | other
  deriving DecidableEq, Repr

inductive Stream where
  | out
  | err
  deriving DecidableEq, Repr

structure Chunk where
  stream : Stream
  bytes : Bytes
  deriving DecidableEq, Repr

inductive Exit where
  | code (n : Nat)
  | signal
  deriving DecidableEq, Repr

/-- What a watcher meets when it waits for output. -/
inductive Heard where
  | chunk (c : Chunk)
  | closed
  | nothing
  deriving DecidableEq, Repr

/-- What one look at a process shows: whether it has ended, whether its time is up, and
what it wrote. -/
structure Glance where
  exit? : Except OsError (Option Exit)
  late : Bool
  heard : Heard

/-- The looks at a process, and the chunks that were under way when it was killed. -/
structure Observation where
  glances : List Glance
  queued : List Chunk

end LintBridge
