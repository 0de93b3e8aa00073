import LintBridge.Host.Job
import LintBridge.LintError

/-!
# The text on disk

The linter reads a file, so the editor's text has to be in one.  A saved file of the
same content serves; otherwise a copy is made beside it, with the file's extension, and
removed when the linter has read it.
-/

set_option autoImplicit false

namespace LintBridge

structure Copy where
  path : Path
  /-- The file was made for the linter. -/
  temporary : Bool
  deriving DecidableEq, Repr

namespace Copy

def directoryFor (root file : Path) : Path :=
  match file.parent? with
  | some parent => if parent = Path.empty then root else parent
  | none => root

def nameStart (file : Path) : String :=
  "." ++ Text.Stray.shown (file.stem?.getD "") ++ "."

def nameEnd (file : Path) : String :=
  match file.extension? with
  | some ending => "." ++ Text.Stray.shown ending
  | none => ""

def failure (e : OsError) (path : Path) : LintError :=
  .io (e.message ++ " at path " ++ path.quoted)

def absolute (directory : Path) : Job (Except LintError Path) := do
  if directory.isAbsolute then return .ok directory
  else
    match ← Job.currentDirectory with
    | .error e => return .error (.io e.message)
    | .ok current => return .ok (current.join directory)

/-- Makes a copy of the text.  One that cannot be filled is removed again. -/
def make (root file : Path) (content : Bytes) : Job (Except LintError Copy) := do
  match ← absolute (directoryFor root file) with
  | .error e => return .error e
  | .ok directory =>
      match ← Job.createCopy directory (nameStart file) (nameEnd file) with
      | .error (e, path) => return .error (failure e path)
      | .ok path =>
          match ← Job.write path content with
          | .error e =>
              Job.remove path
              return .error (failure e path)
          | .ok () =>
              Job.log .debug ("Materialized " ++ file.text ++ " as " ++ path.text)
              return .ok ⟨path, true⟩

def isSaved (file : Path) (content : Bytes) : Job Bool := do
  match ← Job.read file with
  | .ok bytes => return bytes = content
  | .error _ => return false

def materialize (root file : Path) (content : String) : Job (Except LintError Copy) := do
  let bytes := Text.encode content
  if ← isSaved file bytes then
    Job.log .debug ("Linting saved file " ++ file.text)
    return .ok ⟨file, false⟩
  else make root file bytes

def release (copy : Copy) : Job Unit :=
  if copy.temporary then Job.remove copy.path else pure ()

/-- The path as seen from the project root.  Where the texts do not tell it, the places
that they lead to are compared. -/
def relativePath (root : Path) (copy : Copy) : Job (Except LintError String) := do
  match copy.path.stripPrefix? root with
  | some relative => return .ok relative.text
  | none =>
      match ← Job.canonical root with
      | .error e => return .error (.io e.message)
      | .ok root' =>
          match ← Job.canonical copy.path with
          | .error e => return .error (.io e.message)
          | .ok path' =>
              match path'.stripPrefix? root' with
              | some relative => return .ok relative.text
              | none =>
                  return .error (.internal
                    (copy.path.text ++ " is not inside the project root " ++ root.text))

end Copy

end LintBridge
