import LintBridge.Console.Options
import LintBridge.Lint.Annotate
import LintBridge.Text.Basic

/-!
# Summary of a run

What became of every file, as text for people or as JSON, and whether any of it is
bad.
-/

set_option autoImplicit false

namespace LintBridge

/-- Failed, or with an error among the annotations. -/
def LintOutcome.isBad : LintOutcome → Bool
  | .annotated annotations => annotations.any (·.severity = .error)
  | .failed _ => true
  | .skipped _ => false

namespace Console

/-- What became of a file, by the path under which it was given. -/
structure FileOutcome where
  path : Path
  outcome : LintOutcome
  deriving DecidableEq, Repr

namespace FileOutcome

def annotationLine (a : Annotation) : String :=
  "  " ++ toString (a.line + 1) ++ ":" ++ toString a.column.toInt ++ " " ++ a.severity.name
    ++ " [" ++ a.source ++ "]: " ++ a.message ++ "\n"

def failureLine (line : String) : String :=
  "  failed: " ++ line ++ "\n"

/-- The lines about one file; a file with nothing to tell has none. -/
def text (file : FileOutcome) : String :=
  let header := "\n" ++ file.path.text ++ ":\n"
  match file.outcome with
  | .annotated [] => ""
  | .annotated annotations => header ++ String.join (annotations.map annotationLine)
  | .failed message => header ++ String.join ((Text.lines (Text.trim message)).map failureLine)
  | .skipped _ => ""

def issueCount (file : FileOutcome) : Nat :=
  match file.outcome with
  | .annotated annotations => annotations.length
  | _ => 0

def isFailed (file : FileOutcome) : Bool :=
  match file.outcome with
  | .failed _ => true
  | _ => false

def toJson (file : FileOutcome) : Json :=
  .ofMembers [("path", .string file.path.text), ("outcome", file.outcome.toJson)]

end FileOutcome

def countLine (files : List FileOutcome) : String :=
  let failures := files.countP (·.isFailed)
  "\nChecked " ++ toString files.length ++ " files, found "
    ++ toString (files.foldl (fun n f => n + f.issueCount) 0) ++ " issues"
    ++ (if failures = 0 then "" else ", " ++ toString failures ++ " failed") ++ "\n"

def Format.print (format : Format) (files : List FileOutcome) : String :=
  match format with
  | .text => String.join (files.map (·.text)) ++ countLine files
  | .json => (Json.array (files.map (·.toJson))).indented ++ "\n"

end Console

end LintBridge
