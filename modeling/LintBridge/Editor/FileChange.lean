import LintBridge.Text.Quoted
import LintBridge.Uri.Reader

/-!
# Changes of files

The editor tells of files that were created, changed or deleted.  The log has every
part of their addresses by name.
-/

set_option autoImplicit false

namespace LintBridge

namespace Uri

def describePart : Option String → String
  | some part => "Some(" ++ part ++ ")"
  | none => "None"

def describeText (text? : Option String) : String :=
  describePart (text?.map Text.quoted)

/-- The user's name, and the password if there is one. -/
def user (uri : Uri) : String × Option String :=
  let (user?, _) := cutUser (uri.authority?.getD "").toList
  let (name, password) := cutAt (· = ':') (user?.getD [])
  (String.ofList name,
    match password with
    | ':' :: rest => some (String.ofList rest)
    | _ => none)

def port? (uri : Uri) : Option String :=
  let (_, place) := cutUser (uri.authority?.getD "").toList
  (cutPort false place).2.map String.ofList

/-- The path is no path from a root. -/
def isPlain (uri : Uri) : Bool :=
  uri.authority?.isNone && uri.path.toList.head? ≠ some '/'

def describeRecord (name : String) (fields : List (String × String)) : String :=
  name ++ " \x7b "
    ++ String.intercalate ", " (fields.map fun field => field.1 ++ ": " ++ field.2) ++ " \x7d"

def describe (uri : Uri) : String :=
  describeRecord "Url"
    [("scheme", Text.quoted uri.scheme), ("cannot_be_a_base", toString uri.isPlain),
     ("username", Text.quoted uri.user.1), ("password", describeText uri.user.2),
     ("host", describePart (uri.host?.map (·.describe))),
     ("port", describePart uri.port?), ("path", Text.quoted uri.path),
     ("query", describeText uri.query?), ("fragment", describeText uri.fragment?)]

end Uri

namespace Editor

structure FileChange where
  uri : Uri
  /-- One for creation, two for a change, three for deletion. -/
  kind : Int32
  deriving DecidableEq, Repr

namespace FileChange

def kindText (kind : Int32) : String :=
  if kind = 1 then "Created"
  else if kind = 2 then "Changed"
  else if kind = 3 then "Deleted"
  else "FileChangeType(" ++ toString kind.toInt ++ ")"

def describe (change : FileChange) : String :=
  Uri.describeRecord "FileEvent"
    [("uri", change.uri.describe), ("typ", kindText change.kind)]

def writtenPath (change : FileChange) : Path :=
  .ofText change.uri.path

end FileChange

end Editor

end LintBridge
