import LintBridge.Path.Basic
import LintBridge.Uri.HostAddress

/-!
# Document addresses

An editor names documents by address.  An address whose path begins with a slash, and
which names no other host, is the address of a file, whatever its scheme.
-/

set_option autoImplicit false

namespace LintBridge

structure Uri where
  scheme : String
  authority? : Option String
  host? : Option Uri.HostAddress
  path : String
  query? : Option String
  fragment? : Option String
  deriving DecidableEq, Repr

namespace Uri

def signed (sign : String) : Option String → String
  | some part => sign ++ part
  | none => ""

/-- Keeps a path that begins with two slashes apart from an authority. -/
def guardPath (uri : Uri) : String :=
  match uri.authority?, uri.path.toList with
  | none, '/' :: '/' :: _ => "/."
  | _, _ => ""

def text (uri : Uri) : String :=
  uri.scheme ++ ":" ++ signed "//" uri.authority? ++ uri.guardPath ++ uri.path
    ++ signed "?" uri.query? ++ signed "#" uri.fragment?

/-- The last two bytes name a drive. -/
def endsInDrive (bytes : Bytes) : Bool :=
  match bytes.reverse with
  | sign :: letter :: _ :: _ =>
      (sign = 0x3A || sign = 0x7C) && (Char.ofNat letter.toNat).isAlpha
  | _ => false

/-- The file of a path that is written in an address.  A drive has a slash behind it. -/
def fileOf (path : List Char) : Path :=
  let bytes := decode path
  .ofBytes (if endsInDrive bytes then bytes ++ [0x2F] else bytes)

def isLocal (uri : Uri) : Bool :=
  uri.host? = none || uri.host? = some (.name "localhost")

def filePath? (uri : Uri) : Option Path :=
  match uri.path.toList with
  | '/' :: rest => if uri.isLocal then some (fileOf ('/' :: rest)) else none
  | _ => none

end Uri

end LintBridge
