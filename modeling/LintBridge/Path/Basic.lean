import LintBridge.Text.Stray

/-!
# File paths

A path is kept as the pieces of its text between slashes, so nothing of the text is
lost: the empty path is one empty piece, and an absolute path begins with an empty
piece before another one.  Bytes that belong to no character are kept in the pieces too.

What a path means are its components.  Empty pieces and pieces of one dot count for
nothing, except for a dot that the whole path begins with.
-/

set_option autoImplicit false

namespace LintBridge

structure Path where
  pieces : List String
  deriving DecidableEq, Repr

inductive Component where
  | root
  | current
  | parent
  | name (text : String)
  deriving DecidableEq, Repr

namespace Path

/-- The pieces of a text, behind the characters of the first one (the last one
first). -/
def split : List Char → List Char → List String
  | reversed, [] => [String.ofList reversed.reverse]
  | reversed, c :: rest =>
      if c = '/' then String.ofList reversed.reverse :: split [] rest
      else split (c :: reversed) rest

def ofText (text : String) : Path :=
  ⟨split [] (Text.Stray.keepText text).toList⟩

def ofBytes (bytes : Bytes) : Path :=
  ⟨split [] (Text.Stray.ofBytes bytes).toList⟩

def kept (path : Path) : String :=
  String.intercalate "/" path.pieces

def text (path : Path) : String :=
  Text.Stray.shown path.kept

def bytes (path : Path) : Bytes :=
  Text.Stray.bytes path.kept

def quoted (path : Path) : String :=
  Text.Stray.quoted path.kept

def empty : Path :=
  ⟨[""]⟩

def isAbsolute (path : Path) : Bool :=
  match path.pieces with
  | "" :: _ :: _ => true
  | _ => false

/-- The other path as seen from this one. -/
def join (path other : Path) : Path :=
  if other.isAbsolute || path = empty then other
  else if path.pieces.getLast? = some "" then ⟨path.pieces.dropLast ++ other.pieces⟩
  else ⟨path.pieces ++ other.pieces⟩

def body (path : Path) : List String :=
  if path.isAbsolute then path.pieces.tail else path.pieces

/-- A piece that stands for no component inside a path. -/
def isIdle (piece : String) : Bool :=
  piece = "" || piece = "."

def componentOf (piece : String) : Component :=
  if piece = ".." then .parent else if piece = "." then .current else .name piece

def innerComponents (pieces : List String) : List Component :=
  (pieces.filter (!isIdle ·)).map componentOf

def components (path : Path) : List Component :=
  if path.isAbsolute then .root :: innerComponents path.body
  else
    match path.pieces with
    | "." :: rest => .current :: innerComponents rest
    | pieces => innerComponents pieces

def trimEnd (pieces : List String) : List String :=
  (pieces.reverse.dropWhile isIdle).reverse

/-- Without the idle pieces at the end; a dot that a relative path begins with
stays. -/
def trim (absolute : Bool) (pieces : List String) : List String :=
  match trimEnd pieces with
  | [] => if !absolute && pieces.head? = some "." then ["."] else []
  | trimmed => trimmed

def rebuild (absolute : Bool) (pieces : List String) : Path :=
  if absolute then ⟨"" :: if pieces.isEmpty then [""] else pieces⟩
  else if pieces.isEmpty then empty
  else ⟨pieces⟩

def parent? (path : Path) : Option Path :=
  match trim path.isAbsolute path.body with
  | [] => none
  | pieces => some (rebuild path.isAbsolute (trim path.isAbsolute pieces.dropLast))

def fileName? (path : Path) : Option String :=
  match path.components.getLast? with
  | some (.name text) => some text
  | _ => none

/-- A name cut at its last dot, unless it has none behind the first character. -/
def cutName (name : String) : String × Option String :=
  let reversed := name.toList.reverse
  let ending := reversed.takeWhile (· ≠ '.')
  match reversed.drop ending.length with
  | [] => (name, none)
  | [_] => (name, none)
  | _ :: stem => (String.ofList stem.reverse, some (String.ofList ending.reverse))

def stem? (path : Path) : Option String :=
  path.fileName?.map fun name => (cutName name).1

def extension? (path : Path) : Option String :=
  path.fileName?.bind fun name => (cutName name).2

/-- The pieces behind the first `n` that count. -/
def dropNames : Nat → List String → List String
  | _, [] => []
  | n, piece :: rest =>
      if isIdle piece then dropNames n rest
      else
        match n with
        | 0 => piece :: rest
        | n + 1 => dropNames n rest

def behind (n : Nat) (path : Path) : Path :=
  match n with
  | 0 => rebuild path.isAbsolute (trim path.isAbsolute path.body)
  | n + 1 =>
      let pieces :=
        if path.isAbsolute then dropNames n path.body
        else
          match path.pieces with
          | "." :: rest => dropNames n rest
          | pieces => dropNames (n + 1) pieces
      rebuild false (trimEnd pieces)

/-- The rest of the path behind another one that its components begin with. -/
def stripPrefix? (path base : Path) : Option Path :=
  if base.components.isPrefixOf path.components then
    some (path.behind base.components.length)
  else none

end Path

end LintBridge

/-!
## Absolute paths

A path seen from a directory, without a look at the files: pieces that stand for
nothing go, while a step to the parent stays, and so does a slash at the end.  Two
slashes at the beginning are not one.
-/

namespace LintBridge.Path

/-- The path begins with two slashes and not with three. -/
def hasDoubleRoot (path : Path) : Bool :=
  match path.pieces with
  | "" :: "" :: third :: rest => third ≠ "" || rest.isEmpty
  | _ => false

def steps (path : Path) : List String :=
  path.body.filter (!isIdle ·)

/-- With a slash at the end, unless one is there. -/
def closed (path : Path) : Path :=
  if path.pieces.getLast? = some "" then path else ⟨path.pieces ++ [""]⟩

/-- A path that begins at the root, without its idle pieces. -/
def tidy (path : Path) : Path :=
  if path.hasDoubleRoot then
    if path.steps.isEmpty then ⟨["", "", ""]⟩ else ⟨"" :: "" :: path.steps⟩
  else rebuild true path.steps

/-- With a slash at the end where the other path has one. -/
def endedAs (path other : Path) : Path :=
  if other.pieces.getLast? = some "" then path.closed else path

/-- A path that begins at the root, as it is seen from everywhere. -/
def normal (path : Path) : Path :=
  path.tidy.endedAs path

/-- A path that does not begin at the root, as seen from a directory. -/
def seenFrom (path directory : Path) : Path :=
  (if path.steps.isEmpty then directory else directory.join ⟨path.steps⟩).endedAs path

end LintBridge.Path
