import LintBridge.Host.Basic

/-!
# A file tree in memory

Files, directories and links under their names from the root.  A path is followed name
by name: a dot stays, two dots go up, and a link goes on from its target.  Forty links
are followed at most.
-/

set_option autoImplicit false

namespace LintBridge

/-- The names from the root down. -/
abbrev Location := List String

inductive Node where
  | file (content : Bytes) (executable : Bool)
  | directory
  | link (target : Path)
  /-- A program of the machine itself. -/
  | program (name : String)
  /-- Takes everything and holds nothing. -/
  | sink
  deriving DecidableEq, Repr

structure FileTree where
  entries : List (Location × Node)
  deriving Repr

namespace FileTree

def bare : FileTree :=
  ⟨[]⟩

/-- The root is a directory. -/
def get? (tree : FileTree) (location : Location) : Option Node :=
  if location = [] then some .directory
  else (tree.entries.find? (·.1 = location)).map (·.2)

def set (tree : FileTree) (location : Location) (node : Node) : FileTree :=
  ⟨(location, node) :: tree.entries.filter (·.1 ≠ location)⟩

/-- Takes away what stands at a location and below. -/
def erase (tree : FileTree) (location : Location) : FileTree :=
  ⟨tree.entries.filter fun e => !location.isPrefixOf e.1⟩

/-- Takes away what stands at a location, and nothing else. -/
def clear (tree : FileTree) (location : Location) : FileTree :=
  ⟨tree.entries.filter (·.1 ≠ location)⟩

def names (tree : FileTree) (location : Location) : List String :=
  tree.entries.filterMap fun e =>
    match e.1.getLast? with
    | some name => if e.1 = location ++ [name] then some name else none
    | none => none

/-- Makes the directories on a way down that are not there yet. -/
def makeDirectories (tree : FileTree) (base : Location) : List String → FileTree
  | [] => tree
  | name :: rest =>
      let location := base ++ [name]
      let tree := if (tree.get? location).isSome then tree else tree.set location .directory
      tree.makeDirectories location rest

inductive Spot where
  | found (location : Location) (node : Node)
  /-- Nothing stands there, but it could. -/
  | vacant (directory : Location) (name : String)
  deriving DecidableEq, Repr

inductive Scan where
  | ends (spot : Spot)
  | link (directory : Location) (target : Path) (rest : List String)
  | refused (error : OsError)
  deriving DecidableEq, Repr

/-- The longest name of a file, in bytes. -/
def longestName : Nat :=
  255

/-- The longest path, in bytes. -/
def longestPath : Nat :=
  4095

def mostLinks : Nat :=
  40

/-- Follows pieces from a directory up to a link.  A link at the end is followed only
where `follow` is set. -/
def scan (tree : FileTree) (follow : Bool) : Location → List String → Scan
  | directory, [] => .ends (.found directory .directory)
  | directory, piece :: rest =>
      if Path.isIdle piece then scan tree follow directory rest
      else if piece = ".." then scan tree follow directory.dropLast rest
      else if longestName < (Text.Stray.bytes piece).length then .refused .nameTooLong
      else
        let location := directory ++ [piece]
        match tree.get? location with
        | some .directory => scan tree follow location rest
        | some (.link target) =>
            if rest.isEmpty && !follow then .ends (.found location (.link target))
            else .link directory target rest
        | some node =>
            if rest.isEmpty then .ends (.found location node) else .refused .notADirectory
        | none =>
            if rest.all (· = "") then .ends (.vacant directory piece) else .refused .notFound

/-- Follows pieces from a directory, through so many links. -/
def walk (tree : FileTree) (follow : Bool) :
    Nat → Location → List String → Except OsError Spot
  | 0, directory, pieces =>
      match tree.scan follow directory pieces with
      | .ends spot => .ok spot
      | .refused e => .error e
      | .link _ _ _ => .error .tooManyLinks
  | links + 1, directory, pieces =>
      match tree.scan follow directory pieces with
      | .ends spot => .ok spot
      | .refused e => .error e
      | .link start target rest =>
          walk tree follow links (if target.isAbsolute then [] else start) (target.body ++ rest)

def locate (tree : FileTree) (follow : Bool) (current : Location) (path : Path) :
    Except OsError Spot :=
  if path.kept.toList.any (· = '\x00') then .error .nulInPath
  else if path = Path.empty then .error .notFound
  else if longestPath < path.bytes.length then .error .nameTooLong
  else tree.walk follow mostLinks (if path.isAbsolute then [] else current) path.body

def node (tree : FileTree) (current : Location) (path : Path) :
    Except OsError (Location × Node) :=
  match tree.locate true current path with
  | .error e => .error e
  | .ok (.found location node) => .ok (location, node)
  | .ok (.vacant _ _) => .error .notFound

/-- The first bytes of a program, which nobody reads as text. -/
def programBytes : Bytes :=
  [0x7F, 0x45, 0x4C, 0x46]

def Node.content : Node → Except OsError Bytes
  | .file content _ => .ok content
  | .directory => .error .isADirectory
  | .link _ => .error .notFound
  | .program _ => .ok programBytes
  | .sink => .ok []

def read (tree : FileTree) (current : Location) (path : Path) : Except OsError Bytes :=
  match tree.node current path with
  | .error e => .error e
  | .ok (_, node) => Node.content node

def kindOf : Node → FileKind
  | .file _ _ | .program _ => .file
  | .directory => .directory
  | .link _ | .sink => .other

def kind (tree : FileTree) (current : Location) (path : Path) : Option FileKind :=
  match tree.node current path with
  | .error _ => none
  | .ok (_, node) => some (kindOf node)

def pathOf (location : Location) : Path :=
  .rebuild true location

/-- The location that a path leads to, as a path, unless that is too long to be used. -/
def canonical (tree : FileTree) (current : Location) (path : Path) : Except OsError Path :=
  match tree.node current path with
  | .error e => .error e
  | .ok (location, _) =>
      if longestPath < (pathOf location).bytes.length then .error .nameTooLong
      else .ok (pathOf location)

/-- Replaces the content of the file that a path leads to, or makes one. -/
def write (tree : FileTree) (current : Location) (path : Path) (content : Bytes) :
    Except OsError FileTree :=
  match tree.locate true current path with
  | .error e => .error e
  | .ok (.found location (.file _ executable)) =>
      .ok (tree.set location (.file content executable))
  | .ok (.found _ .sink) => .ok tree
  | .ok (.found _ .directory) => .error .isADirectory
  | .ok (.found _ (.program _)) => .error .accessDenied
  | .ok (.found _ (.link _)) => .error .notFound
  | .ok (.vacant directory name) => .ok (tree.set (directory ++ [name]) (.file content false))

/-- Makes a new empty file; nothing may stand there. -/
def create (tree : FileTree) (current : Location) (path : Path) :
    Except OsError (Option FileTree) :=
  match tree.locate false current path with
  | .error e => .error e
  | .ok (.found _ _) => .ok none
  | .ok (.vacant directory name) => .ok (some (tree.set (directory ++ [name]) (.file [] false)))

def remove (tree : FileTree) (current : Location) (path : Path) : FileTree :=
  match tree.locate false current path with
  | .ok (.found _ .directory) => tree
  | .ok (.found location _) => tree.clear location
  | _ => tree

end FileTree

end LintBridge
