import LintBridge.Bench.Tool.Place

/-!
# Copies, moves, links and removals

Files and directories put at other places, and taken away.  A target that is a directory
takes them in under their own names.
-/

set_option autoImplicit false

namespace LintBridge.Tool

namespace Copying

structure Manner where
  deep : Bool
  follows : Bool
  told : Bool
  keeps : Bool

def line (source target : Raw) : Raw :=
  quoteAlways source ++ " -> ".toList ++ quoteAlways target ++ ['\n']

def refusal (t : Errand) (what : String) (name : Raw) (e : OsError) : Product :=
  t.complaint (what.toList ++ quoteAlways name ++ ':' :: ' ' :: e.reason) 1

def copyFile (t : Errand) (m : Manner) (source target : Raw) (location : Location) (node : Node) :
    Product :=
  let done (tree : FileTree) : Product :=
    { (if m.told then t.said (line source target) else t.quiet 0) with tree }
  let content : Bytes :=
    match node with
    | .file content _ => content
    | _ => []
  match t.spot true target with
  | .ok (.found _ .directory) =>
      t.complaint ("cannot overwrite directory ".toList ++ quoteAlways target
        ++ " with non-directory".toList) 1
  | .ok (.found place before) =>
      if m.keeps then t.quiet 0
      else if place = location then
        t.complaint (quoteAlways source ++ " and ".toList ++ quoteAlways target
          ++ " are the same file".toList) 1
      else
        match before with
        | .file _ executable => done (t.tree.set place (.file content executable))
        | _ => done t.tree
  | .ok (.vacant directory name) =>
      if target.getLast? = some '/' then
        refusal t "cannot create regular file " target .notADirectory
      else
        match node with
        | .sink => done (t.tree.set (directory ++ [name]) (.file [] false))
        | node => done (t.tree.set (directory ++ [name]) node)
  | .error .notADirectory => refusal t "cannot stat " target .notADirectory
  | .error e => refusal t "cannot create regular file " target e

def copy (m : Manner) : Nat → Errand → Raw → Raw → Product
  | 0, t, _, _ => t.quiet 0
  | depth + 1, t, source, target =>
      match t.spot m.follows source with
      | .error e => refusal t "cannot stat " source e
      | .ok (.vacant _ _) => refusal t "cannot stat " source .notFound
      | .ok (.found location .directory) =>
          if !m.deep then
            t.complaint ("-r not specified; omitting directory ".toList ++ quoteAlways source) 1
          else
            let inner (tree : FileTree) : Product :=
              let names := t.tree.sortedNames location
              ({ t with tree }).forEach names fun t name =>
                copy m depth t (within source name) (within target name)
            match t.spot true target with
            | .error e => refusal t "cannot create directory " target e
            | .ok (.found _ .directory) => inner t.tree
            | .ok (.found _ _) =>
                t.complaint ("cannot overwrite non-directory ".toList ++ quoteAlways target
                  ++ " with directory ".toList ++ quoteAlways source) 1
            | .ok (.vacant directory name) =>
                let place := directory ++ [name]
                if location.isPrefixOf place then
                  t.complaint ("cannot copy a directory, ".toList ++ quoteAlways source
                    ++ ", into itself, ".toList ++ quoteAlways target) 1
                else
                  let made := if m.told then t.said (line source target) else t.quiet 0
                  made.andAlso (inner (t.tree.set place .directory))
      | .ok (.found _ (.link aim)) =>
          match t.spot false target with
          | .ok (.vacant directory name) =>
              { t.quiet 0 with tree := t.tree.set (directory ++ [name]) (.link aim) }
          | .ok (.found place _) => { t.quiet 0 with tree := t.tree.set place (.link aim) }
          | .error e => refusal t "cannot create symbolic link " target e
      | .ok (.found location node) => copyFile t m source target location node

def move (told keeps : Bool) (t : Errand) (source target : Raw) : Product :=
  let done (tree : FileTree) : Product :=
    let front : Raw := "renamed ".toList
    { (if told then t.said (front ++ line source target) else t.quiet 0) with tree }
  match t.spot false source with
  | .error e => refusal t "cannot stat " source e
  | .ok (.vacant _ _) => refusal t "cannot stat " source .notFound
  | .ok (.found location node) =>
      match t.spot false target with
      | .error .notADirectory => refusal t "cannot stat " target .notADirectory
      | .error e =>
          t.complaint ("cannot move ".toList ++ quoteAlways source ++ " to ".toList
            ++ quoteAlways target ++ ':' :: ' ' :: e.reason) 1
      | .ok (.vacant directory name) =>
          let place := directory ++ [name]
          if node = .directory && location.isPrefixOf place then
            t.complaint ("cannot move ".toList ++ quoteAlways source
              ++ " to a subdirectory of itself, ".toList ++ quoteAlways target) 1
          else if node ≠ .directory && target.getLast? = some '/' then
            t.complaint ("cannot move ".toList ++ quoteAlways source ++ " to ".toList
              ++ quoteAlways target ++ ": Not a directory".toList) 1
          else done (t.tree.move location place)
      | .ok (.found place before) =>
          if place = location then
            t.complaint (quoteAlways source ++ " and ".toList ++ quoteAlways target
              ++ " are the same file".toList) 1
          else if keeps then t.quiet 0
          else if node = .directory && before ≠ .directory then
            t.complaint ("cannot overwrite non-directory ".toList ++ quoteAlways target
              ++ " with directory ".toList ++ quoteAlways source) 1
          else if node ≠ .directory && before = .directory then
            t.complaint ("cannot overwrite directory ".toList ++ quoteAlways target
              ++ " with non-directory".toList) 1
          else if location.isPrefixOf place then
            t.complaint ("cannot move ".toList ++ quoteAlways source
              ++ " to a subdirectory of itself, ".toList ++ quoteAlways target) 1
          else if before = .directory && !(t.tree.names place).isEmpty then
            t.complaint ("cannot overwrite ".toList ++ quoteAlways target
              ++ ": Directory not empty".toList) 1
          else done (t.tree.move location place)

def link (soft forced told : Bool) (t : Errand) (source target : Raw) : Product :=
  let what : String := if soft then "symbolic" else "hard"
  let failed (why : Raw) : Product :=
    t.complaint ("failed to create ".toList ++ what.toList ++ " link ".toList ++ quoteAlways target
      ++ ':' :: ' ' :: why) 1
  let make (location : Location) (node : Node) : Product :=
    let arrow : String := if soft then " -> " else " => "
    let shown := quoteAlways target ++ arrow.toList ++ quoteAlways source ++ ['\n']
    { (if told then t.said shown else t.quiet 0) with tree := t.tree.set location node }
  let place (node : Node) : Product :=
    match t.spot false target with
    | .ok (.vacant directory name) => make (directory ++ [name]) node
    | .ok (.found location .directory) => if location = [] then failed [] else failed "File exists".toList
    | .ok (.found location _) => if forced then make location node else failed "File exists".toList
    | .error e => failed e.reason
  if soft then place (.link source.toPath)
  else
    match t.node? source with
    | .error e => refusal t "failed to access " source e
    | .ok (_, .directory) => t.complaint (source ++ ": hard link not allowed for directory".toList) 1
    | .ok (_, node) => place node

end Copying

/-- Does something to each of some names and a target: the last name or the one that is
given as a directory.  A target that is a directory takes them in. -/
def toTarget (t : Errand) (c : Choices) (work : Errand → Raw → Raw → Product) : Product :=
  let inside (target : Raw) (names : List Raw) : Product :=
    t.forEach names fun t name => work t name (within target (lastPart name))
  match c.value? 't' with
  | some target =>
      if t.isDirectory target then
        if c.operands.isEmpty then lacks t "missing file operand" 1 else inside target c.operands
      else
        let e := match t.node? target with | .error e => e | .ok _ => .notADirectory
        t.complaint ("target directory ".toList ++ quoteAlways target ++ ':' :: ' ' :: e.reason) 1
  | none =>
      match c.operands with
      | [] => lacks t "missing file operand" 1
      | [name] => t.misuse ("missing destination file operand after ".toList ++ quoteAlways name) 1
      | [source, target] =>
          if !c.has 'T' && t.isDirectory target then inside target [source] else work t source target
      | names =>
          let target := names.getLast?.getD []
          if t.isDirectory target then inside target names.dropLast
          else
            let e := match t.node? target with | .error e => e | .ok _ => .notADirectory
            t.complaint ("target ".toList ++ quoteAlways target ++ ':' :: ' ' :: e.reason) 1

def cp (t : Errand) (c : Choices) : Product :=
  let deep := c.has 'r' || c.has 'R' || c.has 'a'
  let m : Copying.Manner := ⟨deep, !deep || c.has 'L', c.has 'v', c.has 'n'⟩
  toTarget t c fun t source target =>
    if c.has 's' || c.has 'l' then Copying.link (c.has 's') (c.has 'f') (c.has 'v') t source target
    else Copying.copy m (t.tree.entries.length + 1) t source target

def mv (t : Errand) (c : Choices) : Product :=
  toTarget t c fun t source target => Copying.move (c.has 'v') (c.has 'n') t (unslashed source) target

def ln (t : Errand) (c : Choices) : Product :=
  let work := Copying.link (c.has 's') (c.has 'f') (c.has 'v')
  match c.operands with
  | [name] =>
      match c.value? 't' with
      | none => work t name (lastPart name)
      | some _ => toTarget t c work
  | _ =>
      if c.has 'n' then
        match c.operands with
        | [source, target] => if (t.spot false target).toOption.any isLink then work t source target
            else toTarget t c work
        | _ => toTarget t c work
      else toTarget t c work
where
  isLink : FileTree.Spot → Bool
    | .found _ (.link _) => true
    | _ => false

def copyOptions : OptionTable :=
  (OptionTable.ofLetters "abdfiLlnprRsTuvxHPZ" "tS").withWords
    [("archive", 'a'), ("force", 'f'), ("interactive", 'i'), ("recursive", 'r'),
     ("no-clobber", 'n'), ("verbose", 'v'), ("target-directory", 't'),
     ("no-target-directory", 'T'), ("preserve", 'p'), ("update", 'u'), ("symbolic-link", 's'),
     ("link", 'l'), ("no-dereference", 'n')]

end LintBridge.Tool

/-! ## Removals -/

namespace LintBridge.Tool

namespace Removal

open Copying (refusal)

def told (t : Errand) (c : Choices) (location : Location) (what : String) (name : Raw) : Product :=
  let p := if c.has 'v' then t.said (what.toList ++ quoteAlways name ++ ['\n']) else t.quiet 0
  { p with tree := t.tree.erase location }

/-- Takes away what a name leads to, with all that is inside where options say so. -/
def remove (c : Choices) : Nat → Errand → Raw → Product
  | 0, t, _ => t.quiet 0
  | depth + 1, t, name =>
      let deep := c.has 'r' || c.has 'R'
      match t.spot false name with
      | .error .notFound | .ok (.vacant _ _) =>
          if c.has 'f' then t.quiet 0 else refusal t "cannot remove " name .notFound
      | .error e => if c.has 'f' then t.quiet 0 else refusal t "cannot remove " name e
      | .ok (.found location .directory) =>
          let last := lastPart name
          if deep && location = [] then
            { t.complaint "it is dangerous to operate recursively on '/'".toList 1 with
              written := [(.err, t.line "it is dangerous to operate recursively on '/'".toList
                ++ t.line "use --no-preserve-root to override this failsafe".toList)] }
          else if deep && (last = ['.'] || last = ['.', '.']) then
            t.complaint ("refusing to remove '.' or '..' directory: skipping ".toList
              ++ quoteAlways name) 1
          else if deep then
            let inner :=
              t.forEach (t.tree.sortedNames location) fun t inner =>
                remove c depth t (within name inner)
            inner.andAlso (told { t with tree := inner.tree } c location "removed directory " name)
          else if !c.has 'd' then refusal t "cannot remove " name .isADirectory
          else if (t.tree.names location).isEmpty then told t c location "removed directory " name
          else t.complaint ("cannot remove ".toList ++ quoteAlways name ++ ": Directory not empty".toList) 1
      | .ok (.found location _) => told t c location "removed " name

end Removal

def rm (t : Errand) (c : Choices) : Product :=
  if c.operands.isEmpty then (if c.has 'f' then t.quiet 0 else lacks t "missing operand" 1)
  else t.forEach c.operands (Removal.remove c (t.tree.entries.length + 1))

def removeDirectory (c : Choices) (t : Errand) (name : Raw) : Product :=
  let failed (why : Raw) : Product :=
    t.complaint ("failed to remove ".toList ++ quoteAlways name ++ ':' :: ' ' :: why) 1
  match t.spot false name with
  | .ok (.found location .directory) =>
      if (t.tree.names location).isEmpty then
        let p :=
          if c.has 'v' then
            t.said (t.line ("removing directory, ".toList ++ quoteAlways name))
          else t.quiet 0
        { p with tree := t.tree.erase location }
      else failed "Directory not empty".toList
  | .ok (.found _ _) => failed OsError.notADirectory.reason
  | .ok (.vacant _ _) => failed OsError.notFound.reason
  | .error e => failed e.reason

def upwards : Nat → Raw → List Raw
  | 0, _ => []
  | n + 1, name => if name.contains '/' then name :: upwards n (directoryPart name) else [name]

def rmdir (t : Errand) (c : Choices) : Product :=
  if c.operands.isEmpty then lacks t "missing operand" 1
  else
    t.forEach c.operands fun t name =>
      if c.has 'p' then t.forEach (upwards name.length (unslashed name)) (removeDirectory c)
      else removeDirectory c t name

def unlink (t : Errand) (c : Choices) : Product :=
  match c.operands with
  | [] => lacks t "missing operand" 1
  | [name] =>
      match t.spot false name with
      | .ok (.found _ .directory) => Copying.refusal t "cannot unlink " name .isADirectory
      | .ok (.found location _) => { t.quiet 0 with tree := t.tree.erase location }
      | .ok (.vacant _ _) => Copying.refusal t "cannot unlink " name .notFound
      | .error e => Copying.refusal t "cannot unlink " name e
  | names => extraOperand t (names[1]?.getD [])

end LintBridge.Tool
