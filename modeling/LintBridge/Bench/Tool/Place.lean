import LintBridge.Bench.Tool.Display

/-!
# Names and places of files

The parts of names as they are written, what stands where a name leads, and the tools
that tell of both.
-/

set_option autoImplicit false

namespace LintBridge

namespace FileTree

def below (tree : FileTree) (location : Location) : List (Location × Node) :=
  tree.entries.filterMap fun e =>
    if location.isPrefixOf e.1 && e.1 ≠ location then some (e.1.drop location.length, e.2) else none

def move (tree : FileTree) (source target : Location) : FileTree :=
  match tree.get? source with
  | none => tree
  | some node =>
      let inner := tree.below source
      let tree := ((tree.erase source).erase target).set target node
      inner.foldl (fun tree e => tree.set (target ++ e.1) e.2) tree

def sortedNames (tree : FileTree) (location : Location) : List Raw :=
  ((tree.names location).map Raw.ofName).mergeSort Raw.le

end FileTree

namespace Tool

/-- The name without the slashes at its end; of slashes alone one stays. -/
def unslashed (name : Raw) : Raw :=
  match Raw.trimRight (· = '/') name with
  | [] => name.take 1
  | trimmed => trimmed

def lastPart (name : Raw) : Raw :=
  let trimmed := unslashed name
  if trimmed = ['/'] then trimmed
  else (trimmed.reverse.takeWhile (· ≠ '/')).reverse

def within (directory name : Raw) : Raw :=
  if directory.getLast? = some '/' then directory ++ name else directory ++ '/' :: name

def directoryPart (name : Raw) : Raw :=
  let trimmed := unslashed name
  if trimmed.isEmpty then ['.']
  else if !trimmed.contains '/' then ['.']
  else
    match Raw.trimRight (· = '/') (Raw.trimRight (· ≠ '/') trimmed) with
    | [] => ['/']
    | directory => directory

end Tool

namespace Errand

/-- Where a name leads; a link at its end is followed where `follow` is set. -/
def spot (t : Errand) (follow : Bool) (name : Raw) : Except OsError FileTree.Spot :=
  t.tree.locate follow t.current name.toPath

def node? (t : Errand) (name : Raw) : Except OsError (Location × Node) :=
  t.tree.node t.current name.toPath

def isDirectory (t : Errand) (name : Raw) : Bool :=
  t.tree.kind t.current name.toPath = some .directory

def isThere (t : Errand) (name : Raw) : Bool :=
  (t.node? name).isOk

end Errand

namespace Tool

def lacks (t : Errand) (what : String) (status : Nat) : Product :=
  t.misuse what.toList status

def extraOperand (t : Errand) (name : Raw) : Product :=
  t.misuse ("extra operand ".toList ++ quote name) 1

def basename (t : Errand) (c : Choices) : Product :=
  let shown (ending name : Raw) : Raw :=
    let last := lastPart name
    let kept := if ending.isSuffixOf last && ending ≠ last then last.take (last.length - ending.length) else last
    kept ++ (if c.has 'z' then ['\x00'] else ['\n'])
  match c.operands with
  | [] => lacks t "missing operand" 1
  | names =>
      if c.has 'a' || c.has 's' then t.said (names.flatMap (shown ((c.value? 's').getD [])))
      else
        match names with
        | [name] => t.said (shown [] name)
        | [name, ending] => t.said (shown ending name)
        | _ => extraOperand t (names[2]?.getD [])

def dirname (t : Errand) (c : Choices) : Product :=
  if c.operands.isEmpty then lacks t "missing operand" 1
  else
    t.said (c.operands.flatMap fun name =>
      directoryPart name ++ (if c.has 'z' then ['\x00'] else ['\n']))

def supposed (t : Errand) (name : Raw) : Raw :=
  let start : Location := if name.head? = some '/' then [] else t.current
  let pieces := (name.toPath.pieces).filter (!Path.isIdle ·)
  let rec go (location : Location) : List String → Location
    | [] => location
    | ".." :: rest => go location.dropLast rest
    | piece :: rest => go (location ++ [piece]) rest
  Raw.ofPath (FileTree.pathOf (go start pieces))

/-- The path without links of what a name leads to; the last part need not be there where
`loose` is set. -/
def resolved (t : Errand) (loose : Bool) (name : Raw) : Except OsError Raw :=
  match t.spot true name with
  | .error e => .error e
  | .ok (.found location _) => .ok (Raw.ofPath (FileTree.pathOf location))
  | .ok (.vacant directory last) =>
      if loose then .ok (Raw.ofPath (FileTree.pathOf (directory ++ [last]))) else .error .notFound

def readlink (t : Errand) (c : Choices) : Product :=
  let p : Product :=
    t.forEach c.operands fun t name =>
      let found : Except OsError Raw :=
        match c.last? ['f', 'e', 'm'] with
        | some 'm' => .ok (supposed t name)
        | some letter => resolved t (letter = 'f') name
        | none =>
            match t.spot false name with
            | .ok (.found _ (.link target)) => .ok (Raw.ofPath target)
            | .ok (.vacant _ _) => .error .notFound
            | .ok _ => .error .tooManyArguments
            | .error e => .error e
      match found with
      | .ok raw => t.said (raw ++ (if c.has 'n' && c.operands.length = 1 then [] else ['\n']))
      | .error e =>
          if !c.has 'v' then t.quiet 1
          else
            t.complaint (quoteOdd name ++ ':' :: ' '
              :: (if e = .tooManyArguments then "Invalid argument".toList else e.reason)) 1
  if c.operands.isEmpty then lacks t "missing operand" 1 else p

def relative : Location → Location → Raw
  | a :: rest, b :: others =>
      if a = b then relative rest others else walk (a :: rest) (b :: others)
  | source, target => walk source target
where
  walk (source target : Location) : Raw :=
    match source.map (fun _ => ['.', '.']) ++ target.map Raw.ofName with
    | [] => ['.']
    | parts => Raw.join '/' parts

def realpath (t : Errand) (c : Choices) : Product :=
  let base : Option Location :=
    match c.value? 'T' with
    | none => none
    | some name => some ((supposed t name).toPath.body.filter (!Path.isIdle ·))
  if c.operands.isEmpty then lacks t "missing operand" 1
  else
    t.forEach c.operands fun t name =>
      let found : Except OsError Raw :=
        if c.has 's' || c.has 'm' then .ok (supposed t name)
        else resolved t (!c.has 'e') name
      match found with
      | .ok raw =>
          let shown :=
            match base with
            | some base => relative base (raw.toPath.body.filter (!Path.isIdle ·))
            | none => raw
          t.said (shown ++ ['\n'])
      | .error e => if c.has 'q' then t.quiet 1 else unread t name e

def pwd (t : Errand) (_ : Choices) : Product :=
  t.saidLines [Raw.ofPath (FileTree.pathOf t.current)]

end Tool

end LintBridge
