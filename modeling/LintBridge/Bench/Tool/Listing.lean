import LintBridge.Bench.Tool.Making

/-!
# Listings

What stands in directories: names in order, one to a line, and more about each where it
is asked for.
-/

set_option autoImplicit false

namespace LintBridge.Tool

namespace Listing

structure Entry where
  name : Raw
  node : Node

def sizeOf : Node → Nat
  | .file content _ => content.length
  | .directory => 4096
  | .link target => target.bytes.length
  | .program _ => FileTree.programBytes.length
  | .sink => 0

def sign (c : Choices) : Node → Raw
  | .directory => if c.has 'F' || c.has 'p' then ['/'] else []
  | .file _ true | .program _ => if c.has 'F' then ['*'] else []
  | .link _ => if c.has 'F' then ['@'] else []
  | _ => []

def kindLetter : Node → Char
  | .directory => 'd'
  | .link _ => 'l'
  | .sink => 'c'
  | _ => '-'

def shownName (c : Choices) (e : Entry) : Raw :=
  let name := if c.has 'Q' then '"' :: e.name ++ ['"'] else e.name
  name ++ sign c e.node

def longLine (c : Choices) (width : Nat) (e : Entry) : Raw :=
  let aim : Raw :=
    match e.node with
    | .link target => " -> ".toList ++ Raw.ofPath target
    | _ => []
  let links : Raw := if e.node = .directory then ['2'] else ['1']
  kindLetter e.node :: (Rights.shown e.node).2 ++ ' ' :: links ++ " root root ".toList
    ++ Raw.padLeft width (Raw.ofNat (sizeOf e.node)) ++ " Jan  1 00:00 ".toList
    ++ shownName c e ++ aim

def arranged (c : Choices) (entries : List Entry) : List Entry :=
  let byName := entries.mergeSort fun a b => Raw.le a.name b.name
  let listed :=
    if c.has 'U' || c.has 'f' then byName
    else if c.has 'S' then byName.mergeSort fun a b => sizeOf b.node ≤ sizeOf a.node
    else if c.has 'X' then byName.mergeSort fun a b => Raw.le (ending a.name) (ending b.name)
    else byName
  let listed := if c.has 'r' then listed.reverse else listed
  if c.has 'D' then
    listed.filter (fun e => e.node = .directory) ++ listed.filter (fun e => e.node ≠ .directory)
  else listed
where
  ending (name : Raw) : Raw :=
    if name.contains '.' then '.' :: (name.reverse.takeWhile (· ≠ '.')).reverse else []

def lines (c : Choices) (entries : List Entry) : List Raw :=
  let listed := arranged c entries
  if c.has 'l' || c.has 'n' || c.has 'g' || c.has 'o' then
    let width := (listed.map fun e => (Raw.ofNat (sizeOf e.node)).length).foldl max 0
    listed.map (longLine c width)
  else if c.has 'm' then
    if listed.isEmpty then [] else [(listed.map (shownName c)).intersperse [',', ' '] |>.flatten]
  else listed.map (shownName c)

def entriesOf (t : Errand) (c : Choices) (location : Location) : List Entry :=
  let own := (t.tree.names location).map fun name =>
    (⟨Raw.ofName name, (t.tree.get? (location ++ [name])).getD .directory⟩ : Entry)
  let all := c.has 'a' || c.has 'f'
  if all then ⟨['.'], .directory⟩ :: ⟨['.', '.'], .directory⟩ :: own
  else if c.has 'A' then own
  else own.filter fun e => e.name.head? ≠ some '.'

/-- The contents of directories, under their names where `titled` is set, with those of
the directories inside where that is asked for. -/
def contents (t : Errand) (c : Choices) (titled : Bool) :
    Nat → Bool → List (Raw × Location) → Raw
  | 0, _, _ => []
  | _ + 1, _, [] => []
  | depth + 1, first, (name, location) :: rest =>
      let entries := entriesOf t c location
      let total : List Raw :=
        if c.has 'l' then
          let blocks := (entries.map fun e => (sizeOf e.node + 4095) / 4096 * 4).foldl (· + ·) 0
          ["total ".toList ++ Raw.ofNat blocks]
        else []
      let title : Raw := if titled then (if first then [] else ['\n']) ++ name ++ [':', '\n'] else []
      let inner :=
        if c.has 'R' then
          (arranged c entries).filterMap fun e =>
            if e.node = .directory && e.name ≠ ['.'] && e.name ≠ ['.', '.'] then
              some (within name e.name, location ++ (Raw.toPath e.name).pieces)
            else none
        else []
      title ++ Raw.ofLines (total ++ lines c entries)
        ++ contents t c titled depth false (inner ++ rest)

def options : OptionTable :=
  (OptionTable.ofLetters "aAbBcCdfFgGhHiklLmnNopqQrRsStuUvxXZ1D" "ITw").withWords
    [("all", 'a'), ("almost-all", 'A'), ("directory", 'd'), ("classify", 'F'), ("reverse", 'r'),
     ("recursive", 'R'), ("color", '1'), ("group-directories-first", 'D'), ("human-readable", 'h'),
     ("size", 's'), ("inode", 'i'), ("quote-name", 'Q'), ("literal", 'N')]

end Listing

open Listing in
def ls (t : Errand) (c : Choices) : Product :=
  let names := if c.operands.isEmpty then [['.']] else c.operands
  let refused :=
    t.forEach names fun t name =>
      match t.spot (!c.has 'l' && !c.has 'd') name, t.spot false name with
      | .ok (.found _ _), _ | _, .ok (.found _ _) => t.quiet 0
      | .ok (.vacant _ _), _ =>
          t.complaint ("cannot access ".toList ++ quoteAlways name ++ ':' :: ' '
            :: OsError.notFound.reason) 2
      | .error e, _ =>
          t.complaint ("cannot access ".toList ++ quoteAlways name ++ ':' :: ' ' :: e.reason) 2
  let found : List (Raw × Location × Node) :=
    names.filterMap fun name =>
      let follow := !(c.has 'l' || c.has 'd' || c.has 'F')
      match t.spot follow name, t.spot false name with
      | .ok (.found location node), _ => some (name, location, node)
      | _, .ok (.found location node) => some (name, location, node)
      | _, _ => none
  let isOpened (node : Node) : Bool := node = .directory && !c.has 'd'
  let files := (found.filter fun f => !isOpened f.2.2).map fun f => (⟨f.1, f.2.2⟩ : Entry)
  let directories := arranged c ((found.filter fun f => isOpened f.2.2).map fun f => ⟨f.1, f.2.2⟩)
  let places := directories.filterMap fun e =>
    (found.find? fun f => f.1 = e.name).map fun f => (f.1, f.2.1)
  let shownFiles := Raw.ofLines (lines c files)
  let titled := 1 < names.length || c.has 'R'
  let gap : Raw := if files.isEmpty || places.isEmpty then [] else ['\n']
  refused.say (shownFiles ++ gap
    ++ contents t c titled (t.tree.entries.length + places.length + 1) true places)

def statField (name : Raw) (node : Node) (letter : Char) : Raw :=
  match letter with
  | 'n' => name
  | 'N' =>
      quoteAlways name ++ (match node with
        | .link target => " -> ".toList ++ quoteAlways (Raw.ofPath target)
        | _ => [])
  | 's' => Raw.ofNat (Listing.sizeOf node)
  | 'a' => (Rights.shown node).1.drop 1
  | 'A' => Listing.kindLetter node :: (Rights.shown node).2
  | 'F' =>
      match node with
      | .file [] _ => "regular empty file".toList
      | .directory => "directory".toList
      | .link _ => "symbolic link".toList
      | .sink => "character special file".toList
      | _ => "regular file".toList
  | 'U' | 'G' => "root".toList
  | 'u' | 'g' => ['0']
  | 'h' => ['1']
  | '%' => ['%']
  | _ => ['?']

def statText (name : Raw) (node : Node) : Raw → Raw
  | '%' :: letter :: rest => statField name node letter ++ statText name node rest
  | c :: rest => c :: statText name node rest
  | [] => []

def stat (t : Errand) (c : Choices) : Product :=
  if c.operands.isEmpty then lacks t "missing operand" 1
  else
    t.forEach c.operands fun t name =>
      let missing (e : OsError) : Product :=
        t.complaint ("cannot statx ".toList ++ quoteAlways name ++ ':' :: ' ' :: e.reason) 1
      match t.spot (c.has 'L') name with
      | .ok (.found _ node) =>
          match c.value? 'c' with
          | some form => t.said (statText name node form ++ ['\n'])
          | none => t.said (statText name node "  File: %n\n  Size: %s\n".toList)
      | .ok (.vacant _ _) => missing .notFound
      | .error e => missing e

end LintBridge.Tool
