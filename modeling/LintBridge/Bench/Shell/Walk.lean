import LintBridge.Bench.Shell.Condition
import LintBridge.Bench.Shell.Session
import LintBridge.Bench.Tool.Copying
import LintBridge.Bench.Tool.Format
import LintBridge.Bench.Tool.Listing

/-!
# Searches in directories

A program that goes through directories and asks a condition of everything it comes to.
Names in a directory come in order.  Commands that it starts may change what is still to
come.
-/

set_option autoImplicit false

namespace LintBridge.Shell

namespace Walk

structure Item where
  name : Raw
  root : Raw
  depth : Nat
  location : Location
  node : Node

structure Course where
  shell : State
  /-- The names that commands are started with at the end, the last one first. -/
  gathered : List (Nat × List Raw × List Raw)
  pruned : Bool
  ended : Bool
  failed : Bool

namespace Course

def say (p : Course) (raw : Raw) : Course :=
  { p with shell := p.shell.send 1 raw }

def complain (p : Course) (name : Raw) (text : Raw) : Course :=
  { p with shell := p.shell.send 2 (name ++ ':' :: ' ' :: text ++ ['\n']), failed := true }

def stops (p : Course) : Bool :=
  p.ended || p.shell.flow ≠ .go

end Course

def fits (pattern : Raw) (folded : Bool) (text : Raw) : Bool :=
  let case (raw : Raw) : Raw := if folded then raw.map Char.toLower else raw
  Pattern.nameMatches ((case pattern).map fun c => (c, false)) (case text)

def kindLetter : Node → Char
  | .directory => 'd'
  | .link _ => 'l'
  | .sink => 'c'
  | _ => 'f'

def followed (s : State) (i : Item) : Node :=
  match s.tree.node [] (FileTree.pathOf i.location) with
  | .ok (_, node) => node
  | .error _ => i.node

def headOf (name : Raw) : Raw :=
  if name.contains '/' then
    match (name.reverse.dropWhile (· ≠ '/')).drop 1 with
    | [] => []
    | back => back.reverse
  else ['.']

def below (i : Item) : Raw :=
  (i.name.drop i.root.length).dropWhile (· = '/')

def bytesOf (node : Node) : Nat :=
  Tool.Listing.sizeOf node

def fieldOf? (s : State) (i : Item) (letter : Char) : Option Raw :=
  match letter with
  | 'p' => some i.name
  | 'f' => some (Tool.lastPart i.name)
  | 'h' => some (headOf i.name)
  | 'H' => some i.root
  | 'P' => some (below i)
  | 'd' => some (Raw.ofNat i.depth)
  | 's' => some (Raw.ofNat (bytesOf i.node))
  | 'b' => some (Raw.ofNat ((bytesOf i.node + 4095) / 4096 * 8))
  | 'k' => some (Raw.ofNat ((bytesOf i.node + 4095) / 4096 * 4))
  | 'y' => some [kindLetter i.node]
  | 'Y' =>
      match i.node, followed s i with
      | .link _, .link _ => some ['N']
      | _, node => some [kindLetter node]
  | 'l' =>
      match i.node with
      | .link target => some (Raw.ofPath target)
      | _ => some []
  | 'm' => some ((Tool.Rights.shown i.node).1.drop 1)
  | 'M' => some (Tool.Listing.kindLetter i.node :: (Tool.Rights.shown i.node).2)
  | 'u' | 'g' => some "root".toList
  | 'U' | 'G' => some ['0']
  | 'n' => some (if i.node = .directory then ['2'] else ['1'])
  | _ => none

def formText (s : State) (i : Item) : Nat → Raw → Raw × List Raw
  | 0, raw => (raw, [])
  | _ + 1, [] => ([], [])
  | fuel + 1, '%' :: '%' :: rest =>
      let (more, notes) := formText s i fuel rest
      ('%' :: more, notes)
  | fuel + 1, '%' :: rest =>
      let left := rest.head? = some '-'
      let behind := if left then rest.drop 1 else rest
      let digits := behind.takeWhile Char.isDigit
      match behind.drop digits.length with
      | [] => ("%".toList, [])
      | letter :: after =>
          let (more, notes) := formText s i fuel after
          match fieldOf? s i letter with
          | some text =>
              let width := Raw.digitsValue digits
              ((if left then Raw.padRight width text else Raw.padLeft width text) ++ more, notes)
          | none =>
              ('%' :: letter :: more,
                ("warning: unrecognized format directive ".toList ++ marked ['%', letter]) :: notes)
  | _ + 1, '\\' :: 'c' :: _ => ([], [])
  | fuel + 1, '\\' :: c :: rest =>
      match Tool.escaped? (c :: rest) with
      | some (d, after) =>
          let (more, notes) := formText s i fuel after
          (d :: more, notes)
      | none =>
          let (more, notes) := formText s i fuel rest
          ('\\' :: c :: more,
            ("warning: unrecognized escape ".toList ++ marked ['\\', c]) :: notes)
  | fuel + 1, c :: rest =>
      let (more, notes) := formText s i fuel rest
      (c :: more, notes)

def withName (name : Raw) : Raw → Raw
  | '\x7b' :: '\x7d' :: rest => name ++ withName name rest
  | c :: rest => c :: withName name rest
  | [] => []

def launch (inner : Layer) (called : Raw) (words : List Raw) (p : Course) : Course :=
  let front (name : Raw) : Raw := called ++ ':' :: ' ' :: Tool.quote name
  { p with shell := inner.start front words p.shell }

def launchInside (inner : Layer) (called : Raw) (words : List Raw) (i : Item) (p : Course) : Course :=
  let place := i.location.dropLast
  let s := p.shell
  let inside := { s with current := place, directory := Raw.ofPath (FileTree.pathOf place) }
  let after := launch inner called words { p with shell := inside }
  { after with
    shell := { after.shell with current := s.current, directory := s.directory } }

def delete (called : Raw) (i : Item) (p : Course) : Bool × Course :=
  let s := p.shell
  if i.name = ['.'] then (true, p)
  else if i.node = .directory && !(s.tree.names i.location).isEmpty then
    (false, p.complain called ("cannot delete ".toList ++ Tool.quote i.name
      ++ ": Directory not empty".toList))
  else (true, { p with shell := { s with tree := s.tree.erase i.location } })

def holds (inner : Layer) (called : Raw) (i : Item) (p : Course) : Criterion → Bool × Course
  | .constant truth => (truth, p)
  | .name pattern folded => (fits pattern folded (Tool.lastPart i.name), p)
  | .path pattern folded => (fits pattern folded i.name, p)
  | .aim pattern folded =>
      match i.node with
      | .link target => (fits pattern folded (Raw.ofPath target), p)
      | _ => (false, p)
  | .regex pattern folded =>
      let field : Pattern.Regex.Field := ⟨(Raw.letters i.name).toArray, folded, false⟩
      ((pattern.ends field ⟨0, []⟩).any fun spot => spot.place = field.text.size, p)
  | .kind letters follow =>
      (letters.contains (kindLetter (if follow then followed p.shell i else i.node)), p)
  | .empty =>
      (match i.node with
        | .file content _ => content.isEmpty
        | .directory => (p.shell.tree.names i.location).isEmpty
        | _ => false, p)
  | .size range unit => (range.admits ((bytesOf i.node + unit - 1) / unit), p)
  | .links range => (range.admits (if i.node = .directory then 2 else 1), p)
  | .rights mode all any =>
      let own := (Tool.Rights.shown i.node).1.foldl (fun n c => n * 8 + (c.toNat - 48)) 0
      let common := Nat.land own mode
      (if all then common = mode else if any then mode = 0 || common ≠ 0 else own = mode, p)
  | .runnable =>
      (match followed p.shell i with
        | .file _ executable => executable
        | .directory | .program _ => true
        | _ => false, p)
  | .same location => (i.location = location, p)
  | .print mark => (true, p.say (i.name ++ [mark]))
  | .format source =>
      let (text, notes) := formText p.shell i (source.length + 1) source
      let p := notes.foldl
        (fun (p : Course) note =>
          { p with shell := p.shell.send 2 (called ++ ':' :: ' ' :: note ++ ['\n']) }) p
      (true, p.say text)
  | .run words false =>
      let after := launch inner called (words.map (withName i.name)) p
      (after.shell.status = 0, after)
  | .run words true =>
      let after := launchInside inner called
        (words.map (withName ('.' :: '/' :: Tool.lastPart i.name))) i p
      (after.shell.status = 0, after)
  | .gather id words =>
      let before := ((p.gathered.find? (·.1 = id)).map (·.2.2)).getD []
      (true,
        { p with
          gathered := p.gathered.filter (·.1 ≠ id) ++ [(id, words, i.name :: before)] })
  | .delete => delete called i p
  | .prune => (true, { p with pruned := true })
  | .quit => (true, { p with ended := true })

def asks (inner : Layer) (called : Raw) (i : Item) : Condition → Course → Bool × Course
  | .one criterion, p => if p.stops then (false, p) else holds inner called i p criterion
  | .not condition, p =>
      let (truth, p) := asks inner called i condition p
      (!truth, p)
  | .both first second, p =>
      let (truth, p) := asks inner called i first p
      if truth then asks inner called i second p else (false, p)
  | .either first second, p =>
      let (truth, p) := asks inner called i first p
      if truth then (true, p) else asks inner called i second p
  | .behind first second, p => asks inner called i second (asks inner called i first p).2

def visit (inner : Layer) (called : Raw) (condition : Condition) (m : Manner) :
    Nat → (name root : Raw) → Nat → Location → Course → Course
  | 0, _, _, _, _, p => p
  | fuel + 1, name, root, depth, location, p =>
      if p.stops then p
      else
        let own := p.shell.tree.get? location
        let follows := m.followsAll || (m.followsRoots && depth = 0)
        let target :=
          if follows then
            match p.shell.tree.node [] (FileTree.pathOf location) with
            | .ok found => some found
            | .error _ => own.map fun node => (location, node)
          else own.map fun node => (location, node)
        match target with
        | none => p.complain called (Tool.quote name ++ ": No such file or directory".toList)
        | some (place, node) =>
            let item : Item := ⟨name, root, depth, if node = .directory then place else location, node⟩
            let ask (p : Course) : Course :=
              if depth < m.least then p
              else (asks inner called item condition { p with pruned := false }).2
            let p := { p with pruned := false }
            let p := if m.insideFirst then p else ask p
            let enters :=
              node = .directory && (!p.pruned || m.insideFirst) && m.most.all fun most => depth < most
            let p := { p with pruned := false }
            let p :=
              if p.stops || !enters then p
              else if p.shell.tree.get? place ≠ some .directory then
                p.complain called (Tool.quote name ++ ": No such file or directory".toList)
              else
                (p.shell.tree.names place |>.mergeSort fun a b => Raw.le (Raw.ofName a) (Raw.ofName b)).foldl
                  (fun p child =>
                    visit inner called condition m fuel (Tool.within name (Raw.ofName child)) root
                      (depth + 1) (place ++ [child]) p)
                  p
            if m.insideFirst && !p.stops then ask p else p

def begin (inner : Layer) (called : Raw) (condition : Condition) (m : Manner) (p : Course)
    (name : Raw) : Course :=
  match p.shell.tree.locate false p.shell.current (Raw.toPath name) with
  | .ok (.found location _) =>
      visit inner called condition m (p.shell.tree.entries.length + 64) name name 0 location p
  | .ok (.vacant _ _) => p.complain called (Tool.quote name ++ ": No such file or directory".toList)
  | .error e => p.complain called (Tool.quote name ++ ':' :: ' ' :: e.reason)

def startGathered (inner : Layer) (called : Raw) (p : Course) : Course :=
  p.gathered.foldl
    (fun p (_, words, names) =>
      if p.shell.flow ≠ .go then p
      else
        let after := launch inner called (words ++ names.reverse) p
        { after with failed := after.failed || after.shell.status ≠ 0 })
    p

def optionsOf : List Raw → Manner → Manner × List Raw
  | word :: rest, m =>
      match String.ofList word with
      | "-P" => optionsOf rest { m with followsRoots := false, followsAll := false }
      | "-H" => optionsOf rest { m with followsRoots := true }
      | "-L" => optionsOf rest { m with followsRoots := true, followsAll := true }
      | "--" => (m, rest)
      | _ => (m, word :: rest)
  | [], m => (m, [])

def opens (word : Raw) : Bool :=
  match word with
  | '-' :: _ :: _ => true
  | ['('] | ['!'] => true
  | _ => false

end Walk

open Walk in
def Layer.find (inner : Layer) (name : Raw) (args : List Raw) (s : State) : State :=
  let (m, rest) := optionsOf args ⟨false, false, 0, none, false, false⟩
  let roots := rest.takeWhile fun word => !opens word
  match conditionOf (s.errand name args) m (rest.drop roots.length) with
  | .error text => s.note (name ++ ':' :: ' ' :: text) 1
  | .ok (condition, m) =>
      let roots := if roots.isEmpty then [['.']] else roots
      let p := roots.foldl (begin inner name condition m) ⟨s, [], false, false, false⟩
      let p := startGathered inner name p
      if p.shell.flow ≠ .go then p.shell else p.shell.done (if p.failed then 1 else 0)

end LintBridge.Shell
