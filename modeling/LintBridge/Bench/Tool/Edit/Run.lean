import LintBridge.Bench.Tool.Display
import LintBridge.Bench.Tool.Edit.Reader

/-!
# Running editing scripts

The lines of a text go through a script one after the other.  A line is changed in the
space of patterns, beside which stands a space where lines are held.
-/

set_option autoImplicit false

namespace LintBridge.Edit

open Pattern (Regex)
open Pattern.Regex (Field)

structure Line where
  text : List Char
  ended : Bool
  file : Raw

/-- What goes to one place, the last piece first, and whether the last line still lacks
its end. -/
structure Output where
  pieces : List Raw
  open? : Bool

def Output.fresh : Output :=
  ⟨[], false⟩

/-- Writes a line; one before it gets the end that it lacked. -/
def Output.line (o : Output) (mark : Char) (text : Raw) (ended : Bool) : Output :=
  let pieces := if o.open? then [mark] :: o.pieces else o.pieces
  ⟨(if ended then text ++ [mark] else text) :: pieces, !ended⟩

def Output.raw (o : Output) (mark : Char) (text : Raw) : Output :=
  if text.isEmpty then o
  else
    let pieces := if o.open? then [mark] :: o.pieces else o.pieces
    ⟨text :: pieces, false⟩

def Output.all (o : Output) : Raw :=
  o.pieces.reverse.flatten

inductive Later where
  | text (raw : Raw)
  | file (name : Raw)
  | lineOf (name : Raw)

inductive Stage where
  | waiting
  | active (last : Option Nat)
  | closed
  deriving Inhabited

inductive Pace where
  | go
  /-- The line is done; it is written unless that was forbidden. -/
  | lineDone (write : Bool)
  | again
  | quit (status : Option Nat) (write : Bool)
  | lost

structure State where
  input : List Line
  number : Nat
  space : List Char
  ended : Bool
  file : Raw
  hold : List Char
  holdEnded : Bool
  later : List Later
  substituted : Bool
  stages : Array Stage
  last : Option Matcher
  out : Output
  files : List (Raw × Output)
  linesRead : List (Raw × Nat)

structure Setting where
  commands : Array Command
  silent : Bool
  mark : Char
  content : Raw → Raw

namespace State

def isLast (s : State) : Bool :=
  s.input.isEmpty

def fieldOf (m : Matcher) (text : List Char) : Field :=
  ⟨text.toArray, m.folded, m.manyLines⟩

def use (s : State) (matcher : Option Matcher) : Option Matcher × State :=
  match matcher with
  | some m => (some m, { s with last := some m })
  | none => (s.last, s)

/-- The line fits a pattern; none without a pattern. -/
def fits (s : State) (matcher : Option Matcher) : Option Bool × State :=
  match s.use matcher with
  | (some m, s) => (some ((m.regex.find? (fieldOf m s.space) 0).isSome), s)
  | (none, s) => (none, s)

/-- The line is meant by an address; none without a pattern. -/
def meets (s : State) (a : Address) : Option Bool × State :=
  match a with
  | .line n => (some (s.number = n), s)
  | .last => (some s.isLast, s)
  | .every first step =>
      (some (if s.number < first then false else (s.number - first) % step = 0), s)
  | .matching m => s.fits m

/-- The line that a range ends with, as far as that is known where it begins. -/
def rangeLast (number : Nat) : RangeEnd → Option Nat
  | .line n => some n
  | .later n => some (number + n)
  | .multiple n => some (if n = 0 then number else (number / n + 1) * n)
  | _ => none

def setStage (s : State) (index : Nat) (stage : Stage) : State :=
  { s with stages := s.stages.setIfInBounds index stage }

def inRange (s : State) (index : Nat) (last : Option Nat) (ending : RangeEnd) :
    Option Bool × State :=
  match last with
  | some n => (some (s.number ≤ n), if n ≤ s.number then s.setStage index .closed else s)
  | none =>
      let (met, s) : Option Bool × State :=
        match ending with
        | .last => (some s.isLast, s)
        | .matching m => s.fits m
        | _ => (some true, s)
      match met with
      | some true => (some true, s.setStage index .closed)
      | some false => (some true, s)
      | none => (none, s)

/-- The line is one that a command is for; none without a pattern. -/
def selected (s : State) (index : Nat) (selection : Selection) : Option Bool × State :=
  match selection.first, selection.until? with
  | none, _ => (some true, s)
  | some first, none => s.meets first
  | some first, some ending =>
      match s.stages[index]?.getD .waiting with
      | .active last => s.inRange index last ending
      | stage =>
          let (met, s) : Option Bool × State :=
            match first, stage with
            | .line _, .closed => (some false, s)
            | .line n, _ => (some (n ≤ s.number), s)
            | first, _ => s.meets first
          match met with
          | some true =>
              match rangeLast s.number ending with
              | some n =>
                  if n ≤ s.number then
                    (some true, match first with | .line _ => s.setStage index .closed | _ => s)
                  else (some true, s.setStage index (.active (some n)))
              | none => (some true, s.setStage index (.active none))
          | other => (other, s)

def read? (s : State) : Option State :=
  match s.input with
  | [] => none
  | line :: rest =>
      some { s with
        input := rest, number := s.number + 1, space := line.text, ended := line.ended,
        file := line.file }

end State

namespace Setting

def writeSpace (w : Setting) (s : State) : State :=
  { s with out := s.out.line w.mark (Raw.ofLetters s.space) s.ended }

def flush (w : Setting) (s : State) : State :=
  let s := s.later.reverse.foldl
    (fun s item =>
      match item with
      | .text raw => { s with out := s.out.raw w.mark raw }
      | .file name => { s with out := s.out.raw w.mark (w.content name) }
      | .lineOf name =>
          let read := ((s.linesRead.find? (·.1 = name)).map (·.2)).getD 0
          match (Raw.splitEnded w.mark (w.content name))[read]? with
          | some line =>
              { s with
                out := s.out.line w.mark line true,
                linesRead := (name, read + 1) :: s.linesRead.filter (·.1 ≠ name) }
          | none => s)
    s
  { s with later := [] }

def writeFile (w : Setting) (s : State) (name : Raw) (text : List Char) : State :=
  if name = "/dev/stdout".toList then
    { s with out := s.out.line w.mark (Raw.ofLetters text) s.ended }
  else
    { s with
      files := s.files.map fun f =>
        if f.1 = name then (f.1, f.2.line w.mark (Raw.ofLetters text) s.ended) else f }

end Setting

/-- How the next letters are written: for good, and for one letter. -/
structure Case where
  lasting : Casing
  once : Casing

def Case.write (c : Case) : List Char → List Char × Case
  | [] => ([], c)
  | letter :: rest =>
      let own :=
        match c.once, c.lasting with
        | .upperOnce, _ => letter.toUpper
        | .lowerOnce, _ => letter.toLower
        | _, .upper => letter.toUpper
        | _, .lower => letter.toLower
        | _, _ => letter
      let (more, c) := Case.write { c with once := .asIs } rest
      (own :: more, c)

def Case.turn (c : Case) : Casing → Case
  | .upperOnce => { c with once := .upperOnce }
  | .lowerOnce => { c with once := .lowerOnce }
  | lasting => ⟨lasting, if lasting = .asIs then .asIs else c.once⟩

def replacement (f : Field) (first : Nat) (spot : Regex.Spot) : Case → List Part → List Char
  | _, [] => []
  | c, part :: rest =>
      match part with
      | .casing casing => replacement f first spot (c.turn casing) rest
      | .text letters =>
          let (own, c) := c.write letters
          own ++ replacement f first spot c rest
      | .group 0 =>
          let (own, c) := c.write (f.part first spot.place)
          own ++ replacement f first spot c rest
      | .group n =>
          let found := match spot.group? n with
            | some (a, b) => f.part a b
            | none => []
          let (own, c) := c.write found
          own ++ replacement f first spot c rest

/-- The text from a place on with its matches replaced, of which so many are passed over.
An empty match counts only where no match ends.  The text is none where nothing was. -/
def substituteFrom (f : Field) (m : Matcher) (x : Substitution) :
    Nat → Nat → Nat → Option Nat → Option (List Char)
  | 0, place, _, _ => some (f.part place f.text.size)
  | fuel + 1, place, count, before =>
      match m.regex.find? f place with
      | none => if x.nth ≤ count then some (f.part place f.text.size) else none
      | some (first, spot) =>
          let front := f.part place first
          if first = spot.place && before = some first then
            if first < f.text.size then
              (substituteFrom f m x fuel (first + 1) count none).map
                (front ++ f.part first (first + 1) ++ ·)
            else if x.nth ≤ count then some front else none
          else
            let count := count + 1
            let own :=
              if count < x.nth then f.part first spot.place
              else replacement f first spot ⟨.asIs, .asIs⟩ x.parts
            if x.nth ≤ count && !x.all then
              some (front ++ own ++ f.part spot.place f.text.size)
            else
              (substituteFrom f m x fuel spot.place count (some spot.place)).map (front ++ own ++ ·)

def listed (width : Nat) (text : List Char) : Raw :=
  go 0 ((Raw.ofLetters text).map shown)
where
  shown (c : Char) : Raw :=
    if c = '\\' then ['\\', '\\']
    else if ' ' ≤ c && c ≤ '~' then [c]
    else
      match Tool.controlLetter? c with
      | some letter => ['\\', letter]
      | none => Tool.octalEscape c
  go (column : Nat) : List Raw → Raw
    | [] => ['$', '\n']
    | piece :: rest =>
        if 1 < width && width - 1 < column + piece.length then
          '\\' :: '\n' :: piece ++ go piece.length rest
        else piece ++ go (column + piece.length) rest

def labelPlace? (commands : Array Command) (name : Raw) : Option Nat :=
  commands.findIdx? fun c =>
    match c.action with
    | .label other => other = name
    | _ => false

def jumpPlace (commands : Array Command) (name : Raw) : Nat :=
  if name.isEmpty then commands.size else (labelPlace? commands name).getD commands.size

/-- Carries out a command that is meant for the line: how the run goes on, and with which
command. -/
def act (w : Setting) (s : State) (index : Nat) (action : Action) : State × Pace × Nat :=
  let next := index + 1
  let go (s : State) : State × Pace × Nat := (s, .go, next)
  let firstLine := s.space.takeWhile (· ≠ '\n')
  match action with
  | .block _ | .nothing | .label _ => go s
  | .print => go (w.writeSpace s)
  | .printFirst => go { s with out := s.out.line w.mark (Raw.ofLetters firstLine) true }
  | .delete => (s, .lineDone false, next)
  | .deleteFirst =>
      if firstLine.length = s.space.length then (s, .lineDone false, next)
      else ({ s with space := s.space.drop (firstLine.length + 1) }, .again, next)
  | .next =>
      if s.isLast then (s, .quit none true, next)
      else
        let s := w.flush (if w.silent then s else w.writeSpace s)
        go (s.read?.getD s)
  | .nextAppended =>
      if s.isLast then (s, .quit none true, next)
      else
        let before := s.space
        let s := w.flush s
        let s := s.read?.getD s
        go { s with space := before ++ '\n' :: s.space }
  | .take => go { s with space := s.hold, ended := s.holdEnded }
  | .takeAppended => go { s with space := s.space ++ '\n' :: s.hold }
  | .keep => go { s with hold := s.space, holdEnded := s.ended }
  | .keepAppended => go { s with hold := s.hold ++ '\n' :: s.space }
  | .exchange =>
      go { s with space := s.hold, ended := s.holdEnded, hold := s.space, holdEnded := s.ended }
  | .number => go { s with out := s.out.raw w.mark (Raw.ofNat s.number ++ ['\n']) }
  | .list width => go { s with out := s.out.raw w.mark (listed width s.space) }
  | .quit status silently => (s, .quit (some status) (!silently), next)
  | .append text => go { s with later := .text text :: s.later }
  | .insert text => go { s with out := s.out.raw w.mark text }
  | .change text =>
      let inside := match s.stages[index]? with
        | some (.active _) => true
        | _ => false
      (if inside then s else { s with out := s.out.raw w.mark text }, .lineDone false, next)
  | .substitute x =>
      match s.use x.matcher with
      | (none, s) => (s, .lost, next)
      | (some m, s) =>
          let f := State.fieldOf m s.space
          match substituteFrom f m x (2 * s.space.length + 3) 0 0 none with
          | none => go s
          | some space =>
              let s := { s with space, substituted := true }
              let s := if x.prints then w.writeSpace s else s
              match x.file with
              | some name => go (w.writeFile s name s.space)
              | none => go s
  | .recode pairs =>
      go { s with
        space := s.space.map fun c => ((pairs.find? (·.1 = c)).map (·.2)).getD c }
  | .jump name => (s, .go, jumpPlace w.commands name)
  | .jumpIf substituted name =>
      if s.substituted = substituted then
        ({ s with substituted := false }, .go, jumpPlace w.commands name)
      else go { s with substituted := false }
  | .readFile name => go { s with later := .file name :: s.later }
  | .readLine name => go { s with later := .lineOf name :: s.later }
  | .write name => go (w.writeFile s name s.space)
  | .writeFirst name => go (w.writeFile s name firstLine)
  | .fileName =>
      let name : Raw := if s.file.isEmpty then ['-'] else s.file
      go { s with out := s.out.raw w.mark (name ++ ['\n']) }
  | .empty => go { s with space := [] }

/-- Carries out commands from one on, up to so many steps; none where they do not end. -/
def steps (w : Setting) : Nat → Nat → State → Option (State × Pace × Nat)
  | 0, _, _ => none
  | fuel + 1, index, s =>
      match w.commands[index]? with
      | none => some (s, .lineDone true, fuel)
      | some c =>
          let (met, s) := s.selected index c.selection
          match met with
          | none => some (s, .lost, fuel)
          | some met =>
              if met != c.selection.others then
                match act w s index c.action with
                | (s, .go, next) => steps w fuel next s
                | (s, pace, _) => some (s, pace, fuel)
              else
                match c.action with
                | .block next => steps w fuel next s
                | _ => steps w fuel (index + 1) s

/-- What a run comes to: a state, the status of an end that was asked for, and what went
wrong. -/
structure Result where
  state : State
  quit : Option Nat
  lost : Bool
  endless : Bool

def cycles (w : Setting) : Nat → Bool → State → Result
  | 0, _, s => ⟨s, none, false, true⟩
  | fuel + 1, fresh, s =>
      match if fresh then s.read? else some s with
      | none => ⟨s, none, false, false⟩
      | some s =>
          let s := if fresh then { s with substituted := false } else s
          match steps w fuel 0 s with
          | none => ⟨s, none, false, true⟩
          | some (s, pace, left) =>
              let ending (write : Bool) : State :=
                w.flush (if write && !w.silent then w.writeSpace s else s)
              match pace with
              | .lost => ⟨s, none, true, false⟩
              | .quit status write => ⟨if write then ending true else s, status, false, false⟩
              | .lineDone write => cycles w (min fuel left) true (ending write)
              | .again => cycles w (min fuel left) false (ending false)
              | .go => cycles w (min fuel left) true (ending true)

def State.start (commands : Array Command) (files : List Raw) (lines : List Line) : State where
  input := lines
  number := 0
  space := []
  ended := true
  file := []
  hold := []
  holdEnded := true
  later := []
  substituted := false
  stages := commands.map fun c => if c.selection.fromZero then .active none else .waiting
  last := none
  out := .fresh
  files := files.map fun name => (name, .fresh)
  linesRead := []

def mostSteps : Nat :=
  1000000

def linesOf (mark : Char) (name content : Raw) : List Line :=
  let parts := Raw.splitEnded mark content
  let whole := content.getLast? = some mark
  (parts.zip (List.range parts.length)).map fun (part, i) =>
    ⟨Raw.letters part, whole || i + 1 < parts.length, name⟩

end LintBridge.Edit
