import LintBridge.Bench.Tool.Edit.Script

/-!
# The source of editing scripts

A script is read character by character, and a mistake is told with how far the reader has
come.  Here are the parts that commands consist of: numbers, labels, names of files, texts,
and what stands between slashes.
-/

set_option autoImplicit false

namespace LintBridge.Edit

structure Course where
  origin : Origin
  rest : Raw
  /-- The characters that are read already, and the line ends among them. -/
  taken : Nat
  lines : Nat
  extended : Bool
  /-- The commands, the last one first. -/
  commands : List Command
  count : Nat
  /-- The open blocks: the place of the brace among the commands, and where it stands. -/
  blocks : List (Nat × Origin)
  textPending : Bool
  silent : Bool
  files : List Raw

abbrev Reading (α : Type) := StateT Course (Except Flaw) α

def Course.place (c : Course) : Nat :=
  match c.origin with
  | .expression _ => c.taken
  | .file _ => c.lines + 1

def refuse {α : Type} (text : Raw) : Reading α := do
  let c ← get
  throw ⟨c.origin, c.place, text⟩

def take? : Reading (Option Char) := do
  let c ← get
  match c.rest with
  | [] => return none
  | d :: rest =>
      set { c with
        rest, taken := c.taken + 1, lines := if d = '\n' then c.lines + 1 else c.lines }
      return some d

def peek? : Reading (Option Char) :=
  return (← get).rest.head?

def skip (test : Char → Bool) : Reading Raw := do
  let c ← get
  let passed := c.rest.takeWhile test
  set { c with
    rest := c.rest.drop passed.length, taken := c.taken + passed.length,
    lines := c.lines + passed.count '\n' }
  return passed

def skipBlanks : Reading Unit := do
  let _ ← skip fun c => Raw.isSpace c && c ≠ '\n'

/-- A number; none is zero. -/
def number : Reading Nat :=
  return Raw.digitsValue (← skip Char.isDigit)

def endCommand : Reading Unit := do
  skipBlanks
  match ← peek? with
  | none | some '\x7d' | some '#' => return ()
  | some c =>
      let _ ← take?
      if c = '\n' || c = ';' then return ()
      else refuse "extra characters after command".toList

def label : Reading Raw := do
  skipBlanks
  let name ← skip fun c => !Raw.isSpace c && c ≠ ';' && c ≠ '\x7d'
  return name

def fileName : Reading Raw := do
  skipBlanks
  let name ← skip (· ≠ '\n')
  let _ ← take?
  if name.isEmpty then refuse "missing filename in r/R/w/W commands".toList else return name

def setEnd : Nat → Raw → Reading Raw
  | 0, kept => return kept
  | fuel + 1, kept => do
      match ← take? with
      | none => return kept
      | some ']' => return ']' :: kept
      | some '[' =>
          match ← peek? with
          | some c =>
              if c = ':' || c = '.' || c = '=' then
                let _ ← take?
                let inner ← skip fun d => d ≠ ']' && d ≠ '\n'
                let close ← take?
                setEnd fuel (close.toList ++ inner.reverse ++ c :: '[' :: kept)
              else setEnd fuel ('[' :: kept)
          | none => return '[' :: kept
      | some '\\' =>
          match ← peek? with
          | some 'n' =>
              let _ ← take?
              setEnd fuel ('\n' :: kept)
          | _ => setEnd fuel ('\\' :: kept)
      | some c => setEnd fuel (c :: kept)

/-- A text up to a mark, the last character first; none without the mark.  A backslash in
front of the mark is left out, and in a pattern a mark may stand in square brackets. -/
def upToMark (mark : Char) (isPattern : Bool) : Nat → Raw → Reading (Option Raw)
  | 0, _ => return none
  | fuel + 1, kept => do
      if (← peek?) = some '\n' then return none
      match ← take? with
      | none => return none
      | some c =>
          if c = mark then return some kept.reverse
          else if c = '\\' then
            match ← take? with
            | none => return none
            | some d =>
                if d = 'n' && isPattern && mark ≠ 'n' then upToMark mark isPattern fuel ('\n' :: kept)
                else if d = '\n' || (d = mark && (isPattern || d ≠ '&')) then
                  upToMark mark isPattern fuel (d :: kept)
                else upToMark mark isPattern fuel (d :: '\\' :: kept)
          else if c = '[' && isPattern then
            let opened ← (do
              match ← peek? with
              | some '^' =>
                  let _ ← take?
                  return ['^', '[']
              | _ => return ['['] : Reading Raw)
            let opened ← (do
              match ← peek? with
              | some ']' =>
                  let _ ← take?
                  return ']' :: opened
              | _ => return opened : Reading Raw)
            let fuelLeft := (← get).rest.length + 1
            upToMark mark isPattern fuel (← setEnd fuelLeft (opened ++ kept))
          else upToMark mark isPattern fuel (c :: kept)

def marked (mark : Char) (isPattern : Bool) : Reading (Option Raw) := do
  upToMark mark isPattern ((← get).rest.length + 1) []

/-- The character that stands behind a backslash, where it has a meaning of its own. -/
def escape? (source : Raw) : Option (Char × Raw) :=
  match source with
  | c :: rest =>
      match Pattern.Dialect.escape? c with
      | some e => some (e, rest)
      | none => Pattern.Dialect.numbered? (c :: rest)
  | [] => none

/-- The text of a command up to the end of a line that no backslash stands in front of. -/
def textLines : Nat → Raw → Reading Raw
  | 0, kept => return kept.reverse
  | fuel + 1, kept => do
      match ← take? with
      | none | some '\n' => return kept.reverse
      | some '\\' =>
          match escape? (← get).rest with
          | some (c, after) =>
              modify fun course => { course with
                taken := course.taken + (course.rest.length - after.length), rest := after }
              textLines fuel (c :: kept)
          | none =>
              match ← take? with
              | some c => textLines fuel (c :: kept)
              | none => return kept.reverse
      | some c => textLines fuel (c :: kept)

def textToEnd : Reading Raw := do
  return (← textLines ((← get).rest.length + 1) []) ++ ['\n']

end LintBridge.Edit
