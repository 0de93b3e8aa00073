import LintBridge.Bench.Tool.Display

/-!
# Counts

How many lines, words, characters and bytes files have, and how long the longest line is.
-/

set_option autoImplicit false

namespace LintBridge.Tool

structure Tally where
  lines : Nat
  words : Nat
  letters : Nat
  bytes : Nat
  longest : Nat

namespace Tally

def zero : Tally :=
  ⟨0, 0, 0, 0, 0⟩

def add (a b : Tally) : Tally :=
  ⟨a.lines + b.lines, a.words + b.words, a.letters + b.letters, a.bytes + b.bytes,
    max a.longest b.longest⟩

/-- How many words stand in a text; what is not shown is no part of one. -/
def wordsOf : Bool → List Char → Nat
  | _, [] => 0
  | within, c :: rest =>
      if Raw.isSpace c then wordsOf false rest
      else if within then wordsOf true rest
      else if isShown c then wordsOf true rest + 1
      else wordsOf false rest

/-- The width of the longest line: tabs go on to the next eighth column. -/
def widest : Nat → Nat → List Char → Nat
  | most, column, [] => max most column
  | most, column, c :: rest =>
      if c = '\n' || c = '\r' || c = '\x0c' then widest (max most column) 0 rest
      else if c = '\t' then widest most (column + 8 - column % 8) rest
      else if isShown c then widest most (column + 1) rest
      else widest most column rest

def ofRaw (raw : Raw) : Tally :=
  let letters := raw.letters
  ⟨raw.count '\n', wordsOf false letters, (letters.filter (!Text.Stray.isKeeper ·)).length,
    raw.length, widest 0 0 letters⟩

def chosen (c : Choices) (a : Tally) : List Nat :=
  let all := ['l', 'w', 'm', 'c', 'L'].all fun letter => !c.has letter
  let entries : List (Bool × Nat) :=
    [(all || c.has 'l', a.lines), (all || c.has 'w', a.words), (c.has 'm', a.letters),
     (all || c.has 'c', a.bytes), (c.has 'L', a.longest)]
  (entries.filter (·.1)).map (·.2)

def line (c : Choices) (width : Nat) (name : Raw) (a : Tally) : Raw :=
  let columns := (a.chosen c).map fun n => Raw.padLeft width (Raw.ofNat n)
  Raw.join ' ' columns ++ (if name.isEmpty then [] else ' ' :: name) ++ ['\n']

end Tally

/-- The width of the columns: that of the size of all files together, and at least seven
where something is counted that is no file. -/
def columnWidth (t : Errand) (c : Choices) : Nat :=
  let counts := (Tally.zero.chosen c).length
  let size? (name : Raw) : Option Nat :=
    if isInput name then (if t.onFile then some t.input.length else none)
    else
      match t.tree.node t.current name.toPath with
      | .ok (_, .file content _) => some content.length
      | _ => none
  let isThere (name : Raw) : Bool :=
    isInput name || (t.tree.node t.current name.toPath).isOk
  let names := if c.operands.isEmpty then [['-']] else c.operands
  if names.length = 1 && counts = 1 then 1
  else
    let found := names.filter isThere
    let total := (found.filterMap size?).foldl (· + ·) 0
    let width := (Raw.ofNat total).length
    if found.all fun name => (size? name).isSome then width else max 7 width

def wc (t : Errand) (c : Choices) : Product :=
  let width := columnWidth t c
  let shownName (name : Raw) : Raw := if c.operands.isEmpty then [] else name
  let (p, total) :=
    (t.sources c.operands).foldl
      (fun (p, total) item =>
        match item.2 with
        | .ok raw =>
            let own := Tally.ofRaw raw
            (p.andAlso (t.said (own.line c width (shownName item.1))), total.add own)
        | .error .isADirectory =>
            (p.andAlso ((unread t item.1 .isADirectory).say
              (Tally.zero.line c width (shownName item.1))), total)
        | .error e => (p.andAlso (unread t item.1 e), total))
      (t.quiet 0, Tally.zero)
  if 1 < c.operands.length then p.say (total.line c width "total".toList) else p

def wcOptions : OptionTable :=
  (OptionTable.ofLetters "lwmcL" "").withWords
    [("lines", 'l'), ("words", 'w'), ("chars", 'm'), ("bytes", 'c'), ("max-line-length", 'L')]

end LintBridge.Tool
