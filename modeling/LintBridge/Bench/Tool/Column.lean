import LintBridge.Bench.Tool.Place

/-!
# Columns of lines

Parts of each line by their places, and the lines of files beside each other.
-/

set_option autoImplicit false

namespace LintBridge.Tool

namespace Column

/-- Places from one to another one, counted from one, or to the end. -/
structure Span where
  first : Nat
  last : Option Nat
  deriving DecidableEq

def Span.holds (s : Span) (n : Nat) : Bool :=
  s.first ≤ n && (match s.last with | some last => n ≤ last | none => true)

inductive Fault where
  | badValue (text : Raw)
  | zero
  | decreasing
  | noEnds

def Fault.message (fields : Bool) : Fault → Raw
  | badValue text =>
      (if fields then "invalid field value " else "invalid byte or character position ").toList
        ++ quote text
  | zero =>
      (if fields then "fields are numbered from 1"
        else "byte/character positions are numbered from 1").toList
  | decreasing => "invalid decreasing range".toList
  | noEnds => "invalid range with no endpoint: -".toList

def span (text : Raw) : Except Fault Span := do
  let low := text.takeWhile Char.isDigit
  match text.drop low.length with
  | [] =>
      if low.isEmpty || Raw.digitsValue low = 0 then throw .zero
      return ⟨Raw.digitsValue low, some (Raw.digitsValue low)⟩
  | '-' :: high =>
      if low.isEmpty && high.isEmpty then throw .noEnds
      if !high.all Char.isDigit then throw (.badValue (high.dropWhile Char.isDigit))
      let first := if low.isEmpty then 1 else Raw.digitsValue low
      if first = 0 then throw .zero
      if high.isEmpty then return ⟨first, none⟩
      let last := Raw.digitsValue high
      if last < first then throw .decreasing
      return ⟨first, some last⟩
  | rest => throw (.badValue rest)

def spans (text : Raw) : Except Fault (List Span) := do
  let parts := (Raw.split ',' text).flatMap (Raw.split ' ')
  let found ← parts.foldr (fun part found => do return (← span part) :: (← found)) (.ok [])
  return joined (found.mergeSort fun a b => a.first ≤ b.first)
where
  joined : List Span → List Span
    | [] => []
    | s :: rest => go s rest
  go (s : Span) : List Span → List Span
    | [] => [s]
    | t :: rest =>
        match s.last with
        | none => [s]
        | some last =>
            if t.first ≤ last then
              go ⟨s.first, t.last.map (max last)⟩ rest
            else s :: go t rest

def complement (spans : List Span) : List Span :=
  go 1 spans
where
  go (next : Nat) : List Span → List Span
    | [] => [⟨next, none⟩]
    | s :: rest =>
        let front : List Span := if next < s.first then [⟨next, some (s.first - 1)⟩] else []
        match s.last with
        | some last => front ++ go (last + 1) rest
        | none => front

def parts {α : Type} (spans : List Span) (row : List α) : List (List α) :=
  spans.filterMap fun s =>
    let behind := row.drop (s.first - 1)
    if behind.isEmpty then none
    else some (match s.last with | some last => behind.take (last + 1 - s.first) | none => behind)

end Column

open Column in
def cut (t : Errand) (c : Choices) : Product :=
  let lists := c.options.filter fun o => o.1 = 'b' || o.1 = 'c' || o.1 = 'f'
  match lists with
  | [] => lacks t "you must specify a list of bytes, characters, or fields" 1
  | _ :: _ :: _ => lacks t "only one list may be specified" 1
  | [(letter, text)] =>
      let fields := letter = 'f'
      let mark := (c.value? 'd').map fun d => if d.isEmpty then ['\x00'] else d
      if (mark.getD ['\t']).length ≠ 1 then
        lacks t "the delimiter must be a single character" 1
      else if c.has 'd' && !fields then
        lacks t "an input delimiter may be specified only when operating on fields" 1
      else if c.has 's' && !fields then
        t.misuse ("suppressing non-delimited lines makes sense\n\tonly when operating on fields".toList) 1
      else
        match spans text with
        | .error fault => t.misuse (fault.message fields) 1
        | .ok found =>
            let found := if c.has 'C' then complement found else found
            let mark := ((mark.getD ['\t']).head?).getD '\t'
            let lineMark : Char := if c.has 'z' then '\x00' else '\n'
            let own (line : Raw) : List Raw :=
              if fields then
                if !line.contains mark then (if c.has 's' then [] else [line])
                else
                  let chosen := (parts found (Raw.split mark line)).flatten
                  match c.value? 'o' with
                  | some between => [(chosen.intersperse between).flatten]
                  | none => [Raw.join mark chosen]
              else
                match c.value? 'o' with
                | some between => [((parts found line).intersperse between).flatten]
                | none => [(parts found line).flatten]
            forFiles t c.operands fun raw =>
              (Raw.splitEnded lineMark raw).flatMap fun line =>
                (own line).flatMap fun line => line ++ [lineMark]

def cutOptions : OptionTable where
  flags := "nszC".toList
  valued := "bcdfo".toList
  words :=
    [("bytes", 'b'), ("characters", 'c'), ("fields", 'f'), ("delimiter", 'd'),
     ("only-delimited", 's'), ("output-delimiter", 'o'), ("complement", 'C'),
     ("zero-terminated", 'z')]
  loose := []
  mixed := true

/-- The marks between columns; an escape may stand for none. -/
def columnMarks : Raw → List Raw
  | '\\' :: c :: rest =>
      let own : Raw :=
        match c with
        | 'n' => ['\n']
        | 't' => ['\t']
        | '0' => []
        | 'r' => ['\r']
        | c => [c]
      own :: columnMarks rest
  | c :: rest => [c] :: columnMarks rest
  | [] => []

def withMarks (marks : List Raw) (parts : List Raw) : Raw :=
  match parts with
  | [] => []
  | first :: rest =>
      first ++ (rest.zip (List.range rest.length)).flatMap fun (part, n) =>
        (if marks.isEmpty then [] else (marks[n % marks.length]?).getD []) ++ part

/-- Writes the lines of files beside each other, or the lines of each file. -/
def paste (t : Errand) (c : Choices) : Product :=
  let marks := columnMarks ((c.value? 'd').getD ['\t'])
  let names := if c.operands.isEmpty then [['-']] else c.operands
  let inputs := (names.filter isInput).length
  let found := names.map fun name => (name, t.source name)
  match found.find? fun f => !f.2.isOk with
  | some (name, .error e) => unread t name e
  | _ =>
      if c.has 's' then
        t.said (found.flatMap fun f => withMarks marks (Raw.lines (f.2.toOption.getD [])) ++ ['\n'])
      else
        let (columns, _) : List (List Raw) × Nat :=
          found.foldl
            (fun (columns, n) f =>
              if isInput f.1 then
                let own := t.input.lines
                let mine := (own.zip (List.range own.length)).filterMap fun (line, i) =>
                  if i % inputs = n then some line else none
                (columns ++ [mine], n + 1)
              else (columns ++ [Raw.lines (f.2.toOption.getD [])], n))
            ([], 0)
        let height := (columns.map (·.length)).foldl max 0
        t.saidLines ((List.range height).map fun row =>
          withMarks marks (columns.map fun column => (column[row]?).getD []))

/-- Spaces in place of tabs, up to the next column that is a multiple. -/
def expanded (width : Nat) (firstOnly : Bool) : Nat → Bool → Raw → Raw
  | _, _, [] => []
  | column, blank, c :: rest =>
      if c = '\n' then c :: expanded width firstOnly 0 true rest
      else if c = '\t' && (blank || !firstOnly) then
        let size := width - column % width
        List.replicate size ' ' ++ expanded width firstOnly (column + size) blank rest
      else c :: expanded width firstOnly (column + 1) (blank && c = ' ') rest

def expand (t : Errand) (c : Choices) : Product :=
  let width := max 1 (((c.value? 't').bind Raw.nat?).getD 8)
  forFiles t c.operands (expanded width (c.has 'i') 0 true)

end LintBridge.Tool
