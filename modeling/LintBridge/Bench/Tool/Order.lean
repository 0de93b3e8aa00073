import LintBridge.Bench.Tool.Key
import LintBridge.Bench.Tool.Making

/-!
# Lines in order

Tools that sort lines, and that find lines which are there more than once or in two
files.
-/

set_option autoImplicit false

namespace LintBridge.Sorting

open Tool (Choices OptionTable)

abbrev KeyFault := Raw

/-- A field and a place of a key, counted from one, and the letters behind them. -/
def position (zeroPlace : Bool) (whole text : Raw) : Except KeyFault (Nat × Nat × Raw) := do
  let field := text.takeWhile Char.isDigit
  let invalid (why : String) (shown : Raw) : KeyFault :=
    why.toList ++ ": invalid field specification ".toList ++ Tool.quote shown
  if field.isEmpty then
    throw ("invalid number at field start: invalid count at start of ".toList ++ Tool.quote text)
  else if Raw.digitsValue field = 0 then throw (invalid "field number is zero" whole)
  else
    match text.drop field.length with
    | '.' :: more =>
        let place := more.takeWhile Char.isDigit
        if place.isEmpty then
          throw ("invalid number after '.': invalid count at start of ".toList ++ Tool.quote more)
        else if Raw.digitsValue place = 0 && !zeroPlace then
          throw (invalid "character offset is zero" whole)
        else return (Raw.digitsValue field - 1, Raw.digitsValue place, more.drop place.length)
    | rest => return (Raw.digitsValue field - 1, 0, rest)

def takeManner (atEnd : Bool) : Manner → Raw → Manner × Raw
  | m, [] => (m, [])
  | m, c :: rest =>
      match m.withLetter? atEnd c with
      | some m => takeManner atEnd m rest
      | none => (m, c :: rest)

def keyOf (text : Raw) : Except KeyFault Key := do
  let (field, place, rest) ← position false text text
  let (manner, rest) := takeManner false .plain rest
  match rest with
  | [] => return ⟨field, place - 1, none, manner⟩
  | ',' :: more =>
      let (lastField, lastPlace, rest) ← position true text more
      let (manner, rest) := takeManner true manner rest
      if rest.isEmpty then return ⟨field, place - 1, some (lastField, lastPlace), manner⟩
      else throw ("stray character in field spec: invalid field specification ".toList ++ Tool.quote text)
  | _ => throw ("stray character in field spec: invalid field specification ".toList ++ Tool.quote text)

structure Order where
  keys : List Key
  mark : Option Char
  manner : Manner
  unique : Bool
  stable : Bool

namespace Order

def byKeys (o : Order) (a b : Raw) : Ordering :=
  o.keys.foldl
    (fun order k =>
      order.then (k.manner.compare (k.part o.mark a) (k.part o.mark b)))
    .eq

def compare (o : Order) (a b : Raw) : Ordering :=
  let lines := if o.manner.reversed then compareRaw b a else compareRaw a b
  if o.keys.isEmpty then lines
  else
    match o.byKeys a b with
    | .eq => if o.unique || o.stable then .eq else lines
    | order => order

def sorted (o : Order) (lines : List Raw) : List Raw :=
  let lines := lines.mergeSort fun a b => o.compare a b ≠ .gt
  if o.unique then firsts lines else lines
where
  firsts : List Raw → List Raw
    | [] => []
    | line :: rest => line :: go line rest
  go (last : Raw) : List Raw → List Raw
    | [] => []
    | line :: rest => if o.compare last line = .eq then go last rest else line :: go line rest

/-- The first line that stands behind one it should stand before, and its number. -/
def disorder? (o : Order) : Nat → List Raw → Option (Nat × Raw)
  | n, a :: b :: rest =>
      match o.compare a b with
      | .gt => some (n + 1, b)
      | .eq => if o.unique then some (n + 1, b) else disorder? o (n + 1) (b :: rest)
      | .lt => disorder? o (n + 1) (b :: rest)
  | _, _ => none

end Order

def orderOf (c : Choices) : Except KeyFault Order := do
  let manner := c.options.foldl
    (fun (m : Manner) o =>
      if o.2.isEmpty then
        let m := (m.withLetter? false o.1).getD m
        if o.1 = 'b' then { m with skipsEndBlanks := true } else m
      else m)
    .plain
  let keys ← (c.values 'k').foldr
    (fun text found => do
      let others ← found
      return (← keyOf text) :: others)
    (.ok [])
  let keys := keys.map fun k => if k.manner = .plain then { k with manner } else k
  let keys := if keys.isEmpty && { manner with reversed := false } ≠ .plain then [⟨0, 0, none, manner⟩] else keys
  let mark : Option Char ←
    match c.value? 't' with
    | none => .ok none
    | some [] => .error "empty tab".toList
    | some [mark] => .ok (some mark)
    | some ['\\', '0'] => .ok (some '\x00')
    | some text => .error ("multi-character tab ".toList ++ Tool.quote text)
  return ⟨keys, mark, manner, c.has 'u', c.has 's'⟩

def options : OptionTable :=
  (OptionTable.ofLetters "bcCdfghiMmnRrsuVz" "koStTy").withWords
    [("ignore-leading-blanks", 'b'), ("check", 'c'), ("dictionary-order", 'd'), ("ignore-case", 'f'),
     ("general-numeric-sort", 'g'), ("human-numeric-sort", 'h'), ("ignore-nonprinting", 'i'),
     ("month-sort", 'M'), ("merge", 'm'), ("numeric-sort", 'n'), ("random-sort", 'R'),
     ("reverse", 'r'), ("stable", 's'), ("unique", 'u'), ("version-sort", 'V'),
     ("zero-terminated", 'z'), ("key", 'k'), ("output", 'o'), ("field-separator", 't')]

def sort (t : Errand) (c : Choices) : Product :=
  let mark : Char := if c.has 'z' then '\x00' else '\n'
  let sources := t.sources c.operands
  let refused := sources.findSome? fun s =>
    match s.2 with
    | .error .isADirectory => some ("read failed: ".toList ++ s.1 ++ ": Is a directory".toList)
    | .error e => some ("cannot read: ".toList ++ s.1 ++ ':' :: ' ' :: e.reason)
    | .ok _ => none
  match orderOf c, refused with
  | .error text, _ | _, some text => t.complaint text 2
  | .ok order, none =>
      let lines := sources.flatMap fun s => Raw.splitEnded mark (s.2.toOption.getD [])
      if c.has 'c' || c.has 'C' then
        match order.disorder? 1 lines with
        | none => t.quiet 0
        | some (n, line) =>
            if c.has 'C' then t.quiet 1
            else
              let name := (c.operands.head?).getD ['-']
              t.complaint (name ++ ':' :: Raw.ofNat n ++ ": disorder: ".toList ++ line) 1
      else
        let text := (order.sorted lines).flatMap fun line => line ++ [mark]
        match c.value? 'o' with
        | none => t.said text
        | some name =>
            match Tool.writeTo t false name text with
            | .ok tree => { t.quiet 0 with tree }
            | .error e => t.complaint ("open failed: ".toList ++ name ++ ':' :: ' ' :: e.reason) 2

end LintBridge.Sorting

namespace LintBridge.Tool

def comparedPart (fields letters : Nat) (most : Option Nat) (folded : Bool) (line : Raw) : Raw :=
  let part := line.drop (Sorting.skipFields none true fields line)
  let part := part.drop letters
  let part := match most with
    | some n => part.take n
    | none => part
  if folded then part.map Char.toUpper else part

def groupLines (same : Raw → Raw → Bool) : List Raw → List (List Raw)
  | [] => []
  | line :: rest =>
      match groupLines same rest with
      | (other :: others) :: groups =>
          if same line other then (line :: other :: others) :: groups
          else [line] :: (other :: others) :: groups
      | groups => [line] :: groups

/-- Writes lines once that stand there several times, one behind the other. -/
def uniq (t : Errand) (c : Choices) : Product :=
  let number (letter : Char) (what : String) : Except Raw (Option Nat) :=
    match c.value? letter with
    | none => .ok none
    | some text =>
        match Raw.nat? text with
        | some n => .ok (some n)
        | none => .error (text ++ ": invalid number of ".toList ++ what.toList)
  let amounts : Except Raw (Option Nat × Option Nat × Option Nat) := do
    return (← number 'f' "fields to skip", ← number 's' "bytes to skip",
      ← number 'w' "bytes to compare")
  match amounts, c.operands with
  | .error text, _ => t.complaint text 1
  | _, _ :: _ :: extra :: _ => extraOperand t extra
  | .ok (fields, letters, most), names =>
      let name := names.head?.getD ['-']
      match t.source name with
      | .error .isADirectory =>
          t.complaint ("error reading ".toList ++ quoteAlways name ++ ": Is a directory".toList) 1
      | .error e => unread t name e
      | .ok raw =>
          let mark : Char := if c.has 'z' then '\x00' else '\n'
          let part := comparedPart (fields.getD 0) (letters.getD 0) most (c.has 'i')
          let groups := groupLines (fun a b => part a = part b) (Raw.splitEnded mark raw)
          let kept := groups.filter fun g =>
            (!(c.has 'd' || c.has 'D') || 1 < g.length) && (!c.has 'u' || g.length = 1)
          let lines : List Raw :=
            if c.has 'D' then kept.flatten
            else
              kept.filterMap fun g =>
                g.head?.map fun line =>
                  if c.has 'c' then Raw.padLeft 7 (Raw.ofNat g.length) ++ ' ' :: line else line
          let text := lines.flatMap fun line => line ++ [mark]
          match names[1]? with
          | none => t.said text
          | some target =>
              match writeTo t false target text with
              | .ok tree => { t.quiet 0 with tree }
              | .error e => unread t target e

def uniqOptions : OptionTable :=
  (OptionTable.ofLetters "cdDuiz" "fsw").withWords
    [("count", 'c'), ("repeated", 'd'), ("all-repeated", 'D'), ("unique", 'u'),
     ("ignore-case", 'i'), ("zero-terminated", 'z'), ("skip-fields", 'f'), ("skip-chars", 's'),
     ("check-chars", 'w')]

/-- The lines of two sorted files side by side: only in the first one, only in the second
one, or in both. -/
def sideBySide : Nat → List Raw → List Raw → List (Nat × Raw)
  | 0, _, _ => []
  | _ + 1, [], others => others.map fun line => (2, line)
  | _ + 1, lines, [] => lines.map fun line => (1, line)
  | fuel + 1, a :: rest, b :: others =>
      if a = b then (3, a) :: sideBySide fuel rest others
      else if Raw.le a b then (1, a) :: sideBySide fuel rest (b :: others)
      else (2, b) :: sideBySide fuel (a :: rest) others

/-- Which of two files is found to be out of order, in the order in which that is seen when
they are read side by side. -/
def disorders (items : List (Nat × Raw)) (a b : List Raw) : List Nat :=
  let found := items.foldl
    (fun (found, a, b) (item : Nat × Raw) =>
      let falls : List Raw → Bool
        | line :: next :: _ => !Raw.le line next
        | _ => false
      let first := item.1 ≠ 2 && falls a
      let second := item.1 ≠ 1 && falls b
      (found ++ (if first then [1] else []) ++ (if second then [2] else []),
        if item.1 = 2 then a else a.tail, if item.1 = 1 then b else b.tail))
    (([], a, b) : List Nat × List Raw × List Raw)
  found.1.eraseDups

def comm (t : Errand) (c : Choices) : Product :=
  match c.operands with
  | [] => lacks t "missing operand" 1
  | [name] => t.misuse ("missing operand after ".toList ++ quote name) 1
  | [first, second] =>
      match t.source first, t.source second with
      | .error e, _ => unread t first e
      | _, .error e => unread t second e
      | .ok a, .ok b =>
          let mark := (c.value? 'o').getD ['\t']
          let columns := ['1', '2', '3'].filter fun digit => !c.has digit
          let shown (item : Nat × Raw) : Raw :=
            let digit := Char.ofNat (48 + item.1)
            if c.has digit then []
            else
              let before := (columns.takeWhile (· ≠ digit)).length
              (List.replicate before mark).flatten ++ item.2 ++ ['\n']
          let aLines := a.lines
          let bLines := b.lines
          let items := sideBySide (aLines.length + bLines.length + 1) aLines bLines
          let p := t.said (items.flatMap shown)
          let p := (disorders items aLines bLines).foldl
            (fun (p : Product) n =>
              (p.grumble (t.line ("file ".toList ++ Raw.ofNat n ++ " is not in sorted order".toList))).done 1)
            p
          if p.status = 0 then p
          else p.grumble (t.line "input is not in sorted order".toList)
  | _ :: _ :: extra :: _ => extraOperand t extra

end LintBridge.Tool
