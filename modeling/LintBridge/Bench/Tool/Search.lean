import LintBridge.Bench.Pattern.Dialect
import LintBridge.Bench.Pattern.Name
import LintBridge.Bench.Tool.Place

/-!
# Searching for lines

Lines that patterns match are written, counted or only asked for.  Of several patterns the
match that begins first counts, and of those the longest one.
-/

set_option autoImplicit false

namespace LintBridge.Search

open Pattern (Dialect Regex)
open Pattern.Regex (Field)
open Tool (Choices OptionTable)

structure Query where
  patterns : List Regex
  folded : Bool
  wholeLines : Bool
  wholeWords : Bool
  others : Bool
  notes : List Raw

def literal (letters : List Char) : Regex :=
  letters.foldr (fun c rest => match rest with | .nothing => .one c | rest => .chain (.one c) rest)
    .nothing

namespace Query

def fieldOf (q : Query) (line : Raw) : Field :=
  ⟨(Raw.letters line).toArray, q.folded, false⟩

def endAt? (q : Query) (f : Field) (place : Nat) (r : Regex) : Option Nat :=
  let ends := r.ends f ⟨place, []⟩
  let found :=
    if q.wholeLines then ends.find? fun s => place = 0 && s.place = f.text.size
    else if q.wholeWords then
      ends.find? fun s => !f.isWordBefore place && !f.isWordAt s.place
    else ends.head?
  found.map (·.place)

def find? (q : Query) (f : Field) : Nat → Nat → Option (Nat × Nat)
  | _, 0 => none
  | place, more + 1 =>
      match (q.patterns.filterMap (q.endAt? f place)).max? with
      | some last => some (place, last)
      | none => q.find? f (place + 1) more

def first? (q : Query) (f : Field) (place : Nat) : Option (Nat × Nat) :=
  q.find? f place (f.text.size + 1 - place)

def selects (q : Query) (line : Raw) : Bool :=
  (q.first? (q.fieldOf line) 0).isSome != q.others

def matchesFrom (q : Query) (f : Field) : Nat → Nat → List (Nat × Nat)
  | 0, _ => []
  | fuel + 1, place =>
      match q.first? f place with
      | none => []
      | some (first, last) =>
          if first = last then
            if first < f.text.size then q.matchesFrom f fuel (first + 1) else []
          else (first, last) :: q.matchesFrom f fuel last

end Query

structure Style where
  named : Bool
  numbered : Bool
  offset : Bool
  partsOnly : Bool
  before : Nat
  after : Nat
  around : Bool
  mark : Char
  most : Option Nat
  asText : Bool

/-- A line with its number, its place among the bytes, and whether it is meant. -/
structure Line where
  text : Raw
  number : Nat
  offset : Nat
  meant : Bool

/-- The lines of a text; behind so many that are meant none is. -/
def linesOf (q : Query) (style : Style) (raw : Raw) : List Line :=
  go 1 0 (style.most.getD raw.length.succ) (Raw.splitEnded style.mark raw)
where
  go (number offset left : Nat) : List Raw → List Line
    | [] => []
    | text :: rest =>
        let meant := 0 < left && q.selects text
        ⟨text, number, offset, meant⟩
          :: go (number + 1) (offset + text.length + 1) (if meant then left - 1 else left) rest

def front (style : Style) (name : Raw) (sign : Char) (number offset : Nat) : Raw :=
  (if style.named then name ++ [sign] else [])
    ++ (if style.numbered then Raw.ofNat number ++ [sign] else [])
    ++ (if style.offset then Raw.ofNat offset ++ [sign] else [])

def written (q : Query) (style : Style) (name : Raw) (line : Line) : Raw :=
  let sign := if line.meant then ':' else '-'
  if style.partsOnly then
    if q.others then []
    else
      let f := q.fieldOf line.text
      (q.matchesFrom f (f.text.size + 2) 0).flatMap fun found =>
        let part := Raw.ofLetters (f.part found.1 found.2)
        let offset := line.offset + (Raw.ofLetters (f.part 0 found.1)).length
        front style name sign line.number offset ++ part ++ [style.mark]
  else front style name sign line.number line.offset ++ line.text ++ [style.mark]

/-- The lines that are meant with those around them, and the places where something is left
out between groups of them.  The lines in front are given the last one first. -/
def grouped (style : Style) : List Line → Nat → Bool → Bool → List Line → List (Option Line)
  | _, _, _, _, [] => []
  | held, left, any, gap, line :: rest =>
      if line.meant then
        let shown := (held.take style.before).reverse
        let apart := any && (gap || style.before < held.length)
        (if apart && style.around then [none] else []) ++ shown.map some
          ++ some line :: grouped style [] style.after true false rest
      else if 0 < left then some line :: grouped style [] (left - 1) any false rest
      else
        let held := (line :: held).take (style.before + 1)
        grouped style held 0 any (style.before < held.length || gap) rest

/-- Bytes that are no text: one of them is zero, or some belong to no character. -/
def hasZero (raw : Raw) : Bool :=
  raw.contains '\x00'

def isStray (raw : Raw) : Bool :=
  (Raw.letters raw).any Text.Stray.isKeeper

structure Report where
  text : Raw
  any : Bool
  left : Raw
  hides : Bool

def report (q : Query) (style : Style) (name raw : Raw) : Report :=
  let lines := linesOf q style raw
  let any := lines.any (·.meant)
  let binary := !style.asText && style.mark = '\n' && hasZero raw
  let last := (lines.reverse.find? (·.meant)).map fun l => l.offset + l.text.length + 1
  let left : Raw :=
    if style.most.isSome && style.most = some ((lines.filter (·.meant)).length) then
      raw.drop (last.getD raw.length)
    else []
  if !any then ⟨[], false, left, false⟩
  else if binary then ⟨[], true, left, !(q.others && style.partsOnly)⟩
  else
    let lines := if style.most.isSome then upToLast style.after lines else lines
    let shown := grouped style [] 0 false false lines
    if !style.asText && shown.any fun item => item.any fun l => isStray l.text then
      let kept := shown.takeWhile fun item => !item.any fun l => isStray l.text
      let more := shown.drop kept.length
      let fine := more.filter fun item => !item.any fun l => isStray l.text
      ⟨(kept ++ fine).flatMap textOf, true, left, true⟩
    else ⟨shown.flatMap textOf, true, left, false⟩
where
  textOf : Option Line → Raw
    | some line => written q style name line
    | none => ['-', '-', '\n']
  /-- The lines up to the last one that is meant and so many behind it. -/
  upToLast (after : Nat) (lines : List Line) : List Line :=
    let back := lines.reverse.takeWhile fun l => !l.meant
    lines.take (lines.length - back.length + after)

/-- Digits and plain groups of a richer dialect in the words of the extended one. -/
def richer : List Char → List Char
  | '\\' :: 'd' :: rest => "[0-9]".toList ++ richer rest
  | '\\' :: 'D' :: rest => "[^0-9]".toList ++ richer rest
  | '\\' :: 'h' :: rest => "[[:blank:]]".toList ++ richer rest
  | '\\' :: 't' :: rest => '\t' :: richer rest
  | '\\' :: c :: rest => '\\' :: c :: richer rest
  | '(' :: '?' :: ':' :: rest => '(' :: richer rest
  | c :: rest => c :: richer rest
  | [] => []

/-- The patterns of a text, one to a line, and what is said about them. -/
def patternsOf (c : Choices) (source : Raw) : Except Raw (List Regex × List Raw) :=
  (Raw.split '\n' source).foldr
    (fun line found => do
      let (others, notes) ← found
      let letters := Raw.letters line
      if c.has 'F' then return (literal letters :: others, notes)
      else if isBareKind letters then
        throw "character class syntax is [[:space:]], not [:space:]".toList
      else
        let letters := if c.has 'P' then richer letters else letters
        let dialect := if c.has 'E' || c.has 'P' then Dialect.extendedOnly else Dialect.plain
        match dialect.course letters with
        | .ok (regex, course) =>
            let own := course.idle.reverse.map fun sign =>
              "warning: ".toList ++ sign.toList ++ " at start of expression".toList
            return (regex :: others, own ++ notes)
        | .error trouble => throw trouble.message.toList)
    (.ok ([], []))
where
  isBareKind (letters : List Char) : Bool :=
    ['[', ':'].isPrefixOf letters && [':', ']'].isSuffixOf letters
      && (letters.filter (· = '[')).length = 1

/-- The patterns of a call: behind options, in files, or the first argument; and the files
to search in. -/
def queryOf (t : Errand) (c : Choices) : Except Raw (Option (Query × List Raw)) := do
  let given := c.options.filter fun o => o.1 = 'e' || o.1 = 'f'
  let texts : List Raw ← given.foldr
    (fun o found => do
      let others ← found
      if o.1 = 'e' then return o.2 :: others
      else
        match t.source o.2 with
        | .ok [] => return others
        | .ok raw => return (if raw.getLast? = some '\n' then raw.dropLast else raw) :: others
        | .error e => throw (o.2 ++ ':' :: ' ' :: e.reason))
    (.ok [])
  let query (texts : List Raw) (files : List Raw) : Except Raw (Option (Query × List Raw)) := do
    let (patterns, notes) ← texts.foldr
      (fun text found => do
        let own ← patternsOf c text
        let others ← found
        return (own.1 ++ others.1, own.2 ++ others.2))
      (.ok ([], []))
    return some
      (⟨patterns, c.has 'i' || c.has 'y', c.has 'x', c.has 'w', c.has 'v', notes⟩, files)
  if !given.isEmpty then query texts c.operands
  else
    match c.operands with
    | [] => return none
    | text :: files => query [text] files

def options : OptionTable where
  flags := "EFGPRHILTUVZabchilnoqrsuvwxyz".toList
  valued := "ABCDdefmNOX".toList
  words :=
    [("extended-regexp", 'E'), ("fixed-strings", 'F'), ("basic-regexp", 'G'),
     ("perl-regexp", 'P'), ("regexp", 'e'), ("file", 'f'), ("ignore-case", 'i'),
     ("no-ignore-case", 'G'), ("word-regexp", 'w'), ("line-regexp", 'x'), ("null-data", 'z'),
     ("no-messages", 's'), ("invert-match", 'v'), ("max-count", 'm'), ("byte-offset", 'b'),
     ("line-number", 'n'), ("line-buffered", 'u'), ("with-filename", 'H'), ("no-filename", 'h'),
     ("label", 'N'), ("only-matching", 'o'), ("quiet", 'q'), ("silent", 'q'),
     ("binary-files", 'O'), ("text", 'a'), ("directories", 'd'), ("devices", 'D'),
     ("recursive", 'r'), ("dereference-recursive", 'R'), ("include", '1'), ("exclude", '2'),
     ("exclude-dir", '3'), ("files-without-match", 'L'), ("files-with-matches", 'l'),
     ("count", 'c'), ("initial-tab", 'T'), ("null", 'Z'), ("before-context", 'B'),
     ("after-context", 'A'), ("context", 'C'), ("color", '4'), ("colour", '4')]
  loose := "1234".toList
  mixed := true

def modernArgs (args : List Raw) : List Raw :=
  args.map fun a =>
    match a with
    | '-' :: digits => if !digits.isEmpty && digits.all Char.isDigit then '-' :: 'C' :: digits else a
    | _ => a

def isRecursive (c : Choices) : Bool :=
  c.has 'r' || c.has 'R' || c.value? 'd' = some "recurse".toList

/-- The search reads its input where no files are given, unless it goes through all. -/
def readsInput (c : Choices) : Bool :=
  let files := if c.has 'e' || c.has 'f' then c.operands else c.operands.drop 1
  (files.isEmpty && !isRecursive c) || files.any Tool.isInput || (c.values 'f').any Tool.isInput

def lets (c : Choices) (name : Raw) : Bool :=
  let fits (letter : Char) : Bool :=
    (c.values letter).any fun p => Pattern.nameMatches (p.map fun d => (d, false)) (Tool.lastPart name)
  (!c.has '1' || fits '1') && !fits '2'

def filesBelow (t : Errand) (c : Choices) : Nat → Raw → Location → List Raw
  | 0, _, _ => []
  | depth + 1, directory, location =>
      (t.tree.sortedNames location).flatMap fun last =>
        let name := if directory.isEmpty then last else Tool.within directory last
        let place := location ++ (Raw.toPath last).pieces
        match t.tree.get? place with
        | some .directory =>
            if (c.values '3').any fun p => Pattern.nameMatches (p.map fun d => (d, false)) last then []
            else filesBelow t c depth name place
        | some (.link _) => if c.has 'R' && (t.node? name).isOk && !t.isDirectory name then [name] else []
        | some _ => if lets c name then [name] else []
        | none => []

/-- The files to search in: directories stand for what is below them. -/
def targets (t : Errand) (c : Choices) (files : List Raw) : List Raw :=
  if !isRecursive c then files
  else
    let depth := t.tree.entries.length + 1
    if files.isEmpty then filesBelow t c depth [] t.current
    else
      files.flatMap fun name =>
        match t.node? name with
        | .ok (location, .directory) => filesBelow t c depth name location
        | _ => [name]

/-- How options want results to be written; the error is what is wrong with a number. -/
def styleOf (c : Choices) (named : Bool) : Except Raw Style := do
  let context (letter : Char) : Except Raw (Option Nat) :=
    match c.value? letter with
    | none => .ok none
    | some text =>
        match Raw.nat? text with
        | some n => .ok (some n)
        | none => .error (text ++ ": invalid context length argument".toList)
  let both ← context 'C'
  let before ← context 'B'
  let after ← context 'A'
  let most : Option Nat ←
    match c.value? 'm' with
    | none => .ok none
    | some text =>
        match Raw.int? text with
        | some n => .ok (if n < 0 then none else some n.toNat)
        | none => .error "invalid max count".toList
  return {
    named := (named || c.has 'H') && c.last? ['H', 'h'] ≠ some 'h',
    numbered := c.has 'n', offset := c.has 'b', partsOnly := c.has 'o',
    before := if c.has 'o' then 0 else (before <|> both).getD 0,
    after := if c.has 'o' then 0 else (after <|> both).getD 0,
    around := both.isSome || before.isSome || after.isSome,
    mark := if c.has 'z' then '\x00' else '\n', most,
    asText := c.has 'a' || c.value? 'O' = some "text".toList }

/-- The result for one file: what is written, and whether a line was meant. -/
def searchFile (t : Errand) (c : Choices) (q : Query) (style : Style) (name raw : Raw) :
    Product × Bool :=
  let shown : Raw :=
    if Tool.isInput name then (c.value? 'N').getD "(standard input)".toList else name
  let ending : Raw := if c.has 'Z' then ['\x00'] else ['\n']
  let any (raw : Raw) : Bool := (Raw.splitEnded style.mark raw).any q.selects
  if (c.has 'I' || c.value? 'O' = some "without-match".toList) && hasZero raw then (t.quiet 0, false)
  else if c.has 'q' then
    let rest :=
      let lines := linesOf q { style with most := some 1 } raw
      match lines.find? (·.meant) with
      | some l => raw.drop (l.offset + l.text.length + 1)
      | none => []
    ((t.quiet 0).leaving (if Tool.isInput name then rest else []), any raw)
  else if c.has 'l' || c.has 'L' then
    let found := any raw
    let listed := if c.last? ['l', 'L'] = some 'L' then !found else found
    (if listed then t.said (shown ++ ending) else t.quiet 0, found)
  else if c.has 'c' then
    let n := ((linesOf q style raw).filter (·.meant)).length
    let name : Raw := if style.named then shown ++ (if c.has 'Z' then ['\x00'] else [':']) else []
    (t.said (name ++ Raw.ofNat n ++ ['\n']), n ≠ 0)
  else
    let found := report q style shown raw
    let p := (t.said found.text).leaving (if Tool.isInput name then found.left else [])
    (if found.hides then p.grumble (t.line (shown ++ ": binary file matches".toList)) else p,
      found.any)

/-- Searches files one after the other; a quiet search ends with the first one that has a
line that is meant. -/
def searchAll (t : Errand) (c : Choices) (q : Query) (style : Style) :
    List Raw → Product → Bool → Product × Bool
  | [], p, found => (p, found)
  | name :: rest, p, found =>
      match t.source name with
      | .error e =>
          if e = .isADirectory && c.value? 'd' = some "skip".toList then
            searchAll t c q style rest p found
          else
            let p := if c.has 's' then p else p.grumble (t.line (name ++ ':' :: ' ' :: e.reason))
            searchAll t c q style rest (p.atLeast 2) found
      | .ok raw =>
          let (own, any) := searchFile t c q style name raw
          let p := p.andAlso own
          if any && c.has 'q' then (p.done 0, true) else searchAll t c q style rest p (found || any)

def usage (t : Errand) : Product :=
  (t.quiet 2).grumble ("Usage: grep [OPTION]... PATTERNS [FILE]...\n".toList ++ t.advice)

def search (t : Errand) (c : Choices) : Product :=
  if c.has 'E' && c.has 'F' then t.complaint "conflicting matchers specified".toList 2
  else
    match queryOf t c with
    | .error text => t.complaint text 2
    | .ok none => usage t
    | .ok (some (q, files)) =>
        let recursive := isRecursive c
        let names := targets t c files
        let names := if files.isEmpty && !recursive then [['-']] else names
        let named := 1 < files.length || (recursive && (files.isEmpty || files.any t.isDirectory))
        match styleOf c named with
        | .error text => t.complaint text 2
        | .ok style =>
            let begun := q.notes.foldl (fun (p : Product) note => p.grumble (t.line note)) (t.quiet 0)
            let (p, found) := searchAll t c q style names begun false
            if p.status = 0 && !found then p.done 1 else p

def grep (t : Errand) : Product :=
  let args := modernArgs t.args
  match Tool.choices options args with
  | .error misuse =>
      (t.quiet 2).grumble (t.line misuse.message ++ "Usage: grep [OPTION]... PATTERNS [FILE]...\n".toList
        ++ t.advice)
  | .ok c => search { t with args } c

end LintBridge.Search
