import LintBridge.Bench.Tool.Edit.Source

/-!
# Reading editing scripts

A command is an address or two, a mark for all other lines, a letter, and what belongs to
the letter.
-/

set_option autoImplicit false

namespace LintBridge.Edit

open Pattern (Dialect Regex)

/-- The pattern of a text; none if it is empty. -/
def matcher? (source : Raw) (folded manyLines : Bool) (references : Nat) :
    Reading (Option Matcher) := do
  if source.isEmpty then
    if folded || manyLines then refuse "cannot specify modifiers on empty regexp".toList
    else return none
  else
    let extended := (← get).extended
    match (Dialect.mk extended true false true).read (Raw.letters source) with
    | .error trouble => refuse trouble.message.toList
    | .ok (regex, groups) =>
        if groups < references then
          refuse ("invalid reference \\".toList ++ Raw.ofNat references
            ++ " on `s' command's RHS".toList)
        else return some ⟨regex, groups, folded, manyLines⟩

def addressFlags : Nat → Bool → Bool → Reading (Bool × Bool)
  | 0, folded, manyLines => return (folded, manyLines)
  | fuel + 1, folded, manyLines => do
      skipBlanks
      match ← peek? with
      | some 'I' =>
          let _ ← take?
          addressFlags fuel true manyLines
      | some 'M' =>
          let _ ← take?
          addressFlags fuel folded true
      | _ => return (folded, manyLines)

def addressPattern (mark : Char) : Reading (Option Matcher) := do
  match ← marked mark true with
  | none => refuse "unterminated address regex".toList
  | some source =>
      let (folded, manyLines) ← addressFlags ((← get).rest.length + 1) false false
      matcher? source folded manyLines 0

def patternAhead? : Reading (Option (Option Matcher)) := do
  match ← peek? with
  | some '/' =>
      let _ ← take?
      return some (← addressPattern '/')
  | some '\\' =>
      let _ ← take?
      match ← take? with
      | some mark => return some (← addressPattern mark)
      | none => refuse "unterminated address regex".toList
  | _ => return none

def address? : Reading (Option Address) := do
  match ← patternAhead? with
  | some matcher => return some (.matching matcher)
  | none =>
      match ← peek? with
      | some '$' =>
          let _ ← take?
          return some .last
      | some c =>
          if c.isDigit then
            let n ← number
            skipBlanks
            if (← peek?) = some '~' then
              let _ ← take?
              skipBlanks
              let step ← number
              return some (if step = 0 then .line n else .every n step)
            else return some (.line n)
          else if c = '+' || c = '~' then
            let _ ← take?
            skipBlanks
            let _ ← number
            refuse "invalid usage of +N or ~N as first address".toList
          else return none
      | none => return none

def rangeEnd : Reading RangeEnd := do
  skipBlanks
  match ← patternAhead? with
  | some matcher => return .matching matcher
  | none =>
      if (← peek?).any Char.isDigit then return .line (← number)
      match ← take? with
      | some '$' => return .last
      | some '+' =>
          skipBlanks
          return .later (← number)
      | some '~' =>
          skipBlanks
          return .multiple (← number)
      | _ => refuse "unexpected `,'".toList

def selection : Reading Selection := do
  match ← address? with
  | none =>
      let others ← bang
      return ⟨none, none, false, others⟩
  | some first =>
      skipBlanks
      let until? : Option RangeEnd ← (do
        if (← peek?) = some ',' then
          let _ ← take?
          let ending ← rangeEnd
          skipBlanks
          return some ending
        else return none : Reading (Option RangeEnd))
      let isZero := match first with | .line 0 => true | _ => false
      let isMatched := match until? with | some (.matching _) => true | _ => false
      if isZero && !isMatched then
        let _ ← take?
        refuse "invalid usage of line address 0".toList
      let others ← bang
      return ⟨some first, until?, isZero, others⟩
where
  bang : Reading Bool := do
    if (← peek?) = some '!' then
      let _ ← take?
      skipBlanks
      if (← peek?) = some '!' then
        let _ ← take?
        refuse "multiple `!'s".toList
      else return true
    else return false

/-- The parts of a replacement, and the greatest group that it names. -/
def parts : Nat → Raw → List Part → List Part × Nat
  | 0, _, kept => (kept.reverse, 0)
  | _ + 1, [], kept => (kept.reverse, 0)
  | fuel + 1, '&' :: rest, kept => parts fuel rest (.group 0 :: kept)
  | fuel + 1, '\\' :: rest, kept =>
      match rest with
      | [] => (kept.reverse, 0)
      | c :: more =>
          if c.isDigit then
            let n := c.toNat - 48
            let (all, most) := parts fuel more (.group n :: kept)
            (all, max n most)
          else
            match casing? c with
            | some casing => parts fuel more (.casing casing :: kept)
            | none =>
                match escape? rest with
                | some (e, after) => parts fuel after (.text [e] :: kept)
                | none => parts fuel more (.text [c] :: kept)
  | fuel + 1, c :: rest, kept => parts fuel rest (.text [c] :: kept)
where
  casing? : Char → Option Casing
    | 'U' => some .upper
    | 'L' => some .lower
    | 'E' => some .asIs
    | 'u' => some .upperOnce
    | 'l' => some .lowerOnce
    | _ => none

structure SubstitutionFlags where
  nth : Nat
  all : Bool
  prints : Bool
  folded : Bool
  manyLines : Bool
  file : Option Raw

def substitutionFlags : Nat → SubstitutionFlags → Reading SubstitutionFlags
  | 0, f => return f
  | fuel + 1, f => do
      match ← peek? with
      | none | some '\x7d' | some '#' => return f
      | some c =>
          if c.isDigit then
            if f.nth ≠ 0 then
              let _ ← take?
              refuse "multiple number options to `s' command".toList
            let n ← number
            if n = 0 then refuse "number option to `s' command may not be zero".toList
            substitutionFlags fuel { f with nth := n }
          else
            let _ ← take?
            match c with
            | '\n' | ';' => return f
            | ' ' | '\t' => substitutionFlags fuel f
            | 'i' | 'I' => substitutionFlags fuel { f with folded := true }
            | 'm' | 'M' => substitutionFlags fuel { f with manyLines := true }
            | 'e' => substitutionFlags fuel f
            | 'p' =>
                if f.prints then refuse "multiple `p' options to `s' command".toList
                else substitutionFlags fuel { f with prints := true }
            | 'g' =>
                if f.all then refuse "multiple `g' options to `s' command".toList
                else substitutionFlags fuel { f with all := true }
            | 'w' =>
                let name ← fileName
                return { f with file := some name }
            | _ => refuse "unknown option to `s'".toList

def opensFile (name : Raw) : Reading Unit :=
  modify fun c => { c with files := if c.files.contains name then c.files else c.files ++ [name] }

def substitution : Reading Action := do
  let unfinished {α : Type} : Reading α := refuse "unterminated `s' command".toList
  match ← take? with
  | none => unfinished
  | some mark =>
      match ← marked mark true with
      | none => unfinished
      | some source =>
          match ← marked mark false with
          | none => unfinished
          | some by' =>
              let letters := Raw.letters by'
              let (parts, references) := parts (letters.length + 1) letters []
              let f ← substitutionFlags ((← get).rest.length + 1) ⟨0, false, false, false, false, none⟩
              match f.file with
              | some name => opensFile name
              | none => pure ()
              let matcher ← matcher? source f.folded f.manyLines references
              return .substitute ⟨matcher, parts, max 1 f.nth, f.all, f.prints, f.file⟩

def recodedSide : List Char → List Char
  | '\\' :: 'n' :: rest => '\n' :: recodedSide rest
  | '\\' :: c :: rest =>
      match Pattern.Dialect.escape? c with
      | some e => e :: recodedSide rest
      | none => c :: recodedSide rest
  | c :: rest => c :: recodedSide rest
  | [] => []

def recoding : Reading Action := do
  let unfinished {α : Type} : Reading α := refuse "unterminated `y' command".toList
  match ← take? with
  | none => unfinished
  | some mark =>
      match ← marked mark false with
      | none => unfinished
      | some source =>
          match ← marked mark false with
          | none => unfinished
          | some target =>
              let sources := recodedSide (Raw.letters source)
              let targets := recodedSide (Raw.letters target)
              if sources.length ≠ targets.length then
                refuse "strings for `y' command are different lengths".toList
              endCommand
              return .recode (sources.zip targets)

def commandText : Reading Raw := do
  skipBlanks
  match ← peek? with
  | none => refuse "expected \\ after `a', `c' or `i'".toList
  | some '\\' =>
      let _ ← take?
      match ← peek? with
      | none =>
          modify fun c => { c with textPending := true }
          return []
      | some '\n' =>
          let _ ← take?
          if (← get).rest.isEmpty then
            modify fun c => { c with textPending := true }
            return []
          else textToEnd
      | some _ => textToEnd
  | some _ => textToEnd

def action (letter : Char) (selection : Selection) : Reading (Option Action) := do
  let plain (a : Action) : Reading (Option Action) := do
    endCommand
    return some a
  let one : Reading Unit := do
    if selection.until?.isSome then refuse "command only uses one address".toList
  match letter with
  | '=' => plain .number
  | 'd' => plain .delete
  | 'D' => plain .deleteFirst
  | 'F' => plain .fileName
  | 'g' => plain .take
  | 'G' => plain .takeAppended
  | 'h' => plain .keep
  | 'H' => plain .keepAppended
  | 'n' => plain .next
  | 'N' => plain .nextAppended
  | 'p' => plain .print
  | 'P' => plain .printFirst
  | 'x' => plain .exchange
  | 'z' => plain .empty
  | 'a' => return some (.append (← commandText))
  | 'i' => return some (.insert (← commandText))
  | 'c' => return some (.change (← commandText))
  | 's' => return some (← substitution)
  | 'y' => return some (← recoding)
  | 'l' =>
      skipBlanks
      let digits ← skip Char.isDigit
      plain (.list (if digits.isEmpty then 70 else Raw.digitsValue digits))
  | 'q' | 'Q' =>
      one
      skipBlanks
      let status ← number
      plain (.quit (status % 256) (letter = 'Q'))
  | 'r' => return some (.readFile (← fileName))
  | 'R' => return some (.readLine (← fileName))
  | 'w' | 'W' =>
      let name ← fileName
      opensFile name
      return some (if letter = 'w' then .write name else .writeFirst name)
  | 'b' | 't' | 'T' =>
      let name ← label
      endCommand
      return some (match letter with
        | 'b' => .jump name
        | 't' => .jumpIf true name
        | _ => .jumpIf false name)
  | ':' =>
      if selection.first.isSome then refuse ": doesn't want any addresses".toList
      let name ← label
      if name.isEmpty then refuse "\":\" lacks a label".toList
      return some (.label name)
  | 'v' =>
      let _ ← label
      plain .nothing
  | _ => return none

def command : Reading Unit := do
  let selection ← selection
  skipBlanks
  let add (c : Command) : Reading Unit :=
    modify fun course => { course with commands := c :: course.commands, count := course.count + 1 }
  match ← take? with
  | none => refuse "missing command".toList
  | some '\n' => refuse "missing command".toList
  | some '#' =>
      if selection.first.isSome then refuse "comments don't accept any addresses".toList
      let course ← get
      let text ← skip (· ≠ '\n')
      if course.taken = 1 && course.count = 0 && text.head? = some 'n' then
        match course.origin with
        | .expression 1 | .file _ => modify fun c => { c with silent := true }
        | _ => pure ()
  | some '\x7b' =>
      modify fun c => { c with blocks := (c.count, c.origin) :: c.blocks }
      add ⟨selection, .block 0⟩
  | some '\x7d' =>
      match (← get).blocks with
      | [] => refuse "unexpected `\x7d'".toList
      | (place, _) :: blocks =>
          if selection.first.isSome then
            refuse "`\x7d' doesn't want any addresses".toList
          endCommand
          modify fun c => { c with
            blocks, commands := closeBlock (c.count - 1 - place) c.count c.commands }
  | some letter =>
      match ← action letter selection with
      | some action => add ⟨selection, action⟩
      | none => refuse ("unknown command: `".toList ++ [letter, '\''])
where
  closeBlock (index next : Nat) (commands : List Command) : List Command :=
    commands.modify index fun c => { c with action := .block next }

def commands : Nat → Reading Unit
  | 0 => return ()
  | fuel + 1 => do
      let _ ← skip fun c => Raw.isSpace c || c = ';'
      match ← peek? with
      | none => return ()
      | some _ =>
          command
          commands fuel

def withText (text : Raw) (c : Command) : Command :=
  match c.action with
  | .append _ => { c with action := .append text }
  | .insert _ => { c with action := .insert text }
  | .change _ => { c with action := .change text }
  | _ => c

def source (origin : Origin) (text : Raw) : Reading Unit := do
  modify fun c => { c with origin, rest := text, taken := 0, lines := 0 }
  if (← get).textPending then
    let more ← textToEnd
    modify fun c => { c with
      textPending := false, commands := c.commands.modify 0 (withText more) }
  commands (text.length + 1)

def sources : List (Origin × Raw) → Reading Unit
  | [] => return ()
  | (origin, text) :: rest => do
      source origin text
      sources rest

structure Script where
  commands : Array Command
  silent : Bool
  files : List Raw

/-- The script that sources write, in the extended dialect or the plain one. -/
def read (extended : Bool) (texts : List (Origin × Raw)) : Except Flaw Script := do
  let start : Course := ⟨.expression 1, [], 0, 0, extended, [], 0, [], false, false, []⟩
  let ((), course) ← (sources texts).run start
  match course.blocks.head? with
  | some (_, origin) => throw ⟨origin, 0, "unmatched `\x7b'".toList⟩
  | none => return ⟨course.commands.reverse.toArray, course.silent, course.files⟩

end LintBridge.Edit
