import LintBridge.Bench.Pattern.Dialect
import LintBridge.Bench.Tool.Making

/-!
# Conditions on files

What a search in directories asks of each file: conditions that are put together from
criteria, some of which do something.  Here is how they are read.
-/

set_option autoImplicit false

namespace LintBridge.Shell.Walk

open Pattern (Dialect Regex)

structure Range where
  below : Bool
  above : Bool
  number : Nat

def Range.admits (r : Range) (n : Nat) : Bool :=
  if r.below then n < r.number else if r.above then r.number < n else n = r.number

inductive Criterion where
  | constant (truth : Bool)
  | name (pattern : Raw) (folded : Bool)
  | path (pattern : Raw) (folded : Bool)
  | aim (pattern : Raw) (folded : Bool)
  | regex (pattern : Regex) (folded : Bool)
  | kind (letters : List Char) (followed : Bool)
  | empty
  | size (range : Range) (unit : Nat)
  | links (range : Range)
  /-- The rights, as octal digits, and whether all or some of them are enough. -/
  | rights (mode : Nat) (all any : Bool)
  | runnable
  | same (location : Location)
  | print (mark : Char)
  | format (source : Raw)
  /-- Starts a command for the file, in its directory where `inside` is set. -/
  | run (words : List Raw) (inside : Bool)
  | gather (id : Nat) (words : List Raw)
  | delete
  | prune
  | quit

def Criterion.acts : Criterion → Bool
  | .print _ | .format _ | .run _ _ | .gather _ _ | .delete => true
  | _ => false

inductive Condition where
  | one (criterion : Criterion)
  | not (inner : Condition)
  | both (first second : Condition)
  | either (first second : Condition)
  | behind (first second : Condition)

structure Manner where
  followsRoots : Bool
  followsAll : Bool
  least : Nat
  most : Option Nat
  insideFirst : Bool
  extended : Bool

structure Place where
  words : List Raw
  last : Raw
  manner : Manner
  acts : Bool

/-- Reads part of a condition; the error is what is said. -/
abbrev Reading := StateT Place (Except Raw)

def fault {α : Type} (text : Raw) : Reading α :=
  throw text

def marked (raw : Raw) : Raw :=
  '\x60' :: raw ++ ['\'']

def argument : Reading Raw := do
  let p ← get
  match p.words with
  | [] => fault ("missing argument to ".toList ++ marked p.last)
  | word :: rest =>
      set { p with words := rest }
      return word

def range (word : Raw) : Option (Range × Raw) :=
  let (below, above, text) : Bool × Bool × Raw :=
    match word with
    | '-' :: text => (true, false, text)
    | '+' :: text => (false, true, text)
    | text => (false, false, text)
  let digits := text.takeWhile Char.isDigit
  if digits.isEmpty then none
  else some (⟨below, above, Raw.digitsValue digits⟩, text.drop digits.length)

def wholeRange (name word : Raw) : Reading Range :=
  match range word with
  | some (r, []) => return r
  | _ => fault ("invalid argument ".toList ++ marked word ++ " to ".toList ++ marked name)

def sizeOf (word : Raw) : Reading Criterion :=
  let badUnit (c : Char) : Reading Criterion :=
    fault ("invalid -size type ".toList ++ marked [c])
  match range word with
  | none => badUnit (word.getLast?.getD 'b')
  | some (r, []) => return .size r 512
  | some (r, unit) =>
      match unit with
      | ['c'] => return .size r 1
      | ['w'] => return .size r 2
      | ['b'] => return .size r 512
      | ['k'] => return .size r 1024
      | ['M'] => return .size r 1048576
      | ['G'] => return .size r 1073741824
      | _ => badUnit (unit.getLast?.getD 'b')

def kindLetters (name : Raw) : List Raw → Reading (List Char)
  | [] => return []
  | [[]] => fault ("Last file type in list argument to ".toList ++ name
      ++ " is missing, i.e., list is ending on: ','".toList)
  | [letter] :: rest =>
      if "bcdpflsD".toList.contains letter then return letter :: (← kindLetters name rest)
      else fault ("Unknown argument to ".toList ++ name ++ ':' :: ' ' :: [letter])
  | _ => fault ("Must separate multiple arguments to ".toList ++ name ++ " using: ','".toList)

def kindOf (followed : Bool) : Reading Criterion := do
  let name := (← get).last
  let word ← argument
  if word.isEmpty then
    fault ("Arguments to ".toList ++ name ++ " should contain at least one letter".toList)
  else return .kind (← kindLetters name (Raw.split ',' word)) followed

def rightsOf (word : Raw) : Reading Criterion :=
  let (all, any, text) : Bool × Bool × Raw :=
    match word with
    | '-' :: text => (true, false, text)
    | '/' :: text => (false, true, text)
    | text => (false, false, text)
  if !text.isEmpty && text.all (fun c => '0' ≤ c && c ≤ '7') then
    return .rights (text.foldl (fun n c => n * 8 + (c.toNat - 48)) 0) all any
  else
    match Tool.Rights.reader? text with
    | some _ =>
        let bits (who : List Char) : Nat :=
          let bit (letter : Char) (value : Nat) : Nat :=
            if who.contains letter || who.contains 'a' || text.head? = some '+' then value else 0
          bit 'u' 64 + bit 'g' 8 + bit 'o' 1
        let who := text.takeWhile "ugoa".toList.contains
        let letters := text.drop who.length
        let factor :=
          (if letters.contains 'r' then 4 else 0) + (if letters.contains 'w' then 2 else 0)
            + (if letters.contains 'x' then 1 else 0)
        return .rights (bits who * factor) all any
    | none => fault ("invalid mode ".toList ++ Tool.quote word)

def depth : Reading Nat := do
  let name := (← get).last
  let word ← argument
  match Raw.nat? word with
  | some n => return n
  | none =>
      fault ("Expected a positive decimal integer argument to ".toList ++ name ++ ", but got ".toList
        ++ Tool.quote word)

def placeOf (t : Errand) (word : Raw) : Reading Location :=
  match t.node? word with
  | .ok found => return found.1
  | .error e => fault (Tool.quote word ++ ':' :: ' ' :: e.reason)

/-- The words of a command up to its end, and whether it is one for all files. -/
def commandWords (name : Raw) : List Raw → List Raw → Reading (List Raw × Bool)
  | [';'] :: rest, before => finish before false rest
  | ['+'] :: rest, ['\x7b', '\x7d'] :: before => finish before true rest
  | word :: rest, before => commandWords name rest (word :: before)
  | [], _ => fault ("missing argument to ".toList ++ marked name)
where
  finish (before : List Raw) (all : Bool) (rest : List Raw) : Reading (List Raw × Bool) := do
    if before.isEmpty then fault ("missing argument to ".toList ++ marked name)
    else
      modify fun p => { p with words := rest }
      return (before.reverse, all)

def command (inside : Bool) : Reading Criterion := do
  let p ← get
  let (words, all) ← commandWords p.last p.words []
  return if all then .gather p.words.length words else .run words inside

def repeating : List Char → List Char
  | '\\' :: c :: rest => '\\' :: c :: repeating rest
  | c :: rest => if c = '+' || c = '?' then '\\' :: c :: repeating rest else c :: repeating rest
  | [] => []

def pattern (folded : Bool) : Reading Criterion := do
  let word ← argument
  let extended := (← get).manner.extended
  let letters := Raw.letters word
  let found :=
    if extended then Dialect.extendedOnly.read letters else Dialect.plain.read (repeating letters)
  match found with
  | .ok (regex, _) => return .regex regex folded
  | .error trouble => fault trouble.message.toList

def setManner (change : Manner → Manner) : Reading Criterion := do
  modify fun p => { p with manner := change p.manner }
  return .constant true

def owner (what : String) : Reading Criterion := do
  let word ← argument
  if word = "root".toList || word = ['0'] then return .constant true
  else if (Raw.nat? word).isSome then return .constant false
  else
    fault (Tool.quote word ++ " is not the name of ".toList
      ++ (if what = "user" then "a known user" else "an existing group").toList)

def criterion (t : Errand) (name : String) : Reading Criterion := do
  match name with
  | "-true" | "-xdev" | "-mount" | "-noleaf" | "-daystart" | "-warn" | "-nowarn"
  | "-ignore_readdir_race" | "-readable" | "-writable" => return .constant true
  | "-false" | "-nouser" | "-nogroup" => return .constant false
  | "-name" => return .name (← argument) false
  | "-iname" => return .name (← argument) true
  | "-path" | "-wholename" => return .path (← argument) false
  | "-ipath" | "-iwholename" => return .path (← argument) true
  | "-lname" => return .aim (← argument) false
  | "-ilname" => return .aim (← argument) true
  | "-regex" => pattern false
  | "-iregex" => pattern true
  | "-regextype" =>
      let word ← argument
      setManner ({ · with
        extended := ["posix-extended", "egrep", "posix-egrep", "awk", "posix-awk", "gnu-awk"].contains
          (String.ofList word) })
  | "-type" => kindOf false
  | "-xtype" => kindOf true
  | "-empty" => return .empty
  | "-size" => sizeOf (← argument)
  | "-links" => return .links (← wholeRange name.toList (← argument))
  | "-perm" => rightsOf (← argument)
  | "-executable" => return .runnable
  | "-samefile" => return .same (← placeOf t (← argument))
  | "-newer" | "-anewer" | "-cnewer" =>
      let _ ← placeOf t (← argument)
      return .constant false
  | "-mtime" | "-atime" | "-ctime" | "-mmin" | "-amin" | "-cmin" | "-used" =>
      return .constant ((← wholeRange name.toList (← argument)).admits 0)
  | "-inum" =>
      let _ ← wholeRange name.toList (← argument)
      return .constant false
  | "-user" | "-uid" => owner "user"
  | "-group" | "-gid" => owner "group"
  | "-fstype" =>
      let _ ← argument
      return .constant true
  | "-follow" => setManner ({ · with followsAll := true })
  | "-depth" | "-d" => setManner ({ · with insideFirst := true })
  | "-maxdepth" =>
      let n ← depth
      setManner ({ · with most := some n })
  | "-mindepth" =>
      let n ← depth
      setManner ({ · with least := n })
  | "-print" => return .print '\n'
  | "-print0" => return .print '\x00'
  | "-printf" => return .format (← argument)
  | "-exec" => command false
  | "-execdir" => command true
  | "-delete" =>
      let _ ← setManner ({ · with insideFirst := true })
      return .delete
  | "-prune" => return .prune
  | "-quit" => return .quit
  | name => fault ("unknown predicate ".toList ++ marked name.toList)

def takeOneOf (words : List String) : Reading Bool := do
  let p ← get
  match p.words with
  | word :: rest =>
      if words.contains (String.ofList word) then
        set { p with words := rest, last := word }
        return true
      else return false
  | [] => return false

def isSign (word : Raw) : Bool :=
  ["-o", "-or", "-a", "-and", "!", "-not", ","].contains (String.ofList word)

def lacking : Reading Condition := do
  let p ← get
  let quoted (word : Raw) : Raw := '\'' :: word ++ ['\'']
  match p.words with
  | [] =>
      if p.last = ['('] then
        fault "invalid expression; I was expecting to find a ')' somewhere but did not see one.".toList
      else fault ("expected an expression after ".toList ++ quoted p.last)
  | word :: _ =>
      if word = [')'] then
        if p.last = ['('] then
          fault "invalid expression; empty parentheses are not allowed.".toList
        else if isSign p.last then
          fault ("expected an expression between ".toList ++ quoted p.last ++ " and ')'".toList)
        else fault "you have too many ')'".toList
      else
        fault ("invalid expression; you have used a binary operator ".toList ++ quoted word
          ++ " with nothing before it.".toList)

mutual

def row (t : Errand) : Nat → Reading Condition
  | 0 => lacking
  | fuel + 1 => do
      let first ← choice t fuel
      if ← takeOneOf [","] then return .behind first (← row t fuel) else return first

def choice (t : Errand) : Nat → Reading Condition
  | 0 => lacking
  | fuel + 1 => do
      let first ← chain t fuel
      if ← takeOneOf ["-o", "-or"] then return .either first (← choice t fuel) else return first

def chain (t : Errand) : Nat → Reading Condition
  | 0 => lacking
  | fuel + 1 => do
      let first ← single t fuel
      if ← takeOneOf ["-a", "-and"] then return .both first (← chain t fuel)
      else
        match (← get).words with
        | [] => return first
        | word :: _ =>
            if [")", "-o", "-or", ","].contains (String.ofList word) then return first
            else return .both first (← chain t fuel)

/-- A criterion, the opposite of a condition, or a condition in brackets. -/
def single (t : Errand) : Nat → Reading Condition
  | 0 => lacking
  | fuel + 1 => do
      let p ← get
      match p.words with
      | [] => lacking
      | word :: rest =>
          let name := String.ofList word
          if [")", "-o", "-or", "-a", "-and", ","].contains name then lacking
          else
            set { p with words := rest, last := word }
            if name = "!" || name = "-not" then return .not (← single t fuel)
            else if name = "(" then
              let inner ← row t fuel
              if ← takeOneOf [")"] then return inner
              else
                fault "invalid expression; I was expecting to find a ')' somewhere but did not see one.".toList
            else if word.head? = some '-' then
              let found ← criterion t name
              modify fun q => { q with acts := q.acts || found.acts }
              return .one found
            else
              let hint : Raw :=
                if ["-name", "-iname", "-path"].contains (String.ofList p.last) then
                  '\n' :: t.name ++ ": possible unquoted pattern after predicate ".toList
                    ++ marked p.last ++ ['?']
                else []
              fault ("paths must precede expression: ".toList ++ marked word ++ hint)

end

/-- The condition that words make, with how the search is to go; results are written where
nothing else is done. -/
def conditionOf (t : Errand) (manner : Manner) (words : List Raw) :
    Except Raw (Condition × Manner) := do
  if words.isEmpty then return (.one (.print '\n'), manner)
  let (found, p) ← (row t (6 * words.length + 6)).run ⟨words, [], manner, false⟩
  if !p.words.isEmpty then throw "you have too many ')'".toList
  return (if p.acts then found else .both found (.one (.print '\n')), p.manner)

end LintBridge.Shell.Walk
