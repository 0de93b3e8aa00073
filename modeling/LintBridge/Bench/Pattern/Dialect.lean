import LintBridge.Bench.Pattern.Regex

/-!
# Dialects of line patterns

How patterns of lines are written.  In the plain dialect groups, choices and counts
stand behind backslashes, in the extended one they stand alone, and a backslash takes
their meaning away.
-/

set_option autoImplicit false

namespace LintBridge.Pattern

structure Dialect where
  extended : Bool
  /-- Letters behind a backslash write characters such as the end of a line. -/
  escapes : Bool
  escapesInSets : Bool
  insists : Bool
  deriving DecidableEq, Repr

namespace Dialect

def plain : Dialect :=
  ⟨false, false, false, false⟩

def extendedOnly : Dialect :=
  ⟨true, false, false, false⟩

end Dialect

inductive Trouble where
  | emptySet
  | openSet
  | openGroup
  | closeGroup
  | openCount
  | badCount
  | nothingToRepeat
  | badReference
  | badRange
  | badKind
  | trailingBackslash
  deriving DecidableEq, Repr

def Trouble.message : Trouble → String
  | emptySet => "Invalid regular expression"
  | openSet => "Unmatched [, [^, [:, [., or [="
  | openGroup => "Unmatched ( or \\("
  | closeGroup => "Unmatched ) or \\)"
  | openCount => "Unmatched \\\x7b"
  | badCount => "Invalid content of \\\x7b\\\x7d"
  | nothingToRepeat => "Invalid preceding regular expression"
  | badReference => "Invalid back reference"
  | badRange => "Invalid range end"
  | badKind => "Invalid character class name"
  | trailingBackslash => "Trailing backslash"

namespace Dialect

def escape? : Char → Option Char
  | 'n' => some '\n'
  | 't' => some '\t'
  | 'r' => some '\r'
  | 'f' => some '\x0c'
  | 'v' => some '\x0b'
  | 'a' => some '\x07'
  | _ => none

def digitOf? (base : Nat) (c : Char) : Option Nat :=
  let n :=
    if c.isDigit then c.toNat - 48
    else if 'a' ≤ c.toLower && c.toLower ≤ 'f' then c.toLower.toNat - 87
    else 99
  if n < base then some n else none

/-- The number that up to so many digits of a base write, and what follows them. -/
def shortNumber (base : Nat) : Nat → Nat → List Char → Nat × List Char
  | 0, value, rest => (value, rest)
  | _, value, [] => (value, [])
  | n + 1, value, c :: rest =>
      match digitOf? base c with
      | some d => shortNumber base n (value * base + d) rest
      | none => (value, c :: rest)

/-- The character that what stands behind a backslash writes by its number, and what
follows. -/
def numbered? (source : List Char) : Option (Char × List Char) :=
  let ofBase (base digits : Nat) (rest : List Char) : Option (Char × List Char) :=
    if (rest.head?.bind (digitOf? base)).isNone then none
    else
      let (value, after) := shortNumber base digits 0 rest
      some (Char.ofNat (value % 256), after)
  match source with
  | 'x' :: rest => ofBase 16 2 rest
  | 'o' :: rest => ofBase 8 3 rest
  | 'd' :: rest => ofBase 10 3 rest
  | 'c' :: c :: rest => some (Char.ofNat (Nat.xor c.toUpper.toNat 64), rest)
  | _ => none

/-- What is left of a pattern, and its groups: how many there are, and which are
complete. -/
structure Course where
  rest : List Char
  groups : Nat
  complete : List Nat
  /-- Signs of repetition that had nothing to repeat, the last one first. -/
  idle : List String

abbrev Reading (α : Type) := StateT Course (Except Trouble) α

def rest : Reading (List Char) :=
  return (← get).rest

def goTo (rest : List Char) : Reading Unit :=
  modify fun course => { course with rest }

def take? (text : List Char) : Reading Bool := do
  let source ← rest
  if text.isPrefixOf source then
    goTo (source.drop text.length)
    return true
  else return false

/-- A sign of the dialect: behind a backslash where the dialect is plain. -/
def sign (d : Dialect) (c : Char) : List Char :=
  if d.extended then [c] else ['\\', c]

def isNext (text : List Char) : Reading Bool :=
  return text.isPrefixOf (← rest)

/-- A member of a set that is a single character, perhaps behind a backslash. -/
def memberChar (d : Dialect) : List Char → Option (Char × List Char)
  | '\\' :: c :: after =>
      match if d.escapes then escape? c else none with
      | some e => some (e, after)
      | none => if d.escapesInSets then some (c, after) else some ('\\', c :: after)
  | '[' :: '.' :: c :: '.' :: ']' :: after => some (c, after)
  | '[' :: '=' :: c :: '=' :: ']' :: after => some (c, after)
  | c :: after => some (c, after)
  | [] => none

/-- The members of a set up to its end; the first one may be a closing bracket. -/
def members (d : Dialect) : Nat → Bool → List Char → Except Trouble (List Member × List Char)
  | 0, _, _ => .error .openSet
  | _ + 1, _, [] => .error .openSet
  | fuel + 1, first, c :: after =>
      if c = ']' && !first then .ok ([], after)
      else if ['[', ':'].isPrefixOf (c :: after) then
        match kindAt? (c :: after) with
        | some (name, after) =>
            if (kind? name).isNone then .error .badKind
            else (members d fuel false after).map fun r => (.kind name :: r.1, r.2)
        | none => .error .openSet
      else
        match memberChar d (c :: after) with
        | none => .error .openSet
        | some (low, after) =>
            match after with
            | '-' :: ']' :: _ => (members d fuel false after).map fun r => (.range low low :: r.1, r.2)
            | '-' :: more =>
                match memberChar d more with
                | none => .error .openSet
                | some (high, after) =>
                    if high < low then .error .badRange
                    else (members d fuel false after).map fun r => (.range low high :: r.1, r.2)
            | _ => (members d fuel false after).map fun r => (.range low low :: r.1, r.2)

def set (d : Dialect) : Reading Regex := do
  let others ← take? ['^']
  let source ← rest
  if source.isEmpty then throw .emptySet
  let (list, after) ← (members d (source.length + 1) true source : Except Trouble _)
  goTo after
  return .oneOf ⟨others, list⟩

def number? : Reading (Option Nat) := do
  let source ← rest
  let digits := source.takeWhile Char.isDigit
  goTo (source.drop digits.length)
  return Raw.nat? digits

def limits (d : Dialect) : Reading (Nat × Option Nat) := do
  let least ← number?
  let (low, most) ← (do
    if ← take? [','] then return (least.getD 0, ← number?)
    else
      match least with
      | some n => return (n, some n)
      | none => throw (if (← rest).isEmpty then .openCount else .badCount) :
      Reading (Nat × Option Nat))
  let close := if d.extended then ['\x7d'] else ['\\', '\x7d']
  if !(← take? close) then throw (if (← rest).isEmpty then .openCount else .badCount)
  match most with
  | some n => if n < low then throw .badCount
  | none => pure ()
  return (low, most)

def holdsLimits (source : List Char) : Bool :=
  match source with
  | '\x7b' :: inner =>
      let low := inner.takeWhile Char.isDigit
      match inner.drop low.length with
      | '\x7d' :: _ => !low.isEmpty
      | ',' :: more =>
          match more.dropWhile Char.isDigit with
          | '\x7d' :: _ => true
          | _ => false
      | _ => false
  | _ => false

def repetition? (d : Dialect) : Reading (Option (Nat × Option Nat)) := do
  if ← take? ['*'] then return some (0, none)
  else if ← take? (d.sign '+') then return some (1, none)
  else if ← take? (d.sign '?') then return some (0, some 1)
  else if d.extended then
    if d.insists && (← isNext ['\x7b']) || holdsLimits (← rest) then
      let _ ← take? ['\x7b']
      return some (← limits d)
    else return none
  else if ← take? ['\\', '\x7b'] then return some (← limits d)
  else return none

def withRepetitions (d : Dialect) : Nat → Regex → Reading Regex
  | 0, part => return part
  | fuel + 1, part => do
      match ← repetition? d with
      | some (least, most) => withRepetitions d fuel (.repeated part least most)
      | none => return part

def escaped (d : Dialect) (c : Char) : Reading Regex := do
  let kindOf (name : String) (others : Bool) : Regex := .oneOf ⟨others, [.kind name]⟩
  let behind ← rest
  if c.isDigit && c ≠ '0' then
    let n := c.toNat - 48
    if (← get).complete.contains n then return .again n else throw .badReference
  else
    match c with
    | 'w' => return .oneOf ⟨false, [.kind "alnum", .range '_' '_']⟩
    | 'W' => return .oneOf ⟨true, [.kind "alnum", .range '_' '_']⟩
    | 's' => return kindOf "space" false
    | 'S' => return kindOf "space" true
    | 'b' => return .wordEdge true
    | 'B' => return .wordEdge false
    | '<' => return .wordBegin
    | '>' => return .wordEnd
    | '\x60' => return .textBegin
    | '\'' => return .textEnd
    | c =>
        match if d.escapes then escape? c else none with
        | some e => return .one e
        | none =>
            match if d.escapes then numbered? (c :: behind) else none with
            | some (e, after) =>
                goTo after
                return .one e
            | none => return .one c

def endsBranch (d : Dialect) : Reading Bool := do
  let source ← rest
  return source.isEmpty || (d.sign ')').isPrefixOf source || (d.sign '|').isPrefixOf source

mutual

def branches (d : Dialect) : Nat → Nat → Reading Regex
  | 0, _ => throw .openGroup
  | fuel + 1, depth => do
      let first ← branch d fuel depth true .nothing
      if ← take? (d.sign '|') then return .choice first (← branches d fuel depth)
      else return first

def branch (d : Dialect) : Nat → Nat → Bool → Regex → Reading Regex
  | 0, _, _, _ => throw .openGroup
  | fuel + 1, depth, begins, before => do
      let source ← rest
      if source.isEmpty || (d.sign '|').isPrefixOf source then return before
      else if (d.sign ')').isPrefixOf source then
        if depth = 0 then throw .closeGroup else return before
      else
        let (next, isAnchor) ← part d fuel depth begins
        let next ← if isAnchor then pure next else withRepetitions d (source.length + 1) next
        branch d fuel depth isAnchor (match before with | .nothing => next | b => .chain b next)

/-- One part of a branch, and whether it is the beginning of a line, behind which a
star of the plain dialect is only a star. -/
def part (d : Dialect) : Nat → Nat → Bool → Reading (Regex × Bool)
  | 0, _, _ => throw .openGroup
  | fuel + 1, depth, begins => do
      if ← take? (d.sign '(') then
        let number := (← get).groups + 1
        modify fun course => { course with groups := number }
        let inner ← branches d fuel (depth + 1)
        if !(← take? (d.sign ')')) then throw .openGroup
        modify fun course => { course with complete := number :: course.complete }
        return (.group number inner, false)
      else
        match ← rest with
        | [] => return (.nothing, false)
        | '[' :: after =>
            goTo after
            return (← set d, false)
        | '.' :: after =>
            goTo after
            return (.any, false)
        | '\\' :: after =>
            match after with
            | [] => throw .trailingBackslash
            | c :: more =>
                goTo more
                return (← escaped d c, false)
        | '^' :: after =>
            goTo after
            return if d.extended || begins then (.lineBegin, true) else (.one '^', false)
        | '$' :: after =>
            goTo after
            if d.extended || (← endsBranch d) then return (.lineEnd, false)
            else return (.one '$', false)
        | c :: after =>
            goTo after
            if d.extended && begins && d.insists && "*+?\x7b".toList.contains c then
              throw .nothingToRepeat
            else if d.extended && begins && "*+?".toList.contains c then
              skip (String.singleton c)
            else if d.extended && begins && holdsLimits (c :: after) then
              let _ ← limits d
              skip "\x7b...\x7d"
            else return (.one c, false)
where
  skip (sign : String) : Reading (Regex × Bool) := do
    modify fun course => { course with idle := sign :: course.idle }
    return (.nothing, false)

end

def course (d : Dialect) (source : List Char) : Except Trouble (Regex × Course) :=
  (branches d (4 * source.length + 8) 0).run ⟨source, 0, [], []⟩

def read (d : Dialect) (source : List Char) : Except Trouble (Regex × Nat) :=
  (course d source).map fun found => (found.1, found.2.groups)

end Dialect

end LintBridge.Pattern
