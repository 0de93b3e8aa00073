import LintBridge.Bench.Shell.Field

/-!
# Lines and arguments taken apart

How a line of the input is given out to variables, and how arguments are taken for
options one after the other.
-/

set_option autoImplicit false

namespace LintBridge.Shell

/-- The segments of a line.  A backslash protects the character behind it unless lines
are taken as they are. -/
def lineSegments (exact : Bool) : Raw → List Segment
  | [] => []
  | '\\' :: rest =>
      if exact then .loose '\\' :: lineSegments exact rest
      else
        match rest with
        | [] => []
        | c :: more => .mark c true :: lineSegments exact more
  | c :: rest => .loose c :: lineSegments exact rest

/-- What is known of a last field behind its first separator: its text so far, the last
character first, and the same where separators at its end may be cut off. -/
structure Tail where
  reversed : Raw
  cut : Option Raw
  afterBlank : Bool
  separated : Bool

def Tail.step (separators : Raw) (t : Tail) (segment : Segment) : Tail :=
  let plain (c : Char) : Tail :=
    ⟨c :: t.reversed, if t.separated then none else t.cut, false, t.separated⟩
  match segment with
  | .loose c =>
      let blank := c = ' ' || c = '\t' || c = '\n'
      if !separators.contains c then plain c
      else if !t.separated then ⟨c :: t.reversed, some t.reversed, blank, true⟩
      else if blank then { t with reversed := c :: t.reversed, cut := some (t.cut.getD t.reversed) }
      else ⟨c :: t.reversed, if t.afterBlank then t.cut else none, false, true⟩
  | .mark c _ => plain c
  | _ => t

/-- The last field: all that is left, without the separators at its end if these are
blanks, or one other separator behind a single field. -/
def lastField (separators : Raw) (segments : List Segment) : Raw :=
  let t := segments.foldl (Tail.step separators) ⟨[], none, false, false⟩
  (t.cut.getD t.reversed).reverse

/-- The fields of a line, so many of which are cut off before the last one. -/
def fieldsUpTo (separators : Raw) (count : Nat) : Cutting → List Segment → List Raw
  | c, [] => c.fields.map unmarked
  | c, segment :: rest =>
      let next := c.step separators segment
      if c.complete.length = count && !c.begun
          && (next.begun || next.complete.length ≠ count) then
        c.complete.reverse.map unmarked ++ [lastField separators (segment :: rest)]
      else fieldsUpTo separators count next rest

def distribute (s : State) (names : List String) (segments : List Segment) : State :=
  let fields := fieldsUpTo s.separators (names.length - 1) .start segments
  (names.zip (List.range names.length)).foldl
    (fun s (name, i) => s.tryAssign name (fields[i]?.getD [])) s

/-- A line of the input and whether it had an end; a backslash at its end goes on with
the next line unless lines are taken as they are. -/
def takeLogicalLine (exact : Bool) : Nat → State → (Raw × Bool) × State
  | 0, s => (([], false), s)
  | fuel + 1, s =>
      let ((line, ended), s) := s.takeLine
      let unfinished := !exact && ended && (line.reverse.takeWhile (· = '\\')).length % 2 = 1
      if unfinished then
        let ((more, ended), s) := takeLogicalLine exact fuel s
        ((line.dropLast ++ more, ended), s)
      else ((line, ended), s)

def mostJoined : Nat :=
  1000000

def readLine (exact : Bool) (names : List String) (s : State) : State :=
  let ((line, ended), s) := takeLogicalLine exact mostJoined s
  let after := distribute s names (lineSegments exact (line.filter (· ≠ '\x00')))
  if after.flow = .go then after.done (if ended then 0 else 1) else after

/-- The place of a search for options: the next argument, counted from one, and how many
letters of the one before are taken already. -/
structure OptionPlace where
  index : Nat
  taken : Nat

structure OptionFound where
  letter : Char
  value : Option Raw
  place : OptionPlace
  ended : Bool
  complaint : Option Raw

def tableEntry? (c : Char) : List Char → Option Bool
  | [] => none
  | [d] => if c = d then some false else none
  | d :: ':' :: rest => if c = d then some true else tableEntry? c rest
  | d :: e :: rest => if c = d then some false else tableEntry? c (e :: rest)

/-- Looks at a letter that stands in front of the rest of an argument, which is followed
by the argument of an index. -/
def optionAt (table : List Char) (args : List Raw) (c : Char) (rest : Raw) (index taken : Nat) :
    OptionFound :=
  let quiet := table.head? = some ':'
  let letters := if quiet then table.drop 1 else table
  let within : OptionPlace := ⟨index, if rest.isEmpty then 0 else taken + 1⟩
  match if c = ':' then none else tableEntry? c letters with
  | none =>
      if quiet then ⟨'?', some [c], within, false, none⟩
      else ⟨'?', none, within, false, some ("Illegal option -".toList ++ [c, '\n'])⟩
  | some false => ⟨c, some [], within, false, none⟩
  | some true =>
      if !rest.isEmpty then ⟨c, some rest, ⟨index, 0⟩, false, none⟩
      else
        match args[index - 1]? with
        | some value => ⟨c, some value, ⟨index + 1, 0⟩, false, none⟩
        | none =>
            if quiet then ⟨':', some [c], ⟨index, 0⟩, false, none⟩
            else
              ⟨'?', none, ⟨index, 0⟩, false,
                some ("No arg for -".toList ++ c :: " option\n".toList)⟩

def nextOption (table : List Char) (args : List Raw) (place : OptionPlace) : OptionFound :=
  let fresh : OptionFound :=
    let finished (index : Nat) : OptionFound := ⟨'?', none, ⟨index, 0⟩, true, none⟩
    match args[place.index - 1]? with
    | some ['-', '-'] => finished (place.index + 1)
    | some ('-' :: c :: rest) => optionAt table args c rest (place.index + 1) 1
    | _ => finished place.index
  if place.taken = 0 || place.index ≤ 1 then fresh
  else
    match (args[place.index - 2]?.getD []).drop place.taken with
    | c :: rest => optionAt table args c rest place.index place.taken
    | [] => fresh

end LintBridge.Shell
