import LintBridge.Bench.Raw

/-!
# Patterns of names

The sets of characters in square brackets, and the patterns that names are matched with.
-/

set_option autoImplicit false

/-!
## Kinds of characters

The members of a set in square brackets: single characters, ranges, and the kinds of
characters that have a name.
-/

namespace LintBridge.Pattern

/-- Letters outside of the first 128 characters, by the blocks that hold them. -/
def isFarLetter (c : Char) : Bool :=
  let n := c.toNat
  n = 0xAA || n = 0xB5 || n = 0xBA
    || (0xC0 ≤ n && n < 0x2000 && n ≠ 0xD7 && n ≠ 0xF7)
    || (0x3040 ≤ n && n < 0xD800)

def isLetter (c : Char) : Bool :=
  c.isAlpha || isFarLetter c

def isShown (c : Char) : Bool :=
  (' ' ≤ c && c ≤ '~') || (0xA0 ≤ c.toNat && c.toNat < 0x10FF80)

def isWordPart (c : Char) : Bool :=
  isLetter c || c.isDigit || c = '_'

def kind? (name : String) : Option (Char → Bool) :=
  match name with
  | "alpha" => some isLetter
  | "digit" => some Char.isDigit
  | "alnum" => some fun c => isLetter c || c.isDigit
  | "upper" => some Char.isUpper
  | "lower" => some fun c => c.isLower || (isFarLetter c && 0xDF ≤ c.toNat)
  | "space" => some Raw.isSpace
  | "blank" => some Raw.isBlank
  | "punct" => some fun c => isShown c && c ≠ ' ' && !isLetter c && !c.isDigit
  | "print" => some isShown
  | "graph" => some fun c => isShown c && c ≠ ' '
  | "cntrl" => some fun c => c.toNat < 32 || c.toNat = 127
  | "xdigit" => some fun c => c.isDigit || ('a' ≤ c && c ≤ 'f') || ('A' ≤ c && c ≤ 'F')
  | _ => none

inductive Member where
  | range (first last : Char)
  | kind (name : String)
  deriving DecidableEq, Repr

def Member.admits (c : Char) : Member → Bool
  | range first last => first ≤ c && c ≤ last
  | kind name =>
      match kind? name with
      | some test => test c
      | none => false

structure CharSet where
  others : Bool
  members : List Member
  deriving DecidableEq, Repr

def CharSet.admits (set : CharSet) (c : Char) : Bool :=
  set.members.any (·.admits c) != set.others

def CharSet.admitsFolded (set : CharSet) (c : Char) : Bool :=
  set.members.any (fun m => m.admits c.toLower || m.admits c.toUpper) != set.others

/-- The kind that stands between `[:` and `:]` at the beginning of a text, and what
follows. -/
def kindAt? (source : List Char) : Option (String × List Char) :=
  match source with
  | '[' :: ':' :: rest =>
      let name := rest.takeWhile fun c => 'a' ≤ c && c ≤ 'z'
      match rest.drop name.length with
      | ':' :: ']' :: after => some (String.ofList name, after)
      | _ => none
  | _ => none

end LintBridge.Pattern

/-!
## Patterns of names

A star stands for any text, a question mark for one byte, and square brackets for a byte
of a set.  What is quoted stands for itself.
-/

namespace LintBridge.Pattern

abbrev Mark := Char × Bool

def isOpen (pattern : List Mark) : Bool :=
  pattern.any fun m => !m.2 && (m.1 = '*' || m.1 = '?' || m.1 = '[')

inductive Place where
  | one (c : Char)
  | any
  | many
  | set (set : CharSet)
  deriving DecidableEq, Repr

namespace Name

/-- A character that stands for itself, behind a backslash or not. -/
def single : List Mark → Option (Char × List Mark)
  | ('\\', false) :: (c, _) :: rest => some (c, rest)
  | (c, _) :: rest => some (c, rest)
  | [] => none

def kindAt? (marks : List Mark) : Option (String × List Mark) :=
  match marks with
  | ('[', false) :: (':', false) :: rest =>
      let name := (rest.takeWhile fun m => 'a' ≤ m.1 && m.1 ≤ 'z').map (·.1)
      match rest.drop name.length with
      | (':', _) :: (']', _) :: after => some (String.ofList name, after)
      | _ => none
  | _ => none

/-- The members of a set up to its end, of which at least one is read; none without an
end. -/
def members : Nat → Bool → List Mark → Option (List Member × List Mark)
  | 0, _, _ => none
  | _ + 1, _, [] => none
  | fuel + 1, first, mark :: rest =>
      if mark = (']', false) && !first then some ([], rest)
      else
        match kindAt? (mark :: rest) with
        | some (name, after) => (members fuel false after).map fun r => (.kind name :: r.1, r.2)
        | none => do
            let (low, after) ← single (mark :: rest)
            match after with
            | ('-', _) :: next :: more =>
                if next = (']', false) then
                  (members fuel false after).map fun r => (.range low low :: r.1, r.2)
                else do
                  let (high, after) ← single (next :: more)
                  (members fuel false after).map fun r => (.range low high :: r.1, r.2)
            | _ => (members fuel false after).map fun r => (.range low low :: r.1, r.2)

def set? (marks : List Mark) : Option (CharSet × List Mark) :=
  let (others, rest) : Bool × List Mark :=
    match marks with
    | ('!', false) :: rest => (true, rest)
    | _ => (false, marks)
  (members (rest.length + 1) true rest).map fun r => (⟨others, r.1⟩, r.2)

def places : Nat → List Mark → List Place
  | 0, _ => []
  | _ + 1, [] => []
  | fuel + 1, ('*', false) :: rest => .many :: places fuel rest
  | fuel + 1, ('?', false) :: rest => .any :: places fuel rest
  | fuel + 1, ('[', false) :: rest =>
      match set? rest with
      | some (set, after) => .set set :: places fuel after
      | none => .one '[' :: places fuel rest
  | fuel + 1, mark :: rest =>
      match single (mark :: rest) with
      | some (c, after) => .one c :: places fuel after
      | none => []

def ofMarks (pattern : List Mark) : List Place :=
  places (pattern.length + 1) pattern

def fits : List Place → Raw → Bool
  | [], text => text.isEmpty
  | .many :: rest, [] => fits rest []
  | .many :: rest, c :: text => fits rest (c :: text) || fits (.many :: rest) text
  | _ :: _, [] => false
  | .any :: rest, _ :: text => fits rest text
  | .one p :: rest, c :: text => p = c && fits rest text
  | .set set :: rest, c :: text => set.admits c && fits rest text
termination_by places text => places.length + text.length

end Name

def nameMatches (pattern : List Mark) (text : Raw) : Bool :=
  Name.fits (Name.ofMarks pattern) text

/-- A text without the shortest or longest part at one end that a pattern matches. -/
def cutPart (atEnd longest : Bool) (pattern : List Mark) (raw : Raw) : Raw :=
  let places := Name.ofMarks pattern
  let counts := List.range (raw.length + 1)
  let counts := if longest then counts.reverse else counts
  let fits (n : Nat) : Bool :=
    Name.fits places (if atEnd then raw.drop (raw.length - n) else raw.take n)
  match counts.find? fits with
  | some n => if atEnd then raw.take (raw.length - n) else raw.drop n
  | none => raw

end LintBridge.Pattern
