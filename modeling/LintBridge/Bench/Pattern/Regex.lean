import LintBridge.Bench.Pattern.Name

/-!
# Patterns of lines

What a pattern matches in a text.  Of all matches that begin at one place the longest
counts, and within it the first part is as long as can be, then the second one, and so
on.  A match is found by following all ways through the pattern at once: the spots that
a part can lead to are kept without repetition, the farthest one first.
-/

set_option autoImplicit false

namespace LintBridge.Pattern

inductive Regex where
  | nothing
  | one (c : Char)
  | any
  | oneOf (set : CharSet)
  | lineBegin
  | lineEnd
  | textBegin
  | textEnd
  | wordEdge (is : Bool)
  | wordBegin
  | wordEnd
  | group (number : Nat) (inner : Regex)
  | again (number : Nat)
  | chain (first second : Regex)
  | choice (first second : Regex)
  | repeated (inner : Regex) (least : Nat) (most : Option Nat)
  deriving Inhabited, Repr

namespace Regex

structure Field where
  text : Array Char
  folded : Bool
  manyLines : Bool

/-- A place in the text, with the places where groups begin and end. -/
structure Spot where
  place : Nat
  groups : List (Nat × Nat × Nat)
  deriving DecidableEq, Repr, Inhabited

def Spot.group? (s : Spot) (number : Nat) : Option (Nat × Nat) :=
  (s.groups.find? (·.1 = number)).map (·.2)

/-- Two rows of spots as one, the farthest one first; of two spots of one place the one of
the first row stays. -/
def merge : List Spot → List Spot → List Spot
  | [], others => others
  | spots, [] => spots
  | s :: rest, t :: others =>
      if s.place = t.place then s :: merge rest others
      else if t.place < s.place then s :: merge rest (t :: others)
      else t :: merge (s :: rest) others
termination_by spots others => spots.length + others.length

def spread (step : Spot → List Spot) (spots : List Spot) : List Spot :=
  spots.foldr (fun s found => merge (step s) found) []

def hasPlace (place : Nat) : List Spot → Bool
  | [] => false
  | s :: rest => if place < s.place then hasPlace place rest else s.place = place

namespace Field

def same (f : Field) (a b : Char) : Bool :=
  a = b || (f.folded && a.toLower = b.toLower)

def isWordAt (f : Field) (n : Nat) : Bool :=
  match f.text[n]? with
  | some c => isWordPart c
  | none => false

def isWordBefore (f : Field) (n : Nat) : Bool :=
  0 < n && f.isWordAt (n - 1)

def isBegin (f : Field) (n : Nat) : Bool :=
  n = 0 || (f.manyLines && f.text[n - 1]? = some '\n')

def isEnd (f : Field) (n : Nat) : Bool :=
  n = f.text.size || (f.manyLines && f.text[n]? = some '\n')

def admits (f : Field) (set : CharSet) (c : Char) : Bool :=
  if f.folded then set.admitsFolded c else set.admits c

def sameRun (f : Field) (a b : Nat) : Nat → Bool
  | 0 => true
  | n + 1 =>
      (match f.text[a]?, f.text[b]? with
        | some c, some d => f.same c d
        | _, _ => false)
      && f.sameRun (a + 1) (b + 1) n

end Field

/-- Spots after so many rounds of a step and more, each place once. -/
def rounds (step : Spot → List Spot) (least : Nat) (most : Option Nat) :
    Nat → Nat → List Spot → List Spot → List Spot
  | 0, _, _, found => found
  | fuel + 1, count, spots, found =>
      let found := if least ≤ count then merge found spots else found
      if spots.isEmpty || most = some count then found
      else
        let next := spread step spots
        let next := if least ≤ count then next.filter fun s => !hasPlace s.place found else next
        rounds step least most fuel (count + 1) next found

def ends (f : Field) : Regex → Spot → List Spot
  | nothing, s => [s]
  | one c, s =>
      match f.text[s.place]? with
      | some d => if f.same c d then [{ s with place := s.place + 1 }] else []
      | none => []
  | any, s =>
      match f.text[s.place]? with
      | some c => if Text.Stray.isKeeper c then [] else [{ s with place := s.place + 1 }]
      | none => []
  | oneOf set, s =>
      match f.text[s.place]? with
      | some c =>
          if !Text.Stray.isKeeper c && f.admits set c then [{ s with place := s.place + 1 }] else []
      | none => []
  | lineBegin, s => if f.isBegin s.place then [s] else []
  | lineEnd, s => if f.isEnd s.place then [s] else []
  | textBegin, s => if s.place = 0 then [s] else []
  | textEnd, s => if s.place = f.text.size then [s] else []
  | wordEdge is, s => if (f.isWordBefore s.place != f.isWordAt s.place) = is then [s] else []
  | wordBegin, s => if !f.isWordBefore s.place && f.isWordAt s.place then [s] else []
  | wordEnd, s => if f.isWordBefore s.place && !f.isWordAt s.place then [s] else []
  | group number inner, s =>
      (ends f inner s).map fun t =>
        { t with groups := (number, s.place, t.place) :: t.groups.filter (·.1 ≠ number) }
  | again number, s =>
      match s.group? number with
      | some (first, last) =>
          if s.place + (last - first) ≤ f.text.size && f.sameRun first s.place (last - first) then
            [{ s with place := s.place + (last - first) }]
          else []
      | none => []
  | chain first second, s => spread (ends f second) (ends f first s)
  | choice first second, s => merge (ends f first s) (ends f second s)
  | repeated inner least most, s =>
      rounds (ends f inner) least most (f.text.size + least + 2) 0 [s] []

def matchAt? (f : Field) (r : Regex) (place : Nat) : Option Spot :=
  (ends f r ⟨place, []⟩).head?

def findFrom? (f : Field) (r : Regex) : Nat → Nat → Option (Nat × Spot)
  | _, 0 => none
  | place, more + 1 =>
      match matchAt? f r place with
      | some s => some (place, s)
      | none => findFrom? f r (place + 1) more

/-- The first match from a place on: where it begins, and the spot at its end. -/
def find? (f : Field) (r : Regex) (place : Nat) : Option (Nat × Spot) :=
  findFrom? f r place (f.text.size + 1 - place)

end Regex

def Regex.Field.part (f : Regex.Field) (first last : Nat) : List Char :=
  (f.text.extract first last).toList

end LintBridge.Pattern
