import LintBridge.Text.Basic

/-!
# Tables of code points

A table is kept as lines of entries with spaces between them, in hexadecimal digits.
An entry begins with a code point or with a range of them, and tells after a sign what
belongs to it:

* `41-5A` is a range,
* `300-314=E6` a range with a number,
* `C0=41_300,41_301` tells the texts of the code points from C0 on,
* `100-12E/2+1` is every second code point of a range, with a distance.
-/

set_option autoImplicit false

namespace LintBridge.Text.CodeTable

def number (digits : List Char) : Nat :=
  digits.foldl (fun n c => n * 16 + (hexDigit? c).getD 0) 0

def entries (table : List String) : List (List Char) :=
  table.flatMap fun line => line.toList.splitOn ' '

def cut (sign : Char) (entry : List Char) : List Char × List Char :=
  (entry.takeWhile (· ≠ sign), (entry.dropWhile (· ≠ sign)).drop 1)

/-- A code point, or a range of them. -/
def range (entry : List Char) : Nat × Nat :=
  let (first, last) := cut '-' entry
  (number first, number (if last.isEmpty then first else last))

abbrev Ranges := List (Nat × Nat)

def ranges (table : List String) : Ranges :=
  (entries table).map range

def Ranges.holds (ranges : Ranges) (c : Char) : Bool :=
  ranges.any fun r => r.1 ≤ c.toNat && c.toNat ≤ r.2

abbrev Numbers := List ((Nat × Nat) × Nat)

def numbers (table : List String) : Numbers :=
  (entries table).map fun entry =>
    let (front, value) := cut '=' entry
    (range front, number value)

def Numbers.get? (numbers : Numbers) (c : Char) : Option Nat :=
  (numbers.find? fun e => e.1.1 ≤ c.toNat && c.toNat ≤ e.1.2).map (·.2)

/-- Texts of code points that follow each other, with the first one. -/
abbrev Texts := List (Nat × List (List Char))

def texts (table : List String) : Texts :=
  (entries table).map fun entry =>
    let (first, rest) := cut '=' entry
    (number first, (rest.splitOn ',').map fun text =>
      (text.splitOn '_').map fun code => Char.ofNat (number code))

def Texts.get? (texts : Texts) (c : Char) : Option (List Char) :=
  texts.findSome? fun run => if run.1 ≤ c.toNat then run.2[c.toNat - run.1]? else none

/-- Code points at steps, and the distance from each to what belongs to it. -/
structure Shift where
  first : Nat
  last : Nat
  step : Nat
  distance : Int

/-- The entry's sign of a distance, if it has one before the digits behind the range. -/
def shift (entry : List Char) : Shift :=
  let (first, rest) := cut '-' entry
  let digits := rest.takeWhile fun c => (hexDigit? c).isSome
  let (step, distance) :=
    match rest.drop digits.length with
    | '/' :: step :: distance => (number [step], distance)
    | distance => (1, distance)
  let size := number (distance.drop 1)
  ⟨number first, number digits, step, if distance.head? = some '-' then -size else size⟩

abbrev Shifts := List Shift

def shifts (table : List String) : Shifts :=
  (entries table).map shift

def Shifts.get? (shifts : Shifts) (c : Char) : Option Char :=
  (shifts.find? fun s =>
    s.first ≤ c.toNat && c.toNat ≤ s.last && (c.toNat - s.first) % s.step = 0).map fun s =>
      Char.ofNat (Int.ofNat c.toNat + s.distance).toNat

end LintBridge.Text.CodeTable
