import LintBridge.Bench.Rounded
import LintBridge.Bench.Raw

/-!
# Keys of lines

What lines are compared by: a part of the line, and how parts of this kind are compared.
Fields are set apart by a mark, or begin with the blanks in front of them.
-/

set_option autoImplicit false

namespace LintBridge.Sorting

structure Manner where
  skipsBlanks : Bool
  skipsEndBlanks : Bool
  dictionary : Bool
  folded : Bool
  shownOnly : Bool
  order : Option Char
  reversed : Bool
  deriving DecidableEq

def Manner.plain : Manner :=
  ⟨false, false, false, false, false, none, false⟩

/-- A key from a place of a field to the end of the line, or to a place of a field; fields
and places are counted from zero. -/
structure Key where
  field : Nat
  place : Nat
  last : Option (Nat × Nat)
  manner : Manner

def skipFields (mark : Option Char) (whole : Bool) : Nat → Raw → Nat
  | 0, _ => 0
  | n + 1, line =>
      match mark with
      | some c =>
          let own := (line.takeWhile (· ≠ c)).length
          let own := if own < line.length && (n ≠ 0 || whole) then own + 1 else own
          own + skipFields mark whole n (line.drop own)
      | none =>
          let blanks := (line.takeWhile Raw.isBlank).length
          let own := blanks + ((line.drop blanks).takeWhile fun c => !Raw.isBlank c).length
          own + skipFields mark whole n (line.drop own)

def behindBlanks (line : Raw) (place : Nat) : Nat :=
  place + ((line.drop place).takeWhile Raw.isBlank).length

def Key.part (k : Key) (mark : Option Char) (line : Raw) : Raw :=
  let start := skipFields mark true k.field line
  let start := if k.manner.skipsBlanks then behindBlanks line start else start
  let start := min line.length (start + k.place)
  let stop :=
    match k.last with
    | none => line.length
    | some (field, 0) => skipFields mark false (field + 1) line
    | some (field, place) =>
        let stop := skipFields mark true field line
        let stop := if k.manner.skipsEndBlanks then behindBlanks line stop else stop
        min line.length (stop + place)
  (line.take stop).drop start

def compareRaw (a b : Raw) : Ordering :=
  if a = b then .eq else if Raw.le a b then .lt else .gt

/-- The number at the beginning of a text: its sign, its whole part and its decimal
places. -/
def numberAt (raw : Raw) : Bool × Nat × Raw :=
  let raw := raw.dropWhile Raw.isBlank
  let (minus, digits) : Bool × Raw :=
    match raw with
    | '-' :: rest => (true, rest)
    | rest => (false, rest)
  let whole := digits.takeWhile Char.isDigit
  let fraction : Raw :=
    match digits.drop whole.length with
    | '.' :: more => Raw.trimRight (· = '0') (more.takeWhile Char.isDigit)
    | _ => []
  let value := Raw.digitsValue whole
  (minus && !(value = 0 && fraction.isEmpty), value, fraction)

def compareNumbers (a b : Raw) : Ordering :=
  let (aMinus, aWhole, aPlaces) := numberAt a
  let (bMinus, bWhole, bPlaces) := numberAt b
  let sizes := (compare aWhole bWhole).then (compareRaw aPlaces bPlaces)
  match aMinus, bMinus with
  | false, false => sizes
  | true, true => sizes.swap
  | true, false => .lt
  | false, true => .gt

def unitOf (raw : Raw) : Nat :=
  let raw := raw.dropWhile Raw.isBlank
  let digits := match raw with
    | '-' :: rest => rest
    | rest => rest
  match (digits.dropWhile fun c => c.isDigit || c = '.').head? with
  | some c => ("KMGTPEZYRQ".toList.findIdx? (· = (if c = 'k' then 'K' else c))).elim 0 (· + 1)
  | none => 0

def compareAmounts (a b : Raw) : Ordering :=
  let (aMinus, _, _) := numberAt a
  let (bMinus, _, _) := numberAt b
  match aMinus, bMinus with
  | true, false => .lt
  | false, true => .gt
  | true, true => (compare (unitOf b) (unitOf a)).then (compareNumbers a b)
  | false, false => (compare (unitOf a) (unitOf b)).then (compareNumbers a b)

/-- The month that a text begins with; none is before the first one. -/
def monthOf (raw : Raw) : Nat :=
  let name := ((raw.dropWhile Raw.isBlank).take 3).map Char.toUpper
  let months := ["JAN", "FEB", "MAR", "APR", "MAY", "JUN", "JUL", "AUG", "SEP", "OCT", "NOV", "DEC"]
  (months.findIdx? (·.toList = name)).elim 0 (· + 1)

def compareFractions (a b : Raw) : Ordering :=
  let value (raw : Raw) : Option Float :=
    (Decimal.readFraction? (raw.dropWhile Raw.isSpace)).map (·.1)
  match value a, value b with
  | none, none => .eq
  | none, some _ => .lt
  | some _, none => .gt
  | some x, some y => if x < y then .lt else if y < x then .gt else .eq

/-- The place of a byte in names of versions: a tilde before the end, and letters before
all others. -/
def versionRank (c : Option Char) : Nat :=
  match c with
  | none => 1
  | some c =>
      if c = '~' then 0
      else if c.isDigit then 1
      else if c.isAlpha then c.toNat + 1
      else c.toNat + 257

/-- The order of names of versions: texts and numbers take turns. -/
def compareVersions : Nat → Raw → Raw → Ordering
  | 0, _, _ => .eq
  | fuel + 1, a, b =>
      let aText := a.takeWhile fun c => !c.isDigit
      let bText := b.takeWhile fun c => !c.isDigit
      let size := max aText.length bText.length
      let ranks := (List.range size).map fun n => compare (versionRank aText[n]?) (versionRank bText[n]?)
      match ranks.find? (· ≠ .eq) with
      | some order => order
      | none =>
          let a := a.drop aText.length
          let b := b.drop bText.length
          let aDigits := a.takeWhile Char.isDigit
          let bDigits := b.takeWhile Char.isDigit
          match compare (Raw.digitsValue aDigits) (Raw.digitsValue bDigits) with
          | .eq =>
              let a := a.drop aDigits.length
              let b := b.drop bDigits.length
              if a.isEmpty && b.isEmpty then .eq else compareVersions fuel a b
          | order => order

def Manner.counted (m : Manner) (raw : Raw) : Raw :=
  let raw :=
    if m.dictionary then raw.filter fun c => Raw.isBlank c || c.isAlphanum
    else if m.shownOnly then raw.filter fun c => ' ' ≤ c && c ≤ '~'
    else raw
  if m.folded then raw.map Char.toUpper else raw

def Manner.compare (m : Manner) (a b : Raw) : Ordering :=
  let order :=
    match m.order with
    | some 'n' => compareNumbers a b
    | some 'g' => compareFractions a b
    | some 'h' => compareAmounts a b
    | some 'M' => Ord.compare (monthOf a) (monthOf b)
    | some 'V' => compareVersions (a.length + b.length + 1) a b
    | _ => compareRaw (m.counted a) (m.counted b)
  if m.reversed then order.swap else order

def Manner.withLetter? (m : Manner) (atEnd : Bool) (c : Char) : Option Manner :=
  match c with
  | 'b' => some (if atEnd then { m with skipsEndBlanks := true } else { m with skipsBlanks := true })
  | 'd' => some { m with dictionary := true }
  | 'f' => some { m with folded := true }
  | 'i' => some { m with shownOnly := true }
  | 'r' => some { m with reversed := true }
  | 'n' | 'g' | 'h' | 'M' | 'V' | 'R' => some { m with order := some c }
  | _ => none

end LintBridge.Sorting
