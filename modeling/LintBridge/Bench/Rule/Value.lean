import LintBridge.Decimal.Shortest
import LintBridge.Bench.Tool.Format

/-!
# Values of rules

A value is a number or a text.  What comes from the input is a text, and a number too if
it looks like one.
-/

set_option autoImplicit false

namespace LintBridge.Rule

inductive Value where
  | unset
  | number (x : Float)
  | text (raw : Raw)
  | input (raw : Raw)

namespace Value

/-- The number at the beginning of a text; nothing is zero. -/
def leading (raw : Raw) : Float × Raw :=
  let body := Raw.trimLeft Raw.isSpace raw
  let digits := body.dropWhile fun c => c = '+' || c = '-'
  if (digits.head?.any fun c => c.isDigit || c = '.') then (Decimal.readFraction? body).getD (0.0, raw)
  else (0.0, raw)

/-- The text is a number with nothing else but blanks around it. -/
def looksNumeric (raw : Raw) : Bool :=
  let (_, rest) := leading raw
  rest.length < raw.length && rest.all Raw.isSpace

def ofBool (b : Bool) : Value :=
  .number (if b then 1.0 else 0.0)

def ofNat (n : Nat) : Value :=
  .number (Float.ofNat n)

def wholePart (x : Float) : Int :=
  let (m, q, _) := Decimal.parts x
  let size : Nat := if 0 ≤ q then m * Nat.pow 2 q.toNat else m / Nat.pow 2 (-q).toNat
  if Decimal.isBelowZero x then -size else size

/-- The number is whole and not too great to be written with all its digits. -/
def isWhole (x : Float) : Bool :=
  x == x.floor && x.abs < 9223372036854775808.0

/-- A number as a text; a form is for those that are not whole. -/
def numberText (form : Raw) (x : Float) : Raw :=
  if x.isNaN then "-nan".toList
  else if x.isInf then (if Decimal.isBelowZero x then "-inf" else "inf").toList
  else if isWhole x then Raw.ofInt (wholePart x)
  else
    match form with
    | '%' :: '.' :: rest =>
        let digits := rest.takeWhile Char.isDigit
        match rest.drop digits.length with
        | [letter] => Decimal.writeRounded x letter (Raw.digitsValue digits) false
        | _ => Decimal.writeRounded x 'g' 6 false
    | _ => Decimal.writeRounded x 'g' 6 false

def toText (form : Raw) : Value → Raw
  | unset => []
  | number x => numberText form x
  | text raw | input raw => raw

def toNumber : Value → Float
  | unset => 0.0
  | number x => x
  | text raw | input raw => (leading raw).1

def number? : Value → Option Float
  | unset => some 0.0
  | number x => some x
  | text _ => none
  | input raw => if looksNumeric raw then some (leading raw).1 else none

def holds : Value → Bool
  | unset => false
  | number x => x != 0.0
  | text raw => !raw.isEmpty
  | input raw => if looksNumeric raw then (leading raw).1 != 0.0 else !raw.isEmpty

/-- The whole number at or below zero of a value, as a place in a text. -/
def toInt (v : Value) : Int :=
  let x := v.toNumber
  if x.isNaN then 0
  else if x.isInf then (if x < 0.0 then -9007199254740992 else 9007199254740992)
  else wholePart x

/-- A comparison: of numbers if both values are numbers, and else of texts. -/
def compare (form : Raw) (sign : String) (a b : Value) : Bool :=
  match a.number?, b.number? with
  | some x, some y =>
      match sign with
      | "<" => x < y
      | "<=" => x ≤ y
      | "==" => x == y
      | "!=" => x != y
      | ">" => y < x
      | _ => y ≤ x
  | _, _ =>
      let s := a.toText form
      let t := b.toText form
      match sign with
      | "<" => s ≠ t && Raw.le s t
      | "<=" => Raw.le s t
      | "==" => s = t
      | "!=" => s ≠ t
      | ">" => s ≠ t && Raw.le t s
      | _ => Raw.le t s

def remainder (x y : Float) : Float :=
  if y == 0.0 || x.isInf || x.isNaN || y.isNaN then 0.0 / 0.0
  else if y.isInf then x
  else
    let quotient := x / y
    x - (if quotient < 0.0 then quotient.ceil else quotient.floor) * y

def calculate (sign : Char) (x y : Float) : Float :=
  match sign with
  | '+' => x + y
  | '-' => x - y
  | '*' => x * y
  | '/' => x / y
  | '%' => remainder x y
  | _ => x.pow y

end Value

open Tool (Conversion)

/-- A form filled in with values, and whether there were enough of them. -/
def fillForm (form : Raw) : Nat → Raw → List Value → Raw × Bool
  | 0, _, _ => ([], true)
  | _ + 1, [], _ => ([], true)
  | fuel + 1, '%' :: '%' :: rest, values => behind ['%'] (fillForm form fuel rest values)
  | fuel + 1, '%' :: rest, values =>
      let flags := rest.takeWhile fun c => "#-+ 0".toList.contains c
      match sizes (rest.drop flags.length) values with
      | none => ([], false)
      | some (_, _, [], _) => ('%' :: rest, true)
      | some (width, places, letter :: after, values) =>
          if letter = 'l' || letter = 'h' then fillForm form fuel ('%' :: flags ++ after) values
          else
            match values with
            | [] => ([], false)
            | value :: values =>
                let flags := if width.getD 0 < 0 then '-' :: flags else flags
                let places := places >>= fun n => if n < 0 then none else some n.toNat
                behind (converted ⟨flags, (width.getD 0).natAbs, places, letter⟩ value)
                  (fillForm form fuel after values)
  | fuel + 1, c :: rest, values => behind [c] (fillForm form fuel rest values)
where
  behind (own : Raw) (found : Raw × Bool) : Raw × Bool :=
    (own ++ found.1, found.2)
  /-- A width and a number of places, what follows them, and the values that are left. -/
  sizes (source : Raw) (values : List Value) :
      Option (Option Int × Option Int × Raw × List Value) := do
    let (width, after, values) ← size source values
    match after with
    | '.' :: more => (size more values).map fun (n, after, values) => (width, some (n.getD 0), after, values)
    | _ => return (width, none, after, values)
  size (source : Raw) (values : List Value) : Option (Option Int × Raw × List Value) :=
    match source with
    | '*' :: rest => values.head?.map fun value => (some value.toInt, rest, values.tail)
    | _ =>
        let digits := source.takeWhile Char.isDigit
        some (if digits.isEmpty then none else some (Raw.digitsValue digits : Int),
          source.drop digits.length, values)
  converted (c : Conversion) (value : Value) : Raw :=
    match c.letter with
    | 'd' | 'i' =>
        let x := value.toNumber
        if x.isNaN || x.isInf then c.place (Value.numberText form x) else c.ofInt (Value.wholePart x)
    | 'o' | 'x' | 'X' | 'u' => c.ofNat (value.toInt % 18446744073709551616).toNat
    | 'e' | 'E' | 'f' | 'F' | 'g' | 'G' => c.ofFloat value.toNumber
    | 'c' =>
        match value with
        | .number x => c.place [Char.ofNat ((Value.wholePart x) % 256).toNat]
        | value => c.place ((value.toText form).take 1)
    | 's' => c.ofText (value.toText form)
    | letter => ['%', letter]

end LintBridge.Rule
