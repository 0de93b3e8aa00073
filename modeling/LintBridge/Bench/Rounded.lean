import LintBridge.Decimal.Shortest

/-!
# Rounded decimals

A binary fraction with a given number of decimal digits.  The exact value is rounded to
the nearest decimal of that size, and a tie goes to the even digit.
-/

set_option autoImplicit false

namespace LintBridge.Decimal

/-- The quotient of two numbers, rounded to the nearest one; a tie goes to the even one. -/
def roundDiv (num den : Nat) : Nat :=
  let n := num / den
  let rest := num % den
  if 2 * rest < den then n
  else if den < 2 * rest then n + 1
  else if n % 2 = 0 then n else n + 1

def inUnits (m : Nat) (q : Int) (power : Int) : Nat :=
  roundDiv (m * Nat.pow 2 q.toNat * Nat.pow 10 (-power).toNat)
    (Nat.pow 2 (-q).toNat * Nat.pow 10 power.toNat)

/-- The power of ten of the first digit of `m * 2 ^ q`, which is positive. -/
def firstPower (m : Nat) (q : Int) : Int :=
  let num := m * Nat.pow 2 q.toNat
  let den := Nat.pow 2 (-q).toNat
  if den ≤ num then ((toString (num / den)).length : Int) - 1
  else -((toString ((den - 1) / num)).length : Int)

def digitsOf (n : Nat) : List Char :=
  (toString n).toList

def fixed (m : Nat) (q : Int) (places : Nat) (point : Bool) : List Char :=
  let digits := padLeft (places + 1) (digitsOf (inUnits m q (-(places : Int))))
  let whole := digits.take (digits.length - places)
  let fraction := digits.drop (digits.length - places)
  if places = 0 then (if point then whole ++ ['.'] else whole) else whole ++ '.' :: fraction

def leading (m : Nat) (q : Int) (count : Nat) : List Char × Int :=
  if m = 0 then (List.replicate count '0', 0)
  else
    let first := firstPower m q
    let digits := digitsOf (inUnits m q (first - count + 1))
    if count < digits.length then (digits.take count, first + 1) else (digits, first)

def exponentText (power : Int) : List Char :=
  'e' :: (if power < 0 then '-' else '+') :: padLeft 2 (digitsOf power.natAbs)

/-- One digit in front of the point and so many behind it, with an exponent. -/
def scientific (m : Nat) (q : Int) (places : Nat) (point : Bool) : List Char :=
  let (digits, power) := leading m q (places + 1)
  let front := digits.take 1
  let mantissa :=
    if places = 0 then (if point then front ++ ['.'] else front) else front ++ '.' :: digits.drop 1
  mantissa ++ exponentText power

/-- A text with a point without zeros at its end, and without the point if it is last. -/
def withoutZeros (text : List Char) : List Char :=
  let cut := (text.reverse.dropWhile (· = '0'))
  (if cut.head? = some '.' then cut.drop 1 else cut).reverse

/-- So many digits in the shorter of the two ways to write them. -/
def general (m : Nat) (q : Int) (count : Nat) (full : Bool) : List Char :=
  let count := max count 1
  let (digits, power) := leading m q count
  if -4 ≤ power && power < count then
    let text := fixed m q ((count : Int) - 1 - power).toNat full
    if full || !text.contains '.' then text else withoutZeros text
  else
    let behind := digits.drop 1
    let behind := if full then behind else (behind.reverse.dropWhile (· = '0')).reverse
    let front := digits.take 1
    (if behind.isEmpty then (if full then front ++ ['.'] else front) else front ++ '.' :: behind)
      ++ exponentText power

/-- How a fraction is written: by one of the letters `e`, `f` and `g`. -/
def writeRounded (x : Float) (letter : Char) (count : Nat) (full : Bool) : List Char :=
  if x.isNaN then "nan".toList
  else if x.isInf then "inf".toList
  else
    let (m, q, _) := parts x
    match letter with
    | 'e' => scientific m q count full
    | 'f' => fixed m q count full
    | _ => general m q count full

def isBelowZero (x : Float) : Bool :=
  Nat.pow 2 63 ≤ x.toBits.toNat && !x.isNaN

/-- The fraction that a text begins with, and what follows it; none without a digit. -/
def readFraction? (source : List Char) : Option (Float × List Char) :=
  let (minus, rest) : Bool × List Char :=
    match source with
    | '-' :: rest => (true, rest)
    | '+' :: rest => (false, rest)
    | _ => (false, source)
  let signed (x : Float) : Float := if minus then -x else x
  let isNext (word : String) : Bool :=
    word.toList.isPrefixOf (rest.map Char.toLower)
  if isNext "infinity" then some (signed (1.0 / 0.0), rest.drop 8)
  else if isNext "inf" then some (signed (1.0 / 0.0), rest.drop 3)
  else if isNext "nan" then some (0.0 / 0.0, rest.drop 3)
  else
    let whole := rest.takeWhile Char.isDigit
    let rest := rest.drop whole.length
    let (fraction, rest) : List Char × List Char :=
      match rest with
      | '.' :: more =>
          let digits := more.takeWhile Char.isDigit
          if whole.isEmpty && digits.isEmpty then ([], rest) else (digits, more.drop digits.length)
      | _ => ([], rest)
    if whole.isEmpty && fraction.isEmpty then none
    else
      let valueOf (digits : List Char) : Nat :=
        digits.foldl (fun n c => n * 10 + (c.toNat - 48)) 0
      let (power, rest) : Int × List Char :=
        match rest with
        | e :: more =>
            if e = 'e' || e = 'E' then
              let (down, digits) : Bool × List Char :=
                match more with
                | '-' :: d => (true, d)
                | '+' :: d => (false, d)
                | d => (false, d)
              let taken := digits.takeWhile Char.isDigit
              if taken.isEmpty then (0, rest)
              else
                let n := min (valueOf taken) 100000
                (if down then -(n : Int) else n, digits.drop taken.length)
            else (0, rest)
        | [] => (0, rest)
      let mantissa := valueOf (whole ++ fraction)
      let power := power - fraction.length
      let x :=
        if mantissa = 0 then 0.0
        else if 400 < power + (digitsOf mantissa).length then 1.0 / 0.0
        else if power + (digitsOf mantissa).length < -400 then 0.0
        else if power < 0 then Float.ofScientific mantissa true power.natAbs
        else Float.ofScientific mantissa false power.natAbs
      some (signed x, rest)

end LintBridge.Decimal
