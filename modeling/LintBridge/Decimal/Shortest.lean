/-!
# Shortest decimals

The fewest decimal digits that read back as a given binary fraction, and of those
the digits nearest to it.

A positive fraction is `m * 2 ^ q`.  The reals that round to it form an interval
around it; its ends belong to it when `m` is even.  For one digit, two digits and
so on, the two neighbours of the value on that decimal grid are tried, and the
first grid that has one in the interval gives the digits.
-/

set_option autoImplicit false

namespace LintBridge.Decimal

/-- A positive binary fraction in quarters of its last place, as quotients over one
denominator: its value, and the ends of the interval that rounds to it. -/
structure Rounding where
  value : Nat
  low : Nat
  high : Nat
  scale : Nat
  closed : Bool

/-- The rounding interval of `m * 2 ^ q`.  Below a power of two the fractions lie
twice as close. -/
def Rounding.ofParts (m : Nat) (q : Int) (below : Bool) : Rounding :=
  let up := Nat.pow 2 (q - 2).toNat
  let closed := m % 2 = 0
  ⟨4 * m * up, (4 * m - if below then 1 else 2) * up, (4 * m + 2) * up,
    Nat.pow 2 (2 - q).toNat, closed⟩

/-- The parts of a finite fraction other than zero, without its sign. -/
def parts (x : Float) : Nat × Int × Bool :=
  let bits : Nat := x.toBits.toNat % Nat.pow 2 63
  let exponent : Nat := bits / Nat.pow 2 52
  let fraction : Nat := bits % Nat.pow 2 52
  if exponent = 0 then (fraction, -1074, false)
  else (Nat.pow 2 52 + fraction, (exponent : Int) - 1075, fraction = 0 && exponent ≠ 1)

/-- Decimal digits and the power of ten of the last one. -/
structure Digits where
  digits : Nat
  power : Int
  deriving DecidableEq, Repr

namespace Rounding

def admits (r : Rounding) (n : Nat) (power : Int) : Bool :=
  let up := Nat.pow 10 power.toNat
  let down := Nat.pow 10 (-power).toNat
  let c := n * up * r.scale
  if r.closed then r.low * down ≤ c && c ≤ r.high * down
  else r.low * down < c && c < r.high * down

/-- The best candidate of a grid.  A tie goes to the even one. -/
def best? (r : Rounding) (power : Int) : Option Nat :=
  let up := Nat.pow 10 power.toNat * r.scale
  let value := r.value * Nat.pow 10 (-power).toNat
  let n := value / up
  let rest := value % up
  let first :=
    if 2 * rest < up then n
    else if 2 * rest = up then (if n % 2 = 0 then n else n + 1)
    else n + 1
  let second := if first = n then n + 1 else n
  if r.admits first power then some first
  else if r.admits second power then some second
  else none

/-- Tries ever finer grids, from `power` down. -/
def search (r : Rounding) : Nat → Int → Digits
  | 0, power => ⟨(r.best? power).getD 0, power⟩
  | fuel + 1, power =>
      match r.best? power with
      | some 0 => search r fuel (power - 1)
      | some n => ⟨n, power⟩
      | none => search r fuel (power - 1)

end Rounding

/-- Moves zeros at the end into the power. -/
def Digits.trim : Nat → Digits → Digits
  | 0, d => d
  | fuel + 1, d =>
      if d.digits ≠ 0 && d.digits % 10 = 0 then trim fuel ⟨d.digits / 10, d.power + 1⟩ else d

/-- A power of ten above every fraction of the given binary exponent. -/
def startPower (m : Nat) (q : Int) : Int :=
  ((m.log2 : Int) + 1 + q) * 30103 / 100000 + 2

def shortest (x : Float) : Digits :=
  let (m, q, below) := parts x
  if m = 0 then ⟨0, 0⟩
  else ((Rounding.ofParts m q below).search 25 (startPower m q)).trim 25

/-- How digits are laid out: the decimal exponents that are written positionally,
and whether another one has a sign where it is not negative. -/
structure Layout where
  least : Int
  most : Int
  plus : Bool

def padLeft (width : Nat) (text : List Char) : List Char :=
  List.replicate (width - text.length) '0' ++ text

/-- The text of digits at a decimal exponent, with at least one place behind the
point where no exponent is written. -/
def Layout.write (layout : Layout) (d : Digits) : List Char :=
  let digits := (toString d.digits).toList
  let exponent : Int := d.power + digits.length - 1
  if layout.least ≤ exponent && exponent ≤ layout.most then
    if 0 ≤ d.power then digits ++ List.replicate d.power.toNat '0' ++ ['.', '0']
    else
      let places := (-d.power).toNat
      let whole := digits.take (digits.length - places)
      let fraction := padLeft places (digits.drop (digits.length - places))
      (if whole.isEmpty then ['0'] else whole) ++ '.' :: fraction
  else
    let sign := if exponent < 0 then ['-'] else if layout.plus then ['+'] else []
    let mantissa :=
      match digits with
      | [] => []
      | c :: [] => [c]
      | c :: rest => c :: '.' :: rest
    mantissa ++ 'e' :: sign ++ (toString exponent.natAbs).toList

def Layout.writeFloat (layout : Layout) (x : Float) : String :=
  let sign := if x.toBits.toNat < Nat.pow 2 63 then [] else ['-']
  String.ofList (sign ++ layout.write (shortest x))

end LintBridge.Decimal
