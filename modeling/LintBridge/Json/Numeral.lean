import LintBridge.Json.Basic
import LintBridge.Json.Fault

/-!
# Numbers in JSON texts

A number is read digit by digit into a significand of at most 64 bits and a power
of ten; digits that no longer fit are dropped, and count in the power where they
stand before the point.  A number without point and exponent is an integer as far
as 64 bits go.  Every other one is the significand multiplied or divided by the
power of ten, each operation rounded.
-/

set_option autoImplicit false

namespace LintBridge.Json

namespace Numeral

inductive Part where
  | sign
  | zero
  | whole
  | dropped
  | point
  | fraction
  | fractionDropped
  | mark
  | exponentSign
  | exponent (value : Nat)
  | exponentDropped
  deriving DecidableEq, Repr

end Numeral

structure Numeral where
  negative : Bool
  significand : Nat
  /-- The power of ten that the digits before the exponent give. -/
  scale : Int
  exponentNegative : Bool
  part : Numeral.Part
  deriving DecidableEq, Repr

namespace Numeral

inductive Turn where
  | more (numeral : Numeral)
  | ends
  | refused (fault : Fault)
  deriving DecidableEq, Repr

def bound64 : Nat :=
  18446744073709551616

def bound31 : Nat :=
  2147483648

def begin? (c : Char) : Option Numeral :=
  if c = '-' then some ⟨true, 0, 0, false, .sign⟩
  else if c = '0' then some ⟨false, 0, 0, false, .zero⟩
  else if c.isDigit then some ⟨false, c.toNat - 48, 0, false, .whole⟩
  else none

def afterDigits (n : Numeral) (c : Char) : Turn :=
  if c = '.' then .more { n with part := .point }
  else if c = 'e' || c = 'E' then .more { n with part := .mark }
  else .ends

def afterFraction (n : Numeral) (c : Char) : Turn :=
  if c = 'e' || c = 'E' then .more { n with part := .mark } else .ends

def fractionDigit (n : Numeral) (d : Nat) : Turn :=
  let next := n.significand * 10 + d
  if next < bound64 then
    .more { n with significand := next, scale := n.scale - 1, part := .fraction }
  else .more { n with part := .fractionDropped }

def exponentDigit (n : Numeral) (value d : Nat) : Turn :=
  let next := value * 10 + d
  if next < bound31 then .more { n with part := .exponent next }
  else if n.significand ≠ 0 && !n.exponentNegative then .refused .numberTooLarge
  else .more { n with part := .exponentDropped }

def turn (n : Numeral) (c : Char) : Turn :=
  let d := c.toNat - 48
  match n.part with
  | .sign =>
      if c = '0' then .more { n with part := .zero }
      else if c.isDigit then .more { n with significand := d, part := .whole }
      else .refused .badNumber
  | .zero => if c.isDigit then .refused .badNumber else n.afterDigits c
  | .whole =>
      if c.isDigit then
        let next := n.significand * 10 + d
        if next < bound64 then .more { n with significand := next }
        else .more { n with scale := 1, part := .dropped }
      else n.afterDigits c
  | .dropped =>
      if c.isDigit then .more { n with scale := n.scale + 1 } else n.afterDigits c
  | .point => if c.isDigit then n.fractionDigit d else .refused .badNumber
  | .fraction => if c.isDigit then n.fractionDigit d else n.afterFraction c
  | .fractionDropped => if c.isDigit then .more n else n.afterFraction c
  | .mark =>
      if c = '+' then .more { n with part := .exponentSign }
      else if c = '-' then .more { n with exponentNegative := true, part := .exponentSign }
      else if c.isDigit then .more { n with part := .exponent d }
      else .refused .badNumber
  | .exponentSign =>
      if c.isDigit then .more { n with part := .exponent d } else .refused .badNumber
  | .exponent value => if c.isDigit then n.exponentDigit value d else .ends
  | .exponentDropped => if c.isDigit then .more n else .ends

/-- A power of ten as a binary fraction, for exponents up to 308. -/
def powerOfTen (n : Nat) : Float :=
  Float.ofScientific 1 false n

/-- Divides by ten to the `by`, in steps of at most 308.  Three of them reduce every
significand to zero. -/
def scaleDown : Nat → Float → Nat → Float
  | 0, f, _ => f
  | fuel + 1, f, places =>
      if places ≤ 308 then f / powerOfTen places
      else if f == 0 then f
      else scaleDown fuel (f / powerOfTen 308) (places - 308)

/-- The significand times a power of ten; `none` beyond the largest fraction. -/
def scaled (significand : Nat) (power : Int) : Option Float :=
  let f := Float.ofNat significand
  if power < 0 then some (scaleDown 4 f power.natAbs)
  else if power ≤ 308 then
    let product := f * powerOfTen power.natAbs
    if product.isInf then none else some product
  else if f == 0 then some f
  else none

def signed (n : Numeral) (f : Float) : Json :=
  .decimal (if n.negative then -f else f)

def power (n : Numeral) : Int :=
  match n.part with
  | .exponent value => if n.exponentNegative then n.scale - value else n.scale + value
  | _ => n.scale

def value (n : Numeral) : Except Fault Json :=
  match n.part with
  | .sign | .point | .mark | .exponentSign => .error .endInValue
  | .zero => .ok (if n.negative then n.signed 0 else .integer 0)
  | .whole =>
      if n.negative then
        if n.significand ≤ 9223372036854775808 then .ok (.integer (-n.significand))
        else .ok (n.signed (Float.ofNat n.significand))
      else .ok (.integer n.significand)
  | .exponentDropped => .ok (n.signed 0)
  | .dropped | .fraction | .fractionDropped | .exponent _ =>
      match scaled n.significand n.power with
      | some f => .ok (n.signed f)
      | none => .error .numberTooLarge

end Numeral

end LintBridge.Json
