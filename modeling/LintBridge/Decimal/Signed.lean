import LintBridge.Text.Basic

/-!
# Signed decimal integers

A sign that may be left out and at least one decimal digit.  `readSigned` puts no
bound on the number; `readInt32` admits what fits 32 bits.
-/

set_option autoImplicit false

namespace LintBridge.Decimal

def continueDigits : Nat → List Char → Option Nat
  | value, [] => some value
  | value, c :: rest =>
      match Text.digit? c with
      | some d => continueDigits (value * 10 + d) rest
      | none => none

def readDigits : List Char → Option Nat
  | [] => none
  | digits => continueDigits 0 digits

def readSigned : List Char → Option Int
  | '+' :: digits => (readDigits digits).map Int.ofNat
  | '-' :: digits => (readDigits digits).map fun n => -(Int.ofNat n)
  | digits => (readDigits digits).map Int.ofNat

def FitsInt32 (n : Int) : Prop :=
  -2147483648 ≤ n ∧ n ≤ 2147483647

instance (n : Int) : Decidable (FitsInt32 n) :=
  inferInstanceAs (Decidable (_ ∧ _))

def int32? (n : Int) : Option Int32 :=
  if FitsInt32 n then some (Int32.ofInt n) else none

def readInt32 (text : List Char) : Option Int32 :=
  (readSigned text).bind int32?

end LintBridge.Decimal
