/-!
# Letters and digits for any text

A text is written with letters, digits and hyphens only: first its plain characters, and
behind a hyphen the places and the code points of the others, by the steps from one to
the next in increasing order.  A step is a number whose digits have the base 36; how many
digits it may have adapts itself to the steps before.
-/

set_option autoImplicit false

namespace LintBridge.Domain.Punycode

def digit (n : Nat) : Char :=
  if n < 26 then Char.ofNat (97 + n) else Char.ofNat (22 + n)

def digit? (c : Char) : Option Nat :=
  if 'a' ≤ c ∧ c ≤ 'z' then some (c.toNat - 97)
  else if 'A' ≤ c ∧ c ≤ 'Z' then some (c.toNat - 65)
  else if c.isDigit then some (c.toNat - 22)
  else none

/-- A digit below this ends a number; `k` is 36 for the first digit and grows by 36. -/
def threshold (k bias : Nat) : Nat :=
  max 1 (min 26 (k - bias))

/-- How often a step is divided until it is small, times 36, and what is left. -/
def shrink (step k : Nat) : Nat × Nat :=
  if 455 < step then shrink (step / 35) (k + 36) else (step, k)
termination_by step
decreasing_by exact Nat.div_lt_self (by omega) (by omega)

/-- The bias after a step, which was the first one or a later one. -/
def adapt (step count : Nat) (isFirst : Bool) : Nat :=
  let step := if isFirst then step / 700 else step / 2
  let (small, k) := shrink (step + step / count) 0
  k + 36 * small / (small + 38)

/-! ## Writing -/

def writeNumber (bias k n : Nat) : List Char :=
  let t := threshold k bias
  if n < t then [digit n]
  else digit (t + (n - t) % (36 - t)) :: writeNumber bias (k + 36) ((n - t) / (36 - t))
termination_by n
decreasing_by
  have positive : 1 ≤ threshold k bias := by unfold threshold; omega
  have : (n - threshold k bias) / (36 - threshold k bias) ≤ n - threshold k bias :=
    Nat.div_le_self _ _
  omega

structure Writing where
  out : List Char
  step : Nat
  bias : Nat
  count : Nat

def Writing.pass (plain code : Nat) (w : Writing) (c : Char) : Writing :=
  if c.toNat < code then { w with step := w.step + 1 }
  else if c.toNat = code then
    { out := w.out ++ writeNumber w.bias 36 w.step
      step := 0
      bias := adapt w.step (w.count + 1) (w.count = plain)
      count := w.count + 1 }
  else w

/-- Writes the code points in increasing order, from one that is the least possible. -/
def writeCodes (text : List Char) (plain : Nat) : List Nat → Nat → Writing → Writing
  | [], _, w => w
  | code :: rest, least, w =>
      let w := { w with step := w.step + (code - least) * (w.count + 1) }
      let w := text.foldl (Writing.pass plain code) w
      writeCodes text plain rest (code + 1) { w with step := w.step + 1 }

/-- Puts a number at its place, once. -/
def insertOnce (n : Nat) : List Nat → List Nat
  | [] => [n]
  | m :: rest =>
      if n < m then n :: m :: rest
      else if n = m then m :: rest
      else m :: insertOnce n rest

def write (text : List Char) : List Char :=
  let plain := text.filter (·.toNat < 0x80)
  let others := text.filter (0x80 ≤ ·.toNat)
  let codes := others.foldr (fun c codes => insertOnce c.toNat codes) []
  plain ++ (if plain.isEmpty then [] else ['-'])
    ++ (writeCodes text plain.length codes 0x80 ⟨[], 0, 72, plain.length⟩).out

/-! ## Reading -/

structure Reading where
  text : List Char
  code : Nat
  place : Nat
  bias : Nat
  /-- The place before the number that is read. -/
  start : Nat
  weight : Nat
  k : Nat

/-- Puts the character of a number in that is read to its end. -/
def Reading.put? (r : Reading) : Option Reading :=
  let count := r.text.length + 1
  let code := r.code + r.place / count
  let place := r.place % count
  if code.isValidChar then
    some
      { text := r.text.take place ++ Char.ofNat code :: r.text.drop place
        code
        place := place + 1
        bias := adapt (r.place - r.start) count (r.start = 0)
        start := place + 1
        weight := 1
        k := 36 }
  else none

def readNumbers? (r : Reading) : List Char → Option (List Char)
  | [] => if r.k = 36 then some r.text else none
  | c :: rest =>
      match digit? c with
      | none => none
      | some n =>
          let t := threshold r.k r.bias
          let r := { r with place := r.place + n * r.weight }
          if n < t then
            match r.put? with
            | some r => readNumbers? r rest
            | none => none
          else readNumbers? { r with weight := r.weight * (36 - t), k := r.k + 36 } rest

def read? (written : List Char) : Option (List Char) :=
  let digits := (written.reverse.takeWhile (· ≠ '-')).reverse
  let plain := written.take (written.length - digits.length - 1)
  readNumbers? ⟨plain, 0x80, 0, 72, 0, 1, 36⟩ digits

end LintBridge.Domain.Punycode
