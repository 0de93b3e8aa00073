import LintBridge.Text.Basic

/-!
# Numbers as hosts

The addresses of 32 and of 128 bits, as they are read and written.
-/

set_option autoImplicit false

/-!
## Addresses of 32 bits

An address is written as four numbers with dots between them.  When one is read, the
numbers may have the base eight or sixteen, and the last of fewer numbers fills the bytes
of those that are missing.
-/

namespace LintBridge.Uri

structure IpV4 where
  bits : UInt32
  deriving DecidableEq, Repr

namespace IpV4

def bytes (address : IpV4) : List Nat :=
  let n := address.bits.toNat
  [n / 16777216, n / 65536 % 256, n / 256 % 256, n % 256]

def text (address : IpV4) : String :=
  String.intercalate "." (address.bytes.map toString)

def based : List Char → Nat × List Char
  | '0' :: 'x' :: digits | '0' :: 'X' :: digits => (16, digits)
  | '0' :: digit :: digits => (8, digit :: digits)
  | digits => (10, digits)

def readNumber? (text : List Char) : Option Nat := do
  if text.isEmpty then none
  else
    let (base, digits) := based text
    digits.foldlM (fun n c => do
      let digit ← Text.hexDigit? c
      if digit < base then some (n * base + digit) else none) 0

/-- The parts of a name between its dots, without an empty one at the end. -/
def partsOf (name : List Char) : List (List Char) :=
  let parts := name.splitOn '.'
  if 1 < parts.length && parts.getLast? = some [] then parts.dropLast else parts

/-- The name is to be read as an address: its last part is a number. -/
def endsInNumber (name : List Char) : Bool :=
  (partsOf name).getLast?.any fun last =>
    (!last.isEmpty && last.all Char.isDigit) || (readNumber? last).isSome

/-- The address of the numbers of its bytes but the last, and of the rest. -/
def ofNumbers? (front : List Nat) (last : Nat) : Option IpV4 :=
  if front.length ≤ 3 && front.all (· < 256) && last < Nat.pow 256 (4 - front.length) then
    let high := front.foldl (fun n byte => n * 256 + byte) 0
    some ⟨UInt32.ofNat (high * Nat.pow 256 (4 - front.length) + last)⟩
  else none

def read? (name : List Char) : Option IpV4 := do
  let numbers ← (partsOf name).mapM readNumber?
  ofNumbers? numbers.dropLast (← numbers.getLast?)

/-- A number of a byte without needless digits. -/
def readByte? (digits : List Char) : Option Nat :=
  let n := digits.foldl (fun n c => n * 10 + (c.toNat - 48)) 0
  if digits.all Char.isDigit && (toString n).toList = digits && n < 256 then some n else none

def readStrict? (text : List Char) : Option IpV4 := do
  let numbers ← (text.splitOn '.').mapM readByte?
  if numbers.length = 4 then ofNumbers? numbers.dropLast (← numbers.getLast?) else none

end IpV4

end LintBridge.Uri

/-!
## Addresses of 128 bits

An address is written as eight groups of hexadecimal digits with colons between them.
Two colons stand for the longest run of zeros, and the last two groups may come as an
address of 32 bits.
-/

namespace LintBridge.Uri

structure IpV6 where
  groups : List Nat
  length_eq : groups.length = 8
  deriving DecidableEq, Repr

namespace IpV6

/-! ## Writing -/

def zeros (groups : List Nat) : Nat :=
  (groups.takeWhile (· = 0)).length

/-- Where the longest run of zeros begins and how long it is, the first one of several;
the groups begin at a place. -/
def longestZeros : Nat → List Nat → Nat × Nat
  | place, [] => (place, 0)
  | place, group :: rest =>
      let here := zeros (group :: rest)
      let later := longestZeros (place + 1) rest
      if later.2 ≤ here then (place, here) else later

def groupsText (groups : List Nat) : String :=
  String.intercalate ":" (groups.map fun group => String.ofList (Text.hexDigits group))

def text (address : IpV6) : String :=
  let (start, length) := longestZeros 0 address.groups
  if 1 < length then
    groupsText (address.groups.take start) ++ "::"
      ++ groupsText (address.groups.drop (start + length))
  else groupsText address.groups

def describe (address : IpV6) : String :=
  match address.groups with
  | [0, 0, 0, 0, 0, 0xFFFF, high, low] =>
      "::ffff:" ++ (IpV4.mk (UInt32.ofNat (high * 65536 + low))).text
  | _ => address.text

/-! ## Reading -/

def readGroup? (digits : List Char) : Option Nat :=
  if digits.isEmpty || 4 < digits.length then none
  else digits.foldlM (fun n c => (Text.hexDigit? c).map (n * 16 + ·)) 0

def readGroups? (text : List Char) : Option (List Nat) :=
  if text.isEmpty then some [] else (text.splitOn ':').mapM readGroup?

/-- Groups of which the last two may come as an address of 32 bits. -/
def readEnd? (text : List Char) : Option (List Nat) :=
  if text.contains '.' then do
    let last := (text.reverse.takeWhile (· ≠ ':')).reverse
    let front := text.take (text.length - last.length - 1)
    let n := (← IpV4.readStrict? last).bits.toNat
    if front.isEmpty && last.length ≠ text.length then none
    else some ((← readGroups? front) ++ [n / 65536, n % 65536])
  else readGroups? text

def cutGap : List Char → List Char × Option (List Char)
  | [] => ([], none)
  | ':' :: ':' :: rest => ([], some rest)
  | c :: rest =>
      let (front, back?) := cutGap rest
      (c :: front, back?)

/-- The address of groups, if there are as many as there must be. -/
def ofGroups? (groups : List Nat) : Option IpV6 :=
  if h : groups.length = 8 then some ⟨groups, h⟩ else none

def read? (text : List Char) : Option IpV6 := do
  match cutGap text with
  | (front, none) => ofGroups? (← readEnd? front)
  | (front, some back) =>
      let high ← readGroups? front
      let low ← readEnd? back
      if high.length + low.length < 8 then
        ofGroups? (high ++ List.replicate (8 - high.length - low.length) 0 ++ low)
      else none

end IpV6

end LintBridge.Uri
