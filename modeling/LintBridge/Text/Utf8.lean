/-!
# UTF-8

Bytes of processes and files become text here.  A byte sequence is read as a
list of readings: a character, or `none` for each maximal part of a character
that is not continued as it must be.  `decodeLossy` writes U+FFFD for such a
part; `decode?` refuses it.
-/

set_option autoImplicit false

namespace LintBridge

abbrev Bytes := List UInt8

namespace Text

namespace Utf8

/-- A character of which some bytes are read: the bits so far, the number of
bytes owed, and the range in which the next one must lie. -/
structure Partial where
  bits : Nat
  owed : Nat
  low : UInt8
  high : UInt8

inductive Lead where
  | whole (c : Char)
  | more (partly : Partial)
  | stray

/-- The byte that opens a character fixes its length, and for four of them a
narrower range of the second byte. -/
def lead (b : UInt8) : Lead :=
  let n := b.toNat
  if n < 0x80 then .whole (Char.ofNat n)
  else if n < 0xC2 then .stray
  else if n < 0xE0 then .more ⟨n - 0xC0, 1, 0x80, 0xBF⟩
  else if n = 0xE0 then .more ⟨0, 2, 0xA0, 0xBF⟩
  else if n = 0xED then .more ⟨0xD, 2, 0x80, 0x9F⟩
  else if n < 0xF0 then .more ⟨n - 0xE0, 2, 0x80, 0xBF⟩
  else if n = 0xF0 then .more ⟨0, 3, 0x90, 0xBF⟩
  else if n < 0xF4 then .more ⟨n - 0xF0, 3, 0x80, 0xBF⟩
  else if n = 0xF4 then .more ⟨4, 3, 0x80, 0x8F⟩
  else .stray

def startStep (b : UInt8) : List (Option Char) × Option Partial :=
  match lead b with
  | .whole c => ([some c], none)
  | .more partly => ([], some partly)
  | .stray => ([none], none)

/-- One byte: the readings it completes and the character it leaves open.  A
byte that does not continue the open character ends it as an invalid part and
is read again from the start. -/
def step : Option Partial → UInt8 → List (Option Char) × Option Partial
  | none, b => startStep b
  | some p, b =>
      if p.low ≤ b && b ≤ p.high then
        let bits := p.bits * 64 + (b.toNat - 0x80)
        if p.owed ≤ 1 then ([some (Char.ofNat bits)], none)
        else ([], some ⟨bits, p.owed - 1, 0x80, 0xBF⟩)
      else
        let again := startStep b
        (none :: again.1, again.2)

/-- The readings so far, the last one first, and the character left open. -/
abbrev State := List (Option Char) × Option Partial

def feed (state : State) (b : UInt8) : State :=
  let (done, next) := step state.2 b
  (done.reverse ++ state.1, next)

/-- At the end an open character is an invalid part. -/
def close (state : State) : List (Option Char) :=
  match state.2 with
  | none => state.1.reverse
  | some _ => (none :: state.1).reverse

def readings (bytes : Bytes) : List (Option Char) :=
  close (bytes.foldl feed ([], none))

end Utf8

def encode (text : String) : Bytes :=
  text.toUTF8.toList

/-- The text of a byte sequence, with U+FFFD for each invalid part. -/
def decodeLossy (bytes : Bytes) : String :=
  String.ofList ((Utf8.readings bytes).map (·.getD '\uFFFD'))

def decode? (bytes : Bytes) : Option String :=
  ((Utf8.readings bytes).mapM id).map String.ofList

end Text

end LintBridge
