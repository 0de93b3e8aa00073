import LintBridge.Path.Basic

/-!
# Raw texts

The programs of a machine work on bytes.  A raw text keeps each byte as the character
of its number, so every content of a file can pass through, and so can its parts.
-/

set_option autoImplicit false

namespace LintBridge

abbrev Raw := List Char

namespace Raw

def ofBytes (bytes : Bytes) : Raw :=
  bytes.map fun b => Char.ofNat b.toNat

def toBytes (raw : Raw) : Bytes :=
  raw.map fun c => UInt8.ofNat c.toNat

def ofString (text : String) : Raw :=
  ofBytes (Text.encode text)

def ofName (name : String) : Raw :=
  ofBytes (Text.Stray.bytes name)

def ofPath (path : Path) : Raw :=
  ofBytes path.bytes

def toString (raw : Raw) : String :=
  Text.decodeLossy (toBytes raw)

def toPath (raw : Raw) : Path :=
  .ofBytes (toBytes raw)

/-- The characters that the bytes write; a byte that belongs to none is kept as one of
its own. -/
def letters (raw : Raw) : List Char :=
  if raw.all fun c => c.toNat < 128 then raw else (Text.Stray.ofBytes (toBytes raw)).toList

def ofLetters (letters : List Char) : Raw :=
  if letters.all fun c => c.toNat < 128 then letters
  else ofBytes (Text.Stray.bytes (String.ofList letters))

def ofNat (n : Nat) : Raw :=
  Nat.toDigits 10 n

def ofInt (n : Int) : Raw :=
  if n < 0 then '-' :: ofNat n.natAbs else ofNat n.natAbs

def digitsValue (digits : Raw) : Nat :=
  digits.foldl (fun n c => n * 10 + (c.toNat - 48)) 0

def nat? (raw : Raw) : Option Nat :=
  if raw.isEmpty || !raw.all Char.isDigit then none else some (digitsValue raw)

def int? (raw : Raw) : Option Int :=
  match raw with
  | '-' :: digits => (nat? digits).map fun n => -(n : Int)
  | '+' :: digits => (nat? digits).map Int.ofNat
  | digits => (nat? digits).map Int.ofNat

def join (mark : Char) : List Raw → Raw
  | [] => []
  | [part] => part
  | part :: rest => part ++ mark :: join mark rest

def split (mark : Char) (raw : Raw) : List Raw :=
  go [] raw
where
  go (reversed : Raw) : Raw → List Raw
    | [] => [reversed.reverse]
    | c :: rest => if c = mark then reversed.reverse :: go [] rest else go (c :: reversed) rest

/-- The parts that end with a mark, without it; the last one may have none. -/
def splitEnded (mark : Char) (raw : Raw) : List Raw :=
  go [] raw
where
  go (reversed : Raw) : Raw → List Raw
    | [] => if reversed.isEmpty then [] else [reversed.reverse]
    | c :: rest => if c = mark then reversed.reverse :: go [] rest else go (c :: reversed) rest

def endsLine (raw : Raw) : Bool :=
  match raw.getLast? with
  | some c => c = '\n'
  | none => true

def lines (raw : Raw) : List Raw :=
  splitEnded '\n' raw

def ofLines (lines : List Raw) : Raw :=
  lines.flatMap fun line => line ++ ['\n']

def wholeLines (raw : Raw) : List Raw :=
  let parts := lines raw
  if endsLine raw then parts.map (· ++ ['\n'])
  else parts.dropLast.map (· ++ ['\n']) ++ (parts.getLast?.map ([·])).getD []

def isBlank (c : Char) : Bool :=
  c = ' ' || c = '\t'

def isSpace (c : Char) : Bool :=
  c = ' ' || ('\t' ≤ c && c ≤ '\r')

def trimLeft (cut : Char → Bool) (raw : Raw) : Raw :=
  raw.dropWhile cut

def trimRight (cut : Char → Bool) (raw : Raw) : Raw :=
  (raw.reverse.dropWhile cut).reverse

def trim (cut : Char → Bool) (raw : Raw) : Raw :=
  trimRight cut (trimLeft cut raw)

/-- A text at the left of a field that is filled up with spaces. -/
def padRight (width : Nat) (raw : Raw) : Raw :=
  raw ++ List.replicate (width - raw.length) ' '

/-- A text at the right of a field that is filled up with spaces. -/
def padLeft (width : Nat) (raw : Raw) : Raw :=
  List.replicate (width - raw.length) ' ' ++ raw

def le : Raw → Raw → Bool
  | [], _ => true
  | _ :: _, [] => false
  | a :: rest, b :: others => if a = b then le rest others else a < b

end Raw

end LintBridge
