import LintBridge.Text.Quoted
import LintBridge.Text.Utf8

/-!
# Stray bytes

The name of a file may have bytes that belong to no character.  So that a text can hold
such a name, each stray byte is kept as a character of its own, one of the last private
characters there are; a private character that is one of these is kept as its bytes.
-/

set_option autoImplicit false

namespace LintBridge.Text.Stray

/-- The character that is kept for a stray byte, which is at least 128. -/
def keeper (byte : UInt8) : Char :=
  Char.ofNat (0x10FF00 + byte.toNat)

def isKeeper (c : Char) : Bool :=
  0x10FF80 ≤ c.toNat

def keep (c : Char) : List Char :=
  if isKeeper c then (encode (String.singleton c)).map keeper else [c]

def keepText (text : String) : String :=
  String.ofList (text.toList.flatMap keep)

def first? (bytes : Bytes) : Option Char :=
  [1, 2, 3, 4].findSome? fun size =>
    match Utf8.readings (bytes.take size) with
    | [some c] => some c
    | _ => none

/-- Writes the characters and the stray bytes of a sequence, behind so many bytes that
are passed over. -/
def write (character : Char → List Char) (stray : UInt8 → List Char) :
    Nat → Bytes → List Char
  | _, [] => []
  | passed + 1, _ :: rest => write character stray passed rest
  | 0, byte :: rest =>
      match first? (byte :: rest) with
      | some c => character c ++ write character stray (c.utf8Size - 1) rest
      | none => stray byte ++ write character stray 0 rest

def ofBytes (bytes : Bytes) : String :=
  String.ofList (write keep (fun byte => [keeper byte]) 0 bytes)

def bytes (text : String) : Bytes :=
  text.toList.flatMap fun c =>
    if isKeeper c then [UInt8.ofNat (c.toNat - 0x10FF00)] else encode (String.singleton c)

/-- The text as it is shown, with U+FFFD for what belongs to no character. -/
def shown (text : String) : String :=
  if text.toList.any isKeeper then decodeLossy (bytes text) else text

/-- A stray byte in a quoted text, by its number. -/
def quotedByte (byte : UInt8) : List Char :=
  ['\\', 'x'] ++ (hexDigits byte.toNat).map Char.toUpper

def quoted (text : String) : String :=
  if text.toList.any isKeeper then
    String.ofList ('"' :: write quotedChar quotedByte 0 (bytes text) ++ ['"'])
  else Text.quoted text

end LintBridge.Text.Stray
