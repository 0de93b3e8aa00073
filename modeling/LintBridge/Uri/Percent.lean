import LintBridge.Text.Basic
import LintBridge.Text.Utf8

/-!
# Percent encoding

A byte written as a percent sign and two hexadecimal digits.  Characters outside ASCII
and control characters are always written so, byte by byte; which others are depends on
the part of the address.  A percent sign stands for itself unless two digits follow.
-/

set_option autoImplicit false

namespace LintBridge.Uri

def upperDigit (n : Nat) : Char :=
  if n < 10 then Char.ofNat (48 + n) else Char.ofNat (55 + n)

def encodeByte (b : UInt8) : List Char :=
  ['%', upperDigit (b.toNat / 16), upperDigit (b.toNat % 16)]

def isForeign (c : Char) : Bool :=
  c.toNat < 0x20 || 0x7F ≤ c.toNat

/-- Encodes what is foreign and the given characters. -/
def encode (others : List Char) (text : List Char) : List Char :=
  text.flatMap fun c =>
    if isForeign c || others.contains c then
      (Text.encode (String.singleton c)).flatMap encodeByte
    else [c]

def decode : List Char → Bytes
  | [] => []
  | '%' :: high :: low :: rest =>
      match Text.hexDigit? high, Text.hexDigit? low with
      | some h, some l => UInt8.ofNat (h * 16 + l) :: decode rest
      | _, _ => Text.encode "%" ++ decode (high :: low :: rest)
  | c :: rest => Text.encode (String.singleton c) ++ decode rest

def fragmentEscapes : List Char :=
  [' ', '"', '<', '>', '\x60']

def pathEscapes : List Char :=
  fragmentEscapes ++ ['#', '?', '\x7b', '\x7d']

def userEscapes : List Char :=
  pathEscapes ++ ['/', ':', ';', '=', '@', '[', '\\', ']', '^', '|']

def queryEscapes (special : Bool) : List Char :=
  [' ', '"', '#', '<', '>'] ++ if special then ['\x27'] else []

end LintBridge.Uri
