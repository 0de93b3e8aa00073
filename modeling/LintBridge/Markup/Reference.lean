import LintBridge.Markup.Basic
import LintBridge.Text.Basic

/-!
# References in attribute values

Between an ampersand and a semicolon stands the name of one of five characters,
or a character's number, in decimal or, behind an `x`, in hexadecimal digits.
Everything else in a value stands for itself.  Places are bytes of the value.
-/

set_option autoImplicit false

namespace LintBridge.Markup

inductive NumberFault where
  | signed
  | empty
  | notADigit
  | tooLarge
  | zero
  | notACharacter (n : Nat)
  deriving DecidableEq, Repr

inductive ReferenceFault where
  | unterminated (start stop : Nat)
  | unknown (start stop : Nat) (name : String)
  | number (fault : NumberFault)
  deriving DecidableEq, Repr

namespace NumberFault

def message : NumberFault → String
  | signed => "unexpected number sign"
  | empty => "cannot parse integer from empty string"
  | notADigit => "invalid digit found in string"
  | tooLarge => "number too large to fit in target type"
  | zero => "0x0 character is not permitted in XML"
  | notACharacter n => "`" ++ toString n ++ "` is not a valid codepoint"

end NumberFault

namespace ReferenceFault

def message : ReferenceFault → String
  | unterminated start stop =>
      "Error while escaping character at range " ++ toString start ++ ".." ++ toString stop
        ++ ": Cannot find ';' after '&'"
  | unknown start stop name =>
      "at " ++ toString start ++ ".." ++ toString stop ++ ": unrecognized entity `" ++ name
        ++ "`"
  | number fault => "invalid character reference: " ++ fault.message

end ReferenceFault

namespace Reference

inductive Base where
  | ten
  | sixteen
  deriving DecidableEq, Repr

namespace Base

def size : Base → Nat
  | ten => 10
  | sixteen => 16

def digit? : Base → Char → Option Nat
  | ten => Text.digit?
  | sixteen => Text.hexDigit?

end Base

/-- The number that the digits continue, as long as it fits 32 bits. -/
def continueDigits (base : Base) : Nat → List Char → Except NumberFault Nat
  | value, [] => .ok value
  | value, c :: rest =>
      match base.digit? c with
      | none => .error .notADigit
      | some d =>
          let next := value * base.size + d
          if next < 4294967296 then continueDigits base next rest else .error .tooLarge

def readDigits (base : Base) : List Char → Except NumberFault Nat
  | [] => .error .empty
  | '+' :: _ => .error .signed
  | '-' :: _ => .error .signed
  | digits => continueDigits base 0 digits

def charOfNumber (n : Nat) : Except NumberFault Char :=
  if n = 0 then .error .zero
  else if n.isValidChar then .ok (Char.ofNat n)
  else .error (.notACharacter n)

def readNumber : List Char → Except NumberFault Char
  | 'x' :: digits => readDigits .sixteen digits >>= charOfNumber
  | digits => readDigits .ten digits >>= charOfNumber

def named? (name : List Char) : Option Char :=
  match String.ofList name with
  | "lt" => some '<'
  | "gt" => some '>'
  | "amp" => some '&'
  | "apos" => some '\''
  | "quot" => some '"'
  | _ => none

/-- The character of a complete reference whose ampersand stands at `byte`. -/
def resolve (byte : Nat) (name : List Char) : Except ReferenceFault Char :=
  match name with
  | '#' :: number =>
      match readNumber number with
      | .ok c => .ok c
      | .error fault => .error (.number fault)
  | _ =>
      match named? name with
      | some c => .ok c
      | none => .error (.unknown (byte + 1) (byte + 1 + Text.length8 name) (String.ofList name))

/-- Decodes the characters to come.  `open?` is the reference being read: the byte
of its ampersand and its characters, the last one first. -/
def run (size : Nat) : Option (Nat × List Char) → Nat → List Char →
    Except ReferenceFault (List Char)
  | none, _, [] => .ok []
  | some (start, _), _, [] => .error (.unterminated start size)
  | none, byte, c :: rest =>
      if c = '&' then run size (some (byte, [])) (byte + 1) rest
      else (run size none (byte + c.utf8Size) rest).map (c :: ·)
  | some (start, reversed), byte, c :: rest =>
      if c = ';' then
        match resolve start reversed.reverse with
        | .error fault => .error fault
        | .ok found => (run size none (byte + 1) rest).map (found :: ·)
      else if c = '&' then .error (.unterminated start size)
      else run size (some (start, c :: reversed)) (byte + c.utf8Size) rest

end Reference

def decodeValue (value : List Char) : Except ReferenceFault String :=
  (Reference.run (Text.length8 value) none 0 value).map String.ofList

end LintBridge.Markup
