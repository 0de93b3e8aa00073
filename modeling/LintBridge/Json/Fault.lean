/-!
# Faults in JSON texts

What can be wrong with a text, its wording, and its place.  Lines count from one
and columns are bytes of the line.
-/

set_option autoImplicit false

namespace LintBridge.Json

inductive Fault where
  | endInValue
  | endInList
  | endInObject
  | endInString
  | noColon
  | noListEnd
  | noObjectEnd
  | unknownWord
  | noValue
  | badEscape
  | badNumber
  | numberTooLarge
  | rawControl
  | keyNotString
  | loneSurrogate
  | missingSurrogate
  | trailingComma
  | trailingCharacters
  | tooDeep
  deriving DecidableEq, Repr

namespace Fault

def message : Fault → String
  | endInValue => "EOF while parsing a value"
  | endInList => "EOF while parsing a list"
  | endInObject => "EOF while parsing an object"
  | endInString => "EOF while parsing a string"
  | noColon => "expected `:`"
  | noListEnd => "expected `,` or `]`"
  | noObjectEnd => "expected `,` or `\x7d`"
  | unknownWord => "expected ident"
  | noValue => "expected value"
  | badEscape => "invalid escape"
  | badNumber => "invalid number"
  | numberTooLarge => "number out of range"
  | rawControl => "control character (\\u0000-\\u001F) found while parsing a string"
  | keyNotString => "key must be a string"
  | loneSurrogate => "lone leading surrogate in hex escape"
  | missingSurrogate => "unexpected end of hex escape"
  | trailingComma => "trailing comma"
  | trailingCharacters => "trailing characters"
  | tooDeep => "recursion limit exceeded"

end Fault

structure Place where
  line : Nat
  column : Nat
  deriving DecidableEq, Repr

namespace Place

def start : Place :=
  ⟨1, 0⟩

/-- Behind the first bytes of a character; behind none of them it is the same place. -/
def into (p : Place) (c : Char) (bytes : Nat) : Place :=
  if bytes ≠ 0 && c = '\n' then ⟨p.line + 1, 0⟩ else ⟨p.line, p.column + bytes⟩

def past (p : Place) (c : Char) : Place :=
  p.into c c.utf8Size

end Place

structure Misread where
  fault : Fault
  place : Place
  deriving DecidableEq, Repr

def Misread.message (m : Misread) : String :=
  m.fault.message ++ " at line " ++ toString m.place.line ++ " column "
    ++ toString m.place.column

end LintBridge.Json
