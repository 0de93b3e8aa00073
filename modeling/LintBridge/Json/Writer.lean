import LintBridge.Decimal.Shortest
import LintBridge.Json.Basic
import LintBridge.Text.Basic

/-!
# Writing JSON

The compact text has no white space; the indented one has two spaces for every level
and keeps empty containers closed.  A fraction has the fewest digits that read back,
positional for decimal exponents from -5 to 15.
-/

set_option autoImplicit false

namespace LintBridge.Json

/-- Exponents beyond the positional range always have a sign. -/
def numberLayout : Decimal.Layout :=
  ⟨-5, 15, true⟩

def escapeChar (c : Char) : List Char :=
  match c with
  | '"' => ['\\', '"']
  | '\\' => ['\\', '\\']
  | '\x08' => ['\\', 'b']
  | '\x0c' => ['\\', 'f']
  | '\n' => ['\\', 'n']
  | '\r' => ['\\', 'r']
  | '\t' => ['\\', 't']
  | c =>
      if c.toNat < 0x20 then
        ['\\', 'u'] ++ Decimal.padLeft 4 (Text.hexDigits c.toNat)
      else [c]

def writeString (text : String) : List Char :=
  '"' :: text.toList.flatMap escapeChar ++ ['"']

def separated (separator : List Char) : List (List Char) → List Char
  | [] => []
  | [part] => part
  | part :: rest => part ++ separator ++ separated separator rest

mutual

def write : Json → List Char
  | .null => "null".toList
  | .bool true => "true".toList
  | .bool false => "false".toList
  | .integer n => (toString n).toList
  | .decimal x => (numberLayout.writeFloat x).toList
  | .string text => writeString text
  | .array items => '[' :: separated [','] (writeItems items) ++ [']']
  | .object members => '\x7b' :: separated [','] (writeMembers members) ++ ['\x7d']

def writeItems : List Json → List (List Char)
  | [] => []
  | item :: rest => write item :: writeItems rest

def writeMembers : List (String × Json) → List (List Char)
  | [] => []
  | (key, value) :: rest => (writeString key ++ ':' :: write value) :: writeMembers rest

end

def compact (value : Json) : String :=
  String.ofList (write value)

def lineBreak (level : Nat) : List Char :=
  '\n' :: List.replicate (2 * level) ' '

/-- A container whose parts stand on lines of their own. -/
def block (level : Nat) (first last : Char) (parts : List (List Char)) : List Char :=
  if parts.isEmpty then [first, last]
  else
    first :: lineBreak (level + 1) ++ separated (',' :: lineBreak (level + 1)) parts
      ++ lineBreak level ++ [last]

mutual

def indent (level : Nat) : Json → List Char
  | .array items => block level '[' ']' (indentItems level items)
  | .object members => block level '\x7b' '\x7d' (indentMembers level members)
  | .null => write .null
  | .bool value => write (.bool value)
  | .integer n => write (.integer n)
  | .decimal x => write (.decimal x)
  | .string text => writeString text

def indentItems (level : Nat) : List Json → List (List Char)
  | [] => []
  | item :: rest => indent (level + 1) item :: indentItems level rest

def indentMembers (level : Nat) : List (String × Json) → List (List Char)
  | [] => []
  | (key, value) :: rest =>
      (writeString key ++ ':' :: ' ' :: indent (level + 1) value) :: indentMembers level rest

end

def indented (value : Json) : String :=
  String.ofList (indent 0 value)

end LintBridge.Json
