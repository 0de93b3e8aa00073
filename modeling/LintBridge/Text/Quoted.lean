import LintBridge.Text.Basic
import LintBridge.Text.Invisible

/-!
# Quoted text

A text between double quotes that shows what cannot be seen.  The quote and the
backslash are escaped, five controls by a letter, and every other invisible
character by its number in braces.
-/

set_option autoImplicit false

namespace LintBridge.Text

def quotedChar (c : Char) : List Char :=
  match c with
  | '\t' => ['\\', 't']
  | '\r' => ['\\', 'r']
  | '\n' => ['\\', 'n']
  | '\x00' => ['\\', '0']
  | '"' => ['\\', '"']
  | '\\' => ['\\', '\\']
  | c =>
      if isInvisible c then ['\\', 'u', '\x7b'] ++ hexDigits c.toNat ++ ['\x7d']
      else [c]

def quoted (text : String) : String :=
  String.ofList ('"' :: text.toList.flatMap quotedChar ++ ['"'])

end LintBridge.Text
