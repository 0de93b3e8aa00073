import LintBridge.Log
import LintBridge.Text.Basic

/-!
# Text on a screen

The log is shown on a screen, which must not take part of a text for a command.  So the
controls that a screen obeys are shown by their numbers; a line break, a tab and the
other controls stay.
-/

set_option autoImplicit false

namespace LintBridge.Console

def screenChar (c : Char) : List Char :=
  let n := c.toNat
  if 0x80 ≤ n && n ≤ 0x9F then ['\\', 'u', '\x7b'] ++ Text.hexDigits n ++ ['\x7d']
  else
    match c with
    | '\x07' => ['\\', 'x', '0', '7']
    | '\x08' => ['\\', 'x', '0', '8']
    | '\x0c' => ['\\', 'x', '0', 'c']
    | '\x1b' => ['\\', 'x', '1', 'b']
    | '\x7f' => ['\\', 'x', '7', 'f']
    | c => [c]

def screenEntry (entry : LogEntry) : LogEntry :=
  { entry with text := String.ofList (entry.text.toList.flatMap screenChar) }

end LintBridge.Console
