/-!
# Errors

What can go wrong between the editor's text and the linter's answer, and how it is
told.  A time budget is kept in microseconds and told in whole milliseconds.
-/

set_option autoImplicit false

namespace LintBridge

inductive LintError where
  | config (message : String)
  | launch (command cause : String)
  | timeout (command : String) (micros : Nat)
  | malformedReport (message : String)
  | io (message : String)
  | internal (message : String)
  deriving DecidableEq, Repr

namespace LintError

def message : LintError → String
  | config message => "Configuration error: " ++ message
  | launch command cause => "Failed to launch '" ++ command ++ "': " ++ cause
  | timeout command micros =>
      "Command '" ++ command ++ "' is timed out after " ++ toString (micros / 1000) ++ "ms."
  | malformedReport message => "Malformed checkstyle report: " ++ message
  | io message => "I/O error: " ++ message
  | internal message => "Internal error: " ++ message

def isTimeout : LintError → Bool
  | timeout _ _ => true
  | _ => false

end LintError

end LintBridge
