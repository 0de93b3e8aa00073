import LintBridge.Console.Options
import LintBridge.LintError
import LintBridge.Settings.Discovery

/-!
# The workplace of a command

The project root and the settings that a command works with.  Settings come from the
file that is named, else from the project, and the options go before both.
-/

set_option autoImplicit false

namespace LintBridge.Console

inductive Fatal where
  | lint (error : LintError)
  | unreadable (path : Path) (cause : OsError)
  /-- The current directory is gone. -/
  | nowhere (cause : OsError)
  deriving DecidableEq, Repr

namespace Fatal

def message : Fatal → String
  | lint error => error.message
  | unreadable path cause => "Failed to read " ++ path.text ++ ": " ++ cause.message
  | nowhere cause => cause.message

/-- What caused it, as far as that is told once more. -/
def causes : Fatal → List String
  | lint (.launch _ cause) => [cause]
  | lint (.io cause) => [cause]
  | _ => []

end Fatal

structure Workplace where
  root : Path
  settings : LintSettings
  deriving DecidableEq, Repr

namespace Options

/-- Some option says how to lint. -/
def saysHowToLint (o : Options) : Bool :=
  o.settingsFile?.isSome || o.executable?.isSome || o.node?.isSome || o.configFile?.isSome
    || o.rulesDirectory?.isSome || o.allWarnings

/-- The settings with the options put in.  Who names an executable wants to lint. -/
def adjust (o : Options) (settings : LintSettings) : LintSettings :=
  { enabled := settings.enabled || o.executable?.isSome
    executable := o.executable?.getD settings.executable
    nodeInterpreter := o.node?.getD settings.nodeInterpreter
    configFile := o.configFile?.getD settings.configFile
    customRulesPath := o.rulesDirectory?.getD settings.customRulesPath
    treatAllAsWarnings := settings.treatAllAsWarnings || o.allWarnings }

def root (o : Options) : Job (Except Fatal Path) := do
  match o.projectRoot? with
  | some root => return .ok root
  | none => return (← Job.currentDirectory).mapError .nowhere

/-- The settings before the options are put in. -/
def loadSettings (o : Options) (root : Path) : Job (Except LintError LintSettings) := do
  match o.settingsFile? with
  | some file => LintSettings.ofFile file
  | none =>
      match ← LintSettings.discover root with
      | .error e => return .error e
      | .ok (some settings) => return .ok settings
      | .ok none =>
          Job.log .debug ("No settings file in " ++ root.text)
          return .ok .initial

def workplace (o : Options) : Job (Except Fatal Workplace) := do
  match ← o.root with
  | .error fatal => return .error fatal
  | .ok root =>
      match ← o.loadSettings root with
      | .error e => return .error (.lint e)
      | .ok settings => return .ok ⟨root, o.adjust settings⟩

end Options

end LintBridge.Console
