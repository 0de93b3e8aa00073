import LintBridge.Host.Job
import LintBridge.Settings.FileKind
import LintBridge.Settings.Reader

/-!
# Settings of a project

Where settings are read from, and whether the paths in them lead to what they should.
-/

set_option autoImplicit false

namespace LintBridge

namespace Job

def readText (path : Path) : Job (Except OsError String) := do
  match ← read path with
  | .error e => return .error e
  | .ok bytes =>
      match Text.decode? bytes with
      | some text => return .ok text
      | none => return .error .notUtf8

def isFile (path : Path) : Job Bool := do
  return decide ((← kind path) = some .file)

def isDirectory (path : Path) : Job Bool := do
  return decide ((← kind path) = some .directory)

def doesExist (path : Path) : Job Bool := do
  return (← kind path).isSome

end Job

namespace LintSettings

def ofFile (path : Path) : Job (Except LintError LintSettings) := do
  match ← Job.readText path with
  | .error e => return .error (.config ("Failed to read " ++ path.text ++ ": " ++ e.message))
  | .ok text => return ofText text

def fileIn (root : Path) : Path :=
  root.join (Path.ofText settingsName)

def discover (root : Path) : Job (Except LintError (Option LintSettings)) := do
  let path := fileIn root
  if ← Job.isFile path then
    Job.log .debug ("Loading settings from " ++ path.text)
    let loaded ← ofFile path
    return loaded.map some
  else
    Job.log .debug ("No settings file at " ++ path.text)
    return .ok none

end LintSettings

inductive SettingsProblem where
  | executable
  | interpreter
  | configFile
  | rulesPath
  deriving DecidableEq, Repr

namespace SettingsProblem

def name : SettingsProblem → String
  | executable => "invalidExecutable"
  | interpreter => "invalidInterpreter"
  | configFile => "invalidConfigFile"
  | rulesPath => "invalidRulesPath"

def message : SettingsProblem → String
  | executable => "Path to coffeelint is invalid"
  | interpreter => "Path to node interpreter is invalid"
  | configFile => "Path to coffeelint config is invalid"
  | rulesPath => "Path to custom rules is invalid"

def warnAll : List SettingsProblem → Job Unit
  | [] => return ()
  | problem :: rest => do
      Job.log .warn problem.message
      warnAll rest

end SettingsProblem

namespace LintSettings

def leadsTo (kind : FileKind) (root : Path) (value : String) : Job Bool := do
  return decide ((← Job.kind (resolve root value)) = some kind)

def isUnsetOr (kind : FileKind) (root : Path) (value : String) : Job Bool :=
  if value = "" then pure true else leadsTo kind root value

def isSetAnd (kind : FileKind) (root : Path) (value : String) : Job Bool :=
  if value = "" then pure false else leadsTo kind root value

/-- The problems of the settings, in the order of the members. -/
def problems (settings : LintSettings) (root : Path) : Job (List SettingsProblem) := do
  let executable ← isSetAnd .file root settings.executable
  let interpreter ← isUnsetOr .file root settings.nodeInterpreter
  let configFile ← isUnsetOr .file root settings.configFile
  let rulesPath ← isUnsetOr .directory root settings.customRulesPath
  return (if executable then [] else [.executable])
    ++ (if interpreter then [] else [.interpreter])
    ++ (if configFile then [] else [.configFile])
    ++ (if rulesPath then [] else [.rulesPath])

end LintSettings

end LintBridge
