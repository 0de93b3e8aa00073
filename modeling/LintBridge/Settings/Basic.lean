import LintBridge.Path.Basic
import LintBridge.Process.CommandLine

/-!
# Settings

How a project wants to be linted.  Paths may be relative to the project root; an empty
text stands for a path that is not set.
-/

set_option autoImplicit false

namespace LintBridge

structure LintSettings where
  enabled : Bool
  executable : String
  nodeInterpreter : String
  configFile : String
  customRulesPath : String
  treatAllAsWarnings : Bool
  deriving DecidableEq, Repr

namespace LintSettings

def initial : LintSettings :=
  ⟨false, "", "", "", "", false⟩

end LintSettings

def resolve (root : Path) (value : String) : Path :=
  root.join (Path.ofText value)

def resolveText (root : Path) (value : String) : String :=
  if value = "" then "" else (resolve root value).text

structure LintConfiguration where
  workingDirectory : Path
  target : String
  interpreter : String
  executable : String
  configFile : String
  rulesDirectory : String
  deriving DecidableEq, Repr

namespace LintSettings

def configuration (settings : LintSettings) (root : Path) (target : String) :
    LintConfiguration :=
  { workingDirectory := root, target,
    interpreter := resolveText root settings.nodeInterpreter,
    executable := resolveText root settings.executable,
    configFile := resolveText root settings.configFile,
    rulesDirectory := resolveText root settings.customRulesPath }

end LintSettings

namespace LintConfiguration

def command (config : LintConfiguration) : CommandLine :=
  .forScript config.interpreter config.executable config.workingDirectory

/-- The linter on its target, with a report on standard output. -/
def lintCommand (config : LintConfiguration) : CommandLine :=
  config.command.withArgs
    ([config.target]
      ++ (if config.configFile = "" then [] else ["-c", config.configFile])
      ++ (if config.rulesDirectory = "" then []
          else ["--rulesdir", "['" ++ config.rulesDirectory ++ "']"])
      ++ ["--reporter", "checkstyle"])

def versionCommand (config : LintConfiguration) : CommandLine :=
  config.command.withArgs ["-v"]

end LintConfiguration

end LintBridge
