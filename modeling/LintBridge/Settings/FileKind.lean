import LintBridge.Path.Basic

/-!
# Kinds of files

Which files are linted, and which ones say how.
-/

set_option autoImplicit false

namespace LintBridge

def settingsName : String :=
  ".coffeelint-bridge.json"

def lintConfigName : String :=
  "coffeelint.json"

namespace Path

/-- CoffeeScript, plain or literate, or a build file in it. -/
def isCoffeeScript (path : Path) : Bool :=
  path.fileName? = some "Cakefile" || path.extension? = some "coffee"
    || path.extension? = some "litcoffee"

def isLintConfig (path : Path) : Bool :=
  path.fileName? = some lintConfigName

def isSettings (path : Path) : Bool :=
  path.fileName? = some settingsName

end Path

end LintBridge
