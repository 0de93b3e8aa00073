import LintBridge.Path.Basic

/-!
# Options

What can be asked for on the command line.  A switch is a word that begins with a
hyphen; every command has its own switches besides those that all of them share.
-/

set_option autoImplicit false

namespace LintBridge.Console

inductive Switch where
  | format
  | settings
  | projectRoot
  | verbose
  | executable
  | node
  | configFile
  | rulesDirectory
  | allWarnings
  | help
  | version
  deriving DecidableEq, Repr

namespace Switch

def long : Switch → String
  | format => "format"
  | settings => "settings"
  | projectRoot => "project-root"
  | verbose => "verbose"
  | executable => "executable"
  | node => "node"
  | configFile => "config-file"
  | rulesDirectory => "rules-dir"
  | allWarnings => "treat-as-warnings"
  | help => "help"
  | version => "version"

def short? : Switch → Option Char
  | format => some 'f'
  | settings => some 's'
  | verbose => some 'v'
  | help => some 'h'
  | version => some 'V'
  | _ => none

def valueName? : Switch → Option String
  | format => some "FORMAT"
  | settings => some "SETTINGS"
  | projectRoot => some "PROJECT_ROOT"
  | executable => some "EXECUTABLE"
  | node => some "NODE"
  | configFile => some "CONFIG_FILE"
  | rulesDirectory => some "RULES_DIR"
  | _ => none

def shown (s : Switch) : String :=
  match s.valueName? with
  | some name => "--" ++ s.long ++ " <" ++ name ++ ">"
  | none => "--" ++ s.long

def purpose : Switch → String
  | format => "Output format [default: text] [possible values: text, json]"
  | settings => "Settings file path (defaults to .coffeelint-bridge.json in the project root)"
  | projectRoot => "Project root (defaults to the current directory)"
  | verbose => "Enable verbose output"
  | executable => "Path to the coffeelint executable (enables linting)"
  | node => "Path to the node interpreter"
  | configFile => "coffeelint.json to use"
  | rulesDirectory => "Directory of custom rules"
  | allWarnings => "Report every issue as a warning"
  | help => "Print help"
  | version => "Print version"

def shared : List Switch :=
  [settings, projectRoot, verbose, executable, node, configFile, rulesDirectory, allWarnings]

end Switch

inductive Format where
  | text
  | json
  deriving DecidableEq, Repr

namespace Format

def ofWord? : String → Option Format
  | "text" => some text
  | "json" => some json
  | _ => none

end Format

structure Options where
  settingsFile? : Option Path
  projectRoot? : Option Path
  verbose : Bool
  executable? : Option String
  node? : Option String
  configFile? : Option String
  rulesDirectory? : Option String
  allWarnings : Bool
  deriving DecidableEq, Repr

inductive Command where
  | lint (files : List Path) (format : Format)
  | version
  | checkSettings
  | serve
  deriving DecidableEq, Repr

structure Invocation where
  options : Options
  command : Command
  deriving DecidableEq, Repr

end LintBridge.Console
