import LintBridge.Console.Options

/-!
# Arguments of the command

How the command is to be used, and what its arguments ask for.
-/

set_option autoImplicit false

/-!
## Usage

The words of the command line, its help texts, and what can be wrong with it.
-/

namespace LintBridge.Console

/-- What a part of the command line belongs to: the program or one of its commands. -/
inductive Scope where
  | program
  | lint
  | version
  | checkSettings
  | serve
  | help
  deriving DecidableEq, Repr

namespace Scope

def commands : List Scope :=
  [lint, version, checkSettings, serve, help]

def name : Scope → String
  | program => "cflint"
  | lint => "lint"
  | version => "version"
  | checkSettings => "check-settings"
  | serve => "lsp"
  | help => "help"

def command? (word : String) : Option Scope :=
  commands.find? (·.name = word)

def purpose : Scope → String
  | program => "Run CoffeeLint from the command line or as a language server"
  | lint => "Lint files"
  | version => "Print the coffeelint version"
  | checkSettings => "Check that the settings point at usable files"
  | serve => "Start the LSP server"
  | help => "Print this message or the help of the given subcommand(s)"

def switches : Scope → List Switch
  | program => Switch.shared ++ [.help, .version]
  | lint => .format :: Switch.shared ++ [.help]
  | help => []
  | _ => Switch.shared ++ [.help]

def longSwitch? (scope : Scope) (word : String) : Option Switch :=
  scope.switches.find? (·.long = word)

def shortSwitch? (scope : Scope) (letter : Char) : Option Switch :=
  scope.switches.find? (·.short? = some letter)

def argument? : Scope → Option (String × String)
  | lint => some ("<FILES>...", "Files to lint")
  | help => some ("[COMMAND]...", "Print help for the subcommand(s)")
  | _ => none

end Scope

/-! ## Help texts -/

/-- Two columns, the second one aligned. -/
def columns (rows : List (String × String)) : List String :=
  let width := rows.foldl (fun w row => max w row.1.length) 0
  rows.map fun row =>
    "  " ++ row.1 ++ String.ofList (List.replicate (width - row.1.length) ' ') ++ "  " ++ row.2

/-- A heading with its rows, behind an empty line, if there are rows. -/
def helpSection (heading : String) (rows : List (String × String)) : List String :=
  if rows.isEmpty then [] else "" :: (heading ++ ":") :: columns rows

def switchRow (s : Switch) : String × String :=
  ((match s.short? with
    | some letter => String.ofList ['-', letter, ',', ' ']
    | none => "    ") ++ s.shown, s.purpose)

def Scope.usageLine (scope : Scope) : String :=
  "Usage: " ++ (if scope = .program then "cflint" else "cflint " ++ scope.name)
    ++ (if scope.switches.isEmpty then "" else " [OPTIONS]")
    ++ (if scope = .program then " <COMMAND>" else "")
    ++ (match scope.argument? with | some (name, _) => " " ++ name | none => "")

def Scope.helpText (scope : Scope) : String :=
  let commandRows :=
    if scope = .program then Scope.commands.map fun c => (c.name, c.purpose) else []
  let lines := [scope.purpose, "", scope.usageLine] ++ helpSection "Commands" commandRows
    ++ helpSection "Arguments" scope.argument?.toList
    ++ helpSection "Options" (scope.switches.map switchRow)
  String.join (lines.map (· ++ "\n"))

def versionText : String :=
  "cflint 0.1.0\n"

/-! ## Faults -/

inductive UsageFault where
  | nothingAsked
  | missingCommand
  | unknownCommand (word : String)
  | unexpectedArgument (word : String)
  | missingValue (shown : String)
  | invalidValue (value shown : String)
  | unexpectedValue (value shown : String)
  | repeated (shown : String)
  | missingFiles
  deriving DecidableEq, Repr

def UsageFault.message : UsageFault → String
  | nothingAsked => Scope.program.purpose
  | missingCommand => "error: 'cflint' requires a subcommand but one was not provided"
  | unknownCommand word => "error: unrecognized subcommand '" ++ word ++ "'"
  | unexpectedArgument word => "error: unexpected argument '" ++ word ++ "' found"
  | missingValue shown =>
      "error: a value is required for '" ++ shown ++ "' but none was supplied"
  | invalidValue value shown =>
      "error: invalid value '" ++ value ++ "' for '" ++ shown ++ "'"
  | unexpectedValue value shown =>
      "error: unexpected value '" ++ value ++ "' for '" ++ shown
        ++ "' found; no more were expected"
  | repeated shown => "error: the argument '" ++ shown ++ "' cannot be used multiple times"
  | missingFiles => "error: the following required arguments were not provided:"

end LintBridge.Console

/-!
## Reading the command line

Words are read from left to right.  A switch that takes a value waits for the next
word, unless its own word brings one; the value is looked at when the next switch or
the end comes, so an unknown switch behind it is met first.  A request for help or for
the version ends the reading.
-/

namespace LintBridge.Console

/-- Why the reading ends before there is an invocation. -/
inductive Halt where
  | fault (fault : UsageFault)
  | help (scope : Scope)
  | version
  deriving DecidableEq, Repr

namespace Halt

def exitCode : Halt → Nat
  | fault _ => 2
  | help _ | version => 0

def out : Halt → String
  | fault _ => ""
  | help scope => scope.helpText
  | version => versionText

end Halt

/-- What is read but not looked at. -/
inductive Pending where
  | nothing
  | awaited (s : Switch)
  | value (s : Switch) (text : String)
  | files (texts : List String)
  deriving DecidableEq, Repr

structure Found where
  values : List (Switch × String)
  files : List String
  pending : Pending
  deriving DecidableEq, Repr

namespace Found

def empty : Found :=
  ⟨[], [], .nothing⟩

def value? (found : Found) (s : Switch) : Option String :=
  (found.values.find? (·.1 = s)).map (·.2)

def has (found : Found) (s : Switch) : Bool :=
  (found.value? s).isSome

def checkValue (s : Switch) (text : String) : Except Halt Unit :=
  match s with
  | .settings | .projectRoot =>
      if text = "" then .error (.fault (.missingValue s.shown)) else .ok ()
  | .format =>
      if text = "" then .error (.fault (.missingValue s.shown))
      else if (Format.ofWord? text).isSome then .ok ()
      else .error (.fault (.invalidValue text s.shown))
  | _ => .ok ()

/-- Keeps the value of a switch that may stand only once. -/
def put (found : Found) (s : Switch) (text : String) : Except Halt Found :=
  if found.has s then .error (.fault (.repeated s.shown))
  else do
    checkValue s text
    return { found with values := (s, text) :: found.values }

def putFiles (found : Found) (texts : List String) : Except Halt Found :=
  if texts.contains "" then
    .error (.fault (.missingValue ((Scope.lint.argument?.map (·.1)).getD "")))
  else .ok { found with files := found.files ++ texts }

def settle (found : Found) : Except Halt Found :=
  let rest := { found with pending := .nothing }
  match found.pending with
  | .nothing => .ok rest
  | .awaited s => .error (.fault (.missingValue s.shown))
  | .value s text => rest.put s text
  | .files texts => rest.putFiles texts

def raise (found : Found) (scope : Scope) (s : Switch) : Except Halt Found := do
  let found ← found.settle
  match s with
  | .help => throw (.help scope)
  | .version => throw .version
  | s => found.put s ""

def attach (found : Found) (s : Switch) (text : String) : Except Halt Found := do
  (← found.settle).put s text

/-- A switch whose value is the next word. -/
def await (found : Found) (s : Switch) : Except Halt Found := do
  return { ← found.settle with pending := .awaited s }

end Found

def cutEquals (word : List Char) : String × Option String :=
  let name := word.takeWhile (· ≠ '=')
  match word.drop name.length with
  | [] => (String.ofList name, none)
  | _ :: value => (String.ofList name, some (String.ofList value))

def readLong (scope : Scope) (word : List Char) (found : Found) : Except Halt Found :=
  let (name, value?) := cutEquals word
  match scope.longSwitch? name with
  | none => .error (.fault (.unexpectedArgument ("--" ++ name)))
  | some s =>
      match s.valueName?, value? with
      | some _, some value => found.attach s value
      | some _, none => found.await s
      | none, some value => .error (.fault (.unexpectedValue value s.shown))
      | none, none => found.raise scope s

/-- Letters behind one hyphen; the rest behind a switch with a value is the value. -/
def readShort (scope : Scope) : List Char → Found → Except Halt Found
  | [], found => .ok found
  | letter :: rest, found =>
      match scope.shortSwitch? letter with
      | none => .error (.fault (.unexpectedArgument (String.ofList ['-', letter])))
      | some s =>
          if s.valueName?.isNone then do
            readShort scope rest (← found.raise scope s)
          else
            match rest with
            | [] => found.await s
            | '=' :: value => found.attach s (String.ofList value)
            | value => found.attach s (String.ofList value)

def takeWord? (scope : Scope) (word : String) (found : Found) : Option (Except Halt Found) :=
  match word.toList with
  | '-' :: '-' :: long => some (readLong scope long found)
  | '-' :: letter :: rest => some (readShort scope (letter :: rest) found)
  | _ =>
      match found.pending with
      | .awaited s => some (.ok { found with pending := .value s word })
      | _ => none

def takePlaced (scope : Scope) (word : String) (found : Found) : Except Halt Found :=
  match scope, found.pending with
  | .lint, .files texts => .ok { found with pending := .files (texts ++ [word]) }
  | .lint, _ => do return { ← found.settle with pending := .files [word] }
  | _, _ => .error (.fault (.unexpectedArgument word))

/-- Reads the words of a command; behind a lone pair of hyphens none is a switch. -/
def readCommand (scope : Scope) : Bool → List String → Found → Except Halt Found
  | _, [], found => found.settle
  | true, word :: rest, found => do readCommand scope true rest (← takePlaced scope word found)
  | false, word :: rest, found =>
      if word = "--" then readCommand scope true rest found
      else
        match takeWord? scope word found with
        | some next => do readCommand scope false rest (← next)
        | none => do readCommand scope false rest (← takePlaced scope word found)

/-- The options of a command, where not given those of the program. -/
def optionsOf (program command : Found) : Options :=
  let value? (s : Switch) : Option String := command.value? s <|> program.value? s
  let isRaised (s : Switch) : Bool := command.has s || program.has s
  { settingsFile? := (value? .settings).map Path.ofText
    projectRoot? := (value? .projectRoot).map Path.ofText
    verbose := isRaised .verbose
    executable? := value? .executable
    node? := value? .node
    configFile? := value? .configFile
    rulesDirectory? := value? .rulesDirectory
    allWarnings := isRaised .allWarnings }

def commandOf (scope : Scope) (found : Found) : Except Halt Command :=
  match scope with
  | .lint =>
      if found.files.isEmpty then .error (.fault .missingFiles)
      else
        let format := (found.value? .format).bind Format.ofWord?
        .ok (.lint (found.files.map Path.ofText) (format.getD .text))
  | .checkSettings => .ok .checkSettings
  | .serve => .ok .serve
  | _ => .ok .version

/-- The help that the words behind `help` ask for. -/
def helpOn : List String → Halt
  | [] => .help .program
  | word :: rest =>
      match Scope.command? word, rest with
      | some scope, [] => .help scope
      | some _, extra :: _ => .fault (.unknownCommand extra)
      | none, _ => .fault (.unknownCommand word)

/-- Reads a command's own words, then looks at what the program still has pending. -/
def finish (scope : Scope) (words : List String) (found : Found) : Except Halt Invocation := do
  let inner ← readCommand scope false words .empty
  let command ← commandOf scope inner
  let outer ← found.settle
  return ⟨optionsOf outer inner, command⟩

def readProgram : Bool → List String → Found → Except Halt Invocation
  | _, [], found => do
      let found ← found.settle
      throw (.fault (if found.values.isEmpty then .nothingAsked else .missingCommand))
  | true, word :: _, _ =>
      .error (.fault
        (if (Scope.command? word).isSome then .unexpectedArgument word else .unknownCommand word))
  | false, word :: rest, found =>
      if word = "--" then readProgram true rest found
      else
        match takeWord? .program word found with
        | some next => do readProgram false rest (← next)
        | none =>
            match Scope.command? word with
            | some .help => .error (helpOn rest)
            | some scope => finish scope rest found
            | none => .error (.fault (.unknownCommand word))

def parse (words : List String) : Except Halt Invocation :=
  readProgram false words .empty

end LintBridge.Console
