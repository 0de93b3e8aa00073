import LintBridge.Console.Arguments
import LintBridge.Console.Screen
import LintBridge.Console.Summary
import LintBridge.Console.Workplace
import LintBridge.Path.Basic

/-!
# Running a command

A command prints something and ends well or badly, or it gives up and prints nothing.
The command for editors ends as a server.
-/

set_option autoImplicit false

namespace LintBridge.Console

inductive Ending where
  | printed (text : String) (bad : Bool)
  | gaveUp (fatal : Fatal)
  /-- Goes on as a language server, perhaps with settings of its own. -/
  | serving (settings? : Option LintSettings)
  deriving DecidableEq, Repr

namespace Ending

def exitCode : Ending → Nat
  | printed _ bad => if bad then 1 else 0
  | gaveUp _ => 2
  | serving _ => 0

def out : Ending → String
  | printed text _ => text
  | _ => ""

end Ending

def inWorkplace (o : Options) (work : Workplace → Job Ending) : Job Ending := do
  match ← o.workplace with
  | .error fatal => return .gaveUp fatal
  | .ok place => work place

def warnAbout (place : Workplace) : Job Unit := do
  if place.settings.enabled then
    SettingsProblem.warnAll (← place.settings.problems place.root)
  else
    Job.log .warn
      "CoffeeLint is disabled; pass --executable or enable it in the settings file"

/-- Tells that a file is not linted; an empty one is passed over. -/
def tellSkipped (path : Path) : LintOutcome → Job Unit
  | .skipped .emptyContent => return ()
  | .skipped reason => Job.log .info ("Skipped " ++ path.text ++ ": " ++ reason.title)
  | _ => return ()

/-- The file's path from the root.  Only a relative one depends on the current directory. -/
def locate (file : Path) : Job (Except OsError Path) := do
  if file = Path.empty then return .error .emptyPath
  else if file.isAbsolute then return .ok file.normal
  else return (← Job.currentDirectory).map file.seenFrom

def lintFile (annotator : Annotator) (file : Path) : Job (Except Fatal FileOutcome) := do
  match ← locate file with
  | .error e => return .error (.nowhere e)
  | .ok path =>
      match ← Job.readText path with
      | .error e => return .error (.unreadable path e)
      | .ok content =>
          let outcome ← annotator.annotate path content
          tellSkipped path outcome
          return .ok ⟨file, outcome⟩

/-- Lints one file after the other, up to the first that cannot be read. -/
def lintFiles (annotator : Annotator) : List Path → Job (Except Fatal (List FileOutcome))
  | [] => return .ok []
  | file :: rest => do
      match ← lintFile annotator file with
      | .error fatal => return .error fatal
      | .ok first =>
          let others ← lintFiles annotator rest
          return others.map (first :: ·)

def runLint (files : List Path) (format : Format) (place : Workplace) : Job Ending := do
  warnAbout place
  match ← lintFiles (.new place.root place.settings) files with
  | .error fatal => return .gaveUp fatal
  | .ok outcomes => return .printed (format.print outcomes) (outcomes.any (·.outcome.isBad))

def runVersion (place : Workplace) : Job Ending := do
  match ← (place.settings.configuration place.root "").version usualBudget with
  | .error e => return .gaveUp (.lint e)
  | .ok version => return .printed (version ++ "\n") false

def problemLines (problems : List SettingsProblem) : String :=
  if problems.isEmpty then "Settings are valid\n"
  else String.join (problems.map (·.message ++ "\n"))

def runCheck (place : Workplace) : Job Ending := do
  let problems ← place.settings.problems place.root
  if !place.settings.enabled then Job.log .info "CoffeeLint is disabled in the settings"
  return .printed (problemLines problems) (!problems.isEmpty)

/-- Becomes a server.  Without options about linting it finds its settings itself. -/
def runServe (o : Options) : Job Ending := do
  if o.saysHowToLint then
    inWorkplace o fun place => do
      Job.log .info "CoffeeLint LSP server starting..."
      return .serving (some place.settings)
  else
    Job.log .info "CoffeeLint LSP server starting..."
    return .serving none

def Invocation.run (i : Invocation) : Job Ending :=
  match i.command with
  | .lint files format => inWorkplace i.options (runLint files format)
  | .version => inWorkplace i.options runVersion
  | .checkSettings => inWorkplace i.options runCheck
  | .serve => runServe i.options

/-- The entries that the log shows: all of them only on demand. -/
def Options.shows (o : Options) (entry : LogEntry) : Bool :=
  o.verbose || entry.level ≠ .debug

def Options.shown (o : Options) (log : List LogEntry) : List LogEntry :=
  (log.filter o.shows).map screenEntry

end LintBridge.Console
