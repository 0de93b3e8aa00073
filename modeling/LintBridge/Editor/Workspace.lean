import LintBridge.Lint.Annotate
import LintBridge.Uri.Basic

/-!
# The workspace

Which project an editor works on, and how it is linted.  Settings that were given to
the server or by the editor go before those of the project.
-/

set_option autoImplicit false

namespace LintBridge.Editor

structure Workspace where
  root? : Option Path
  /-- Settings that go before those of the project. -/
  given? : Option LintSettings
  /-- There once the project is known. -/
  annotator? : Option Annotator
  deriving DecidableEq, Repr

namespace Workspace

def start (given? : Option LintSettings) : Workspace :=
  ⟨none, given?, none⟩

/-- The settings of the project, or what holds without. -/
def projectSettings (root : Path) : Job LintSettings := do
  match ← LintSettings.discover root with
  | .ok (some settings) =>
      Job.log .info ("Loaded settings from " ++ root.text)
      return settings
  | .ok none =>
      Job.log .info ("No settings file in " ++ root.text ++ ", CoffeeLint is disabled")
      return .initial
  | .error e =>
      Job.log .error ("Failed to load settings: " ++ e.message)
      return .initial

def settingsFor (w : Workspace) (root : Path) : Job LintSettings :=
  match w.given? with
  | some settings => return settings
  | none => projectSettings root

def reload (w : Workspace) : Job Workspace := do
  match w.root? with
  | none => return w
  | some root =>
      let settings ← w.settingsFor root
      if settings.enabled then SettingsProblem.warnAll (← settings.problems root)
      Job.log .info "Annotator re-initialized with new settings"
      return { w with annotator? := some (.new root settings) }

/-- Takes the settings that the editor offers, unless they are no settings. -/
def take (w : Workspace) (offer? : Option Json) : Job Workspace := do
  match offer? with
  | none | some .null => return w
  | some offer =>
      match LintSettings.ofValue offer with
      | .ok settings => return { w with given? := some settings }
      | .error e =>
          Job.log .error ("Ignoring initialization options: " ++ e.message)
          return w

def enter (w : Workspace) (root? : Option Path) (offer? : Option Json) : Job Workspace := do
  let w ← w.take offer?
  match root? with
  | none => return w
  | some root => reload { w with root? := some root }

end Workspace

end LintBridge.Editor
