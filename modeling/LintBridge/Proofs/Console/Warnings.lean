import LintBridge.Proofs.Console.Summary

/-!
# Findings told as warnings

Whether every finding is told as a warning is looked at in one place, when the severity of an
annotation is chosen.  So the settings with it and without ask the same of the host, in the same
order, and what becomes of a document with it is what becomes of it without, softened.

Of a run that ends with code one, only failures are left then.  A run that gives up ends with
code two, be there failures or not.
-/

set_option autoImplicit false

namespace LintBridge

def Annotation.softened (a : Annotation) : Annotation :=
  { a with severity := .warning }

/-- The outcome with its findings as warnings. -/
def LintOutcome.softened : LintOutcome → LintOutcome
  | annotated annotations => annotated (annotations.map Annotation.softened)
  | skipped reason => skipped reason
  | failed message => failed message

/-- The linter did not do its work. -/
def LintOutcome.Fails (outcome : LintOutcome) : Prop :=
  ∃ message, outcome = .failed message

namespace LintOutcome

theorem fails_softened_iff (outcome : LintOutcome) : outcome.softened.Fails ↔ outcome.Fails := by
  cases outcome <;> simp [Fails, softened]

theorem Fails.isBad {outcome : LintOutcome} (fails : outcome.Fails) : outcome.isBad = true := by
  obtain ⟨message, rfl⟩ := fails
  rfl

/-- Among softened findings no error is left, so only a failure is bad. -/
theorem isBad_softened_iff (outcome : LintOutcome) :
    outcome.softened.isBad = true ↔ outcome.Fails := by
  cases outcome <;> simp [Fails, softened, isBad, Annotation.softened]

end LintOutcome

def LintSettings.softened (settings : LintSettings) : LintSettings :=
  { settings with treatAllAsWarnings := true }

def Annotator.softened (a : Annotator) : Annotator :=
  { a with settings := a.settings.softened }

/-! ## One document -/

namespace Logged

variable {α β : Type}

/-- The same log, with something made of the value. -/
def map (f : α → β) (m : Logged α) : Logged β :=
  ⟨f m.value, m.log⟩

end Logged

theorem Job.ofLogged_map {α β : Type} (f : α → β) (m : Logged α) :
    Job.ofLogged (m.map f) = (Job.ofLogged m).map f := by
  rw [ofLogged, ofLogged, andThen_map]
  rfl

theorem Issue.annotate_softened (allWarnings : Bool) (lines : LineTable) (issue : Issue) :
    issue.annotate true lines
      = (issue.annotate allWarnings lines).map (·.map Annotation.softened) := by
  unfold annotate
  cases issue.lineNumber? with
  | none => rfl
  | some n =>
      simp only
      cases lines.line? n with
      | none => rfl
      | some range => rfl

theorem annotateAll_softened (allWarnings : Bool) (lines : LineTable) (issues : List Issue) :
    annotateAll true lines issues
      = (annotateAll allWarnings lines issues).map (·.map Annotation.softened) := by
  induction issues with
  | nil => rfl
  | cons issue rest ih =>
      rw [annotateAll, annotateAll, ih, issue.annotate_softened allWarnings]
      simp only [Logged.map, bind, pure, List.map_append]
      cases (issue.annotate allWarnings lines).value <;> rfl

namespace Annotator

theorem judge_softened (a : Annotator) (content : String) (result : LintResult) :
    a.softened.judge content result = (a.judge content result).map LintOutcome.softened := by
  unfold judge
  split
  · rfl
  · cases result.report with
    | none => rfl
    | some report =>
        have mapped := annotateAll_softened a.settings.treatAllAsWarnings
          (.ofText content.toList) report.issues
        simp only [softened, LintSettings.softened, Report.annotations, mapped]
        rfl

theorem conclude_softened (a : Annotator) (content : String)
    (result : Except LintError LintResult) :
    a.softened.conclude content result = (a.conclude content result).map LintOutcome.softened := by
  cases result with
  | error e => rfl
  | ok result =>
      simp only [conclude, judge_softened, Job.ofLogged_map]

theorem annotate_softened (a : Annotator) (path : Path) (content : String) :
    a.softened.annotate path content = (a.annotate path content).map LintOutcome.softened := by
  unfold annotate
  simp only [Job.bind_eq_andThen, Job.andThen_map]
  have gate : a.softened.gate path content = a.gate path content := rfl
  have lintText : a.softened.lintText path content = a.lintText path content := rfl
  rw [gate]
  congr 1
  funext reason?
  cases reason? with
  | some reason => rfl
  | none =>
      simp only [Job.andThen_map, lintText]
      congr 1
      funext result
      exact a.conclude_softened content result

end Annotator

namespace Console

/-! ## All documents -/

def FileOutcome.softened (file : FileOutcome) : FileOutcome :=
  { file with outcome := file.outcome.softened }

def Workplace.softened (place : Workplace) : Workplace :=
  { place with settings := place.settings.softened }

theorem tellSkipped_softened (path : Path) (outcome : LintOutcome) :
    tellSkipped path outcome.softened = tellSkipped path outcome := by
  cases outcome <;> rfl

theorem lintFile_softened (a : Annotator) (file : Path) :
    lintFile a.softened file = (lintFile a file).map (Except.map FileOutcome.softened) := by
  unfold lintFile
  simp only [Job.bind_eq_andThen, Job.andThen_map]
  congr 1
  funext path?
  cases path? with
  | error e => rfl
  | ok path =>
      simp only [Job.andThen_map]
      congr 1
      funext content?
      cases content? with
      | error e => rfl
      | ok content =>
          simp only [Job.andThen_map, a.annotate_softened, Job.map_andThen, tellSkipped_softened]
          rfl

section

variable {σ : Type} {serve : Job.Server σ} {s : σ}

theorem turns_softened (a : Annotator) (files : List Path) :
    turns serve a.softened files s = turns serve a files s := by
  induction files generalizing s with
  | nil => rfl
  | cons file rest ih =>
      simp only [turns, lintFile_softened, Job.run_map, ih]

theorem FileTurn.outcome_softened (a : Annotator) (turn : FileTurn σ) :
    turn.outcome serve a.softened = (turn.outcome serve a).softened := by
  rw [outcome, a.annotate_softened, Job.run_map]
  rfl

/-- Of a run with other options nothing is different but that findings are told as warnings. -/
def Softens (serve : Job.Server σ) (s : σ) (o o' : Options) : Prop :=
  o'.workplace.run serve s
    = ((o.workplace.run serve s).1.map Workplace.softened, (o.workplace.run serve s).2)

theorem softens_allWarnings (o : Options) : Softens serve s o { o with allWarnings := true } := by
  have adjust : ∀ settings, { o with allWarnings := true }.adjust settings
      = (o.adjust settings).softened := by
    intro settings
    simp only [Options.adjust, LintSettings.softened, Bool.or_true]
  have workplace : { o with allWarnings := true }.workplace
      = o.workplace.map (Except.map Workplace.softened) := by
    unfold Options.workplace
    simp only [Job.bind_eq_andThen, Job.andThen_map]
    have root : { o with allWarnings := true }.root = o.root := rfl
    rw [root]
    congr 1
    funext root?
    cases root? with
    | error fatal => rfl
    | ok root =>
        simp only [Job.andThen_map]
        congr 1
        funext settings?
        cases settings? with
        | error e => rfl
        | ok settings =>
            exact congrArg (fun adjusted => Job.done (Except.ok (Workplace.mk root adjusted)))
              (adjust settings)
  rw [Softens, workplace, Job.run_map]

variable {o o' : Options} {files : List Path}

theorem Softens.workplace_eq {place : Workplace} (softens : Softens serve s o o')
    (settled : (o.workplace.run serve s).1 = .ok place) :
    (o'.workplace.run serve s).1 = .ok place.softened := by
  rw [softens, settled]
  rfl

theorem Softens.workplace_failed {fatal : Fatal} (softens : Softens serve s o o')
    (failed : (o.workplace.run serve s).1 = .error fatal) :
    (o'.workplace.run serve s).1 = .error fatal := by
  rw [softens, failed]
  rfl

theorem Softens.turns_eq (softens : Softens serve s o o') (place : Workplace) :
    turns serve (.new place.softened.root place.softened.settings) files
        (turnsBegin serve o' place.softened s)
      = turns serve (.new place.root place.settings) files (turnsBegin serve o place s) := by
  have begins : turnsBegin serve o' place.softened s = turnsBegin serve o place s := by
    rw [turnsBegin, softens]
    rfl
  rw [begins]
  exact turns_softened (.new place.root place.settings) files

theorem Softens.givesUp_iff (softens : Softens serve s o o') :
    GivesUp serve o' files s ↔ GivesUp serve o files s := by
  unfold GivesUp
  cases settled : (o.workplace.run serve s).1 with
  | error fatal => simp [softens.workplace_failed settled]
  | ok place =>
      have meets : MeetsUnreadable serve (.new place.softened.root place.softened.settings) files
            (turnsBegin serve o' place.softened s)
          ↔ MeetsUnreadable serve (.new place.root place.settings) files
            (turnsBegin serve o place s) := by
        rw [← not_iff_not, ← turns_complete_iff, ← turns_complete_iff, softens.turns_eq]
      simp [softens.workplace_eq settled, meets]

/-! ## The exit code -/

/-- Some file has an outcome of a kind. -/
def SomeOutcome (serve : Job.Server σ) (s : σ) (o : Options) (files : List Path)
    (P : LintOutcome → Prop) : Prop :=
  ∃ place, (o.workplace.run serve s).1 = .ok place ∧
    let a := Annotator.new place.root place.settings
    ∃ turn ∈ turns serve a files (turnsBegin serve o place s), P (turn.outcome serve a)

theorem lint_exitCode_eq_two_iff (format : Format) :
    ((Invocation.run ⟨o, .lint files format⟩).run serve s).1.exitCode = 2
      ↔ GivesUp serve o files s := by
  by_cases stops : GivesUp serve o files s
  · obtain ⟨fatal, gaveUp⟩ := lint_of_givesUp stops format
    simp [gaveUp, Ending.exitCode, stops]
  · obtain ⟨place, -, -, printed⟩ := lint_of_not_givesUp stops
    have codes : ∀ text bad, (Ending.printed text bad).exitCode ≠ 2 := by
      intro text bad
      cases bad <;> simp [Ending.exitCode]
    simp [printed format, codes, stops]

theorem lint_exitCode_eq_one_iff (format : Format) :
    ((Invocation.run ⟨o, .lint files format⟩).run serve s).1.exitCode = 1
      ↔ ¬ GivesUp serve o files s ∧ SomeOutcome serve s o files (·.isBad = true) := by
  by_cases stops : GivesUp serve o files s
  · obtain ⟨fatal, gaveUp⟩ := lint_of_givesUp stops format
    simp [gaveUp, Ending.exitCode, stops]
  · obtain ⟨place, settled, -, printed⟩ := lint_of_not_givesUp stops
    have counts : ∀ text bad, (Ending.printed text bad).exitCode = 1 ↔ bad = true := by
      intro text bad
      cases bad <;> simp [Ending.exitCode]
    simp [printed format, counts, stops, SomeOutcome, settled]

theorem Softens.someOutcome_iff (softens : Softens serve s o o') (P : LintOutcome → Prop) :
    SomeOutcome serve s o' files P
      ↔ SomeOutcome serve s o files fun outcome => P outcome.softened := by
  unfold SomeOutcome
  cases settled : (o.workplace.run serve s).1 with
  | error fatal => simp [softens.workplace_failed settled]
  | ok place =>
      have soft : Annotator.new place.softened.root place.softened.settings
          = (Annotator.new place.root place.settings).softened := rfl
      simp only [softens.workplace_eq settled, Except.ok.injEq, exists_eq_left', softens.turns_eq]
      simp only [soft, FileTurn.outcome_softened]

/-- Whatever the root, the settings, the document and the host, with findings told as warnings the
same is asked of the host and the outcome is the same one, softened.  So in a run over files each
has the same turn and the same outcome, softened.  Both runs give up or neither does, and that is
when they end with code two.  With it the exit code is one exactly where some file fails, as long
as nothing is given up, and then it is one without it too. -/
theorem softened_lint {σ : Type} (serve : Job.Server σ) (s : σ) :
    (∀ (a : Annotator) (path : Path) (content : String),
      (a.softened.annotate path content).run serve s
          = (((a.annotate path content).run serve s).1.softened,
            ((a.annotate path content).run serve s).2)
        ∧ (a.softened.annotate path content).talk serve s
          = (a.annotate path content).talk serve s) ∧
    (∀ o : Options, Softens serve s o { o with allWarnings := true }) ∧
    ∀ (o o' : Options) (files : List Path) (format : Format), Softens serve s o o' →
      let code := fun o => ((Invocation.run ⟨o, .lint files format⟩).run serve s).1.exitCode
      (∀ place, (o.workplace.run serve s).1 = .ok place →
        let a := Annotator.new place.root place.settings
        let turns' := turns serve a.softened files (turnsBegin serve o' place.softened s)
        (o'.workplace.run serve s).1 = .ok place.softened
          ∧ turns' = turns serve a files (turnsBegin serve o place s)
          ∧ ∀ turn ∈ turns', turn.outcome serve a.softened = (turn.outcome serve a).softened)
      ∧ (GivesUp serve o' files s ↔ GivesUp serve o files s)
      ∧ (code o' = 2 ↔ GivesUp serve o' files s) ∧ (code o = 2 ↔ GivesUp serve o files s)
      ∧ (code o' = 1 ↔ ¬ GivesUp serve o' files s ∧ SomeOutcome serve s o' files LintOutcome.Fails)
      ∧ (code o' = 1 → code o = 1) := by
  refine ⟨fun a path content => ?_, softens_allWarnings, fun o o' files format softens => ?_⟩
  · rw [a.annotate_softened, Job.run_map, Job.talk_map]
    exact ⟨rfl, rfl⟩
  intro code
  have counts : code o' = 1 ↔ ¬ GivesUp serve o' files s
      ∧ SomeOutcome serve s o files LintOutcome.Fails := by
    refine (lint_exitCode_eq_one_iff format).trans (and_congr_right' ?_)
    simp only [softens.someOutcome_iff, LintOutcome.isBad_softened_iff]
  refine ⟨?_, softens.givesUp_iff, lint_exitCode_eq_two_iff format,
    lint_exitCode_eq_two_iff format, counts.trans (and_congr_right' ?_), fun bad => ?_⟩
  · intro place settled a turns'
    exact ⟨softens.workplace_eq settled, softens.turns_eq place,
      fun turn _ => turn.outcome_softened a⟩
  · simp only [softens.someOutcome_iff, LintOutcome.fails_softened_iff]
  · obtain ⟨goesOn, place, settled, turn, member, fails⟩ := counts.mp bad
    exact (lint_exitCode_eq_one_iff format).mpr
      ⟨mt softens.givesUp_iff.mpr goesOn, place, settled, turn, member, fails.isBad⟩

end

/-- Complains on standard error and ends with code one. -/
def complainingLinter : Machine.Launcher := fun tree _ _ _ =>
  .ok (⟨[⟨.ok (some (.code 1)), false, .chunk ⟨.err, Text.encode "boom"⟩⟩,
    ⟨.ok none, false, .closed⟩, ⟨.ok none, false, .nothing⟩], []⟩, tree)

def gentleOptions : Options :=
  { smallOptions with allWarnings := true }

theorem complaint_exits_one :
    let serve := Machine.serveWith complainingLinter
    let files := [Path.ofText "b.js", .ofText "a.coffee"]
    let code := fun o =>
      ((Invocation.run ⟨o, .lint files .text⟩).run serve smallMachine).1.exitCode
    Softens serve smallMachine smallOptions gentleOptions
      ∧ (smallOptions.workplace.run serve smallMachine).1 = .ok smallWorkplace
      ∧ (gentleOptions.workplace.run serve smallMachine).1 = .ok smallWorkplace.softened
      ∧ SomeOutcome serve smallMachine gentleOptions files LintOutcome.Fails
      ∧ code gentleOptions = 1 ∧ code smallOptions = 1 := by
  intro serve files code
  have softens : Softens serve smallMachine smallOptions gentleOptions :=
    (softened_lint serve smallMachine).2.1 smallOptions
  obtain ⟨told, -, -, -, counts, without⟩ := (softened_lint serve smallMachine).2.2 smallOptions
    gentleOptions files .text softens
  have settled : (smallOptions.workplace.run serve smallMachine).1 = .ok smallWorkplace :=
    Result.eq_ok_of_toOption (by decide +kernel)
  have exits : code gentleOptions = 1 := by decide +kernel
  exact ⟨softens, settled, (told smallWorkplace settled).1, (counts.mp exits).2, exits,
    without exits⟩

/-! ## A failure before a file that cannot be read -/

/-- One file fails and the next one is not there: the run is given up. -/
theorem failure_given_up :
    let serve := Machine.serveWith complainingLinter
    let files := [Path.ofText "a.coffee", .ofText "c.coffee"]
    let code := ((Invocation.run ⟨gentleOptions, .lint files .text⟩).run serve
      smallMachine).1.exitCode
    Softens serve smallMachine smallOptions gentleOptions
      ∧ SomeOutcome serve smallMachine gentleOptions files (· = .failed "boom")
      ∧ code = 2
      ∧ ¬ (code = 1 ↔ SomeOutcome serve smallMachine gentleOptions files LintOutcome.Fails) := by
  intro serve files code
  have softens : Softens serve smallMachine smallOptions gentleOptions :=
    softens_allWarnings smallOptions
  have settled : (gentleOptions.workplace.run serve smallMachine).1 = .ok smallWorkplace.softened :=
    Result.eq_ok_of_toOption (by decide +kernel)
  have seen : ∃ turn ∈ turns serve (.new smallWorkplace.softened.root
        smallWorkplace.softened.settings) files
        (turnsBegin serve gentleOptions smallWorkplace.softened smallMachine),
      turn.outcome serve (.new smallWorkplace.softened.root smallWorkplace.softened.settings)
        = .failed "boom" := by decide +kernel
  obtain ⟨turn, member, failed⟩ := seen
  have gaveUp : code = 2 := by decide +kernel
  refine ⟨softens, ⟨_, settled, turn, member, failed⟩, gaveUp, fun claimed => ?_⟩
  have one : code = 1 := claimed.mpr ⟨_, settled, turn, member, "boom", failed⟩
  exact absurd (gaveUp.symm.trans one) (by decide)

end Console

end LintBridge
