import LintBridge.Console.Run
import LintBridge.Machine.Server
import LintBridge.Proofs.Document.Diagnostics
import LintBridge.Proofs.Lint.Decision

/-!
# What an exit code of zero says

Files are linted one after the other, each on the host that the ones before it have left
behind.  `FileTurn` is one file's part of that, and the exit code is zero exactly where
every file has its turn and no turn ends badly.

A run of the linter that ends badly without a word on standard error is judged by its
report alone.  So a report that cannot be read, or one whose errors all name lines that
the document does not have, passes.
-/

set_option autoImplicit false

namespace LintBridge

namespace RunEnd

/-- The linter found no error, by its code or by a report that can be read. -/
def FoundNoError : RunEnd → Prop
  | .failed _ => False
  | .ended code? out _ =>
      code? = some 0 ∨ ∃ report, (Report.parse (Text.decodeLossy out)).value = .ok report
        ∧ report.hasErrors = false

instance : DecidablePred FoundNoError
  | .failed _ => .isFalse id
  | .ended code? out _ =>
      match parsed : (Report.parse (Text.decodeLossy out)).value with
      | .ok report =>
          decidable_of_iff (code? = some 0 ∨ report.hasErrors = false)
            (by simp [FoundNoError, parsed])
      | .error _ => decidable_of_iff (code? = some 0) (by simp [FoundNoError, parsed])

/-- The linter ended by itself, with code zero or without error output and without a
report of an error on a line of the document. -/
def Passes (content : String) : RunEnd → Prop
  | .failed _ => False
  | .ended code? out err =>
      code? = some 0 ∨ err = [] ∧
        ∀ report, (Report.parse (Text.decodeLossy out)).value = .ok report →
          ∀ issue ∈ report.issues, issue.severity = .error → ¬ issue.LiesIn content.toList

end RunEnd

/-! ## One document -/

namespace Issue

theorem annotate_severity {allWarnings : Bool} {lines : LineTable} {issue : Issue}
    {a : Annotation} (annotated : (issue.annotate allWarnings lines).value = some a) :
    a.severity = issue.shownSeverity allWarnings := by
  obtain ⟨range, -, rfl⟩ := annotate_eq_some annotated
  rfl

end Issue

theorem annotateAll_hasErrors (text : List Char) (issues : List Issue) :
    (annotateAll false (.ofText text) issues).value.any (·.severity = .error)
      = issues.any fun issue => issue.severity = .error && issue.LiesIn text := by
  induction issues with
  | nil => rfl
  | cons issue rest ih =>
      simp only [annotateAll, Logged.value_bind, Logged.value_pure, List.any_append, ih,
        List.any_cons]
      by_cases lies : issue.LiesIn text
      · obtain ⟨a, annotated, -⟩ := Issue.annotate_of_liesIn false lies
        have graded : a.severity = issue.severity := Issue.annotate_severity annotated
        simp [annotated, graded, lies]
      · simp [Issue.annotate_of_not_liesIn false lies, lies]

namespace Annotator

theorem annotationsOf_hasErrors {a : Annotator} (graded : a.settings.treatAllAsWarnings = false)
    (content out : String) :
    (a.annotationsOf content out).any (·.severity = .error) = false ↔
      ∀ report, (Report.parse out).value = .ok report →
        ∀ issue ∈ report.issues, issue.severity = .error → ¬ issue.LiesIn content.toList := by
  unfold annotationsOf
  cases parsed : (Report.parse out).value with
  | error e => simp
  | ok report =>
      simp only [graded, Report.annotations, annotateAll_hasErrors, Except.ok.injEq]
      simp

/-- An ending counts against the document exactly where it does not pass. -/
theorem verdict_isBad {a : Annotator} (graded : a.settings.treatAllAsWarnings = false)
    (content : String) (runEnd : RunEnd) :
    (a.verdict content runEnd).isBad = false ↔ runEnd.Passes content := by
  cases runEnd with
  | failed e => simp [verdict, LintOutcome.isBad, RunEnd.Passes]
  | ended code? out err =>
      unfold verdict RunEnd.Passes
      by_cases clean : code? = some 0
      · simp [clean, LintOutcome.isBad]
      · by_cases silent : err = []
        · simp only [clean, silent, if_false, ne_eq, not_true_eq_false, LintOutcome.isBad,
            annotationsOf_hasErrors graded, false_or, true_and]
        · simp [clean, silent, LintOutcome.isBad]

section

variable {σ : Type} {serve : Job.Server σ} {s : σ} {a : Annotator} {path : Path}
  {content : String}

theorem annotate_of_skips {reason : SkipReason}
    (gated : ((a.gate path content).run serve s).1 = some reason) :
    ((a.annotate path content).run serve s).1 = .skipped reason := by
  unfold annotate
  rw [Job.bind_eq_andThen, Job.run_andThen, gated]
  rfl

theorem annotate_of_passes (gated : ((a.gate path content).run serve s).1 = none) :
    ((a.annotate path content).run serve s).1
        = a.concluded content
            ((a.lintText path content).run serve ((a.gate path content).run serve s).2).1
      ∧ Job.starts ((a.annotate path content).talk serve s)
        = Job.starts ((a.lintText path content).talk serve
            ((a.gate path content).run serve s).2) := by
  have still : Job.starts ((a.gate path content).talk serve s) = [] :=
    Job.starts_of_asks ((gate_asks a path content).mono fun _ looks => looks.idle.1) serve s
  unfold annotate
  rw [Job.bind_eq_andThen, Job.run_andThen, Job.talk_andThen, gated, Job.starts_append, still]
  simp only [Job.bind_eq_andThen, Job.run_andThen, Job.talk_andThen]
  constructor
  · exact conclude_value content _
  · rw [Job.starts_append, List.nil_append]
    have quiet := Job.starts_of_asks (conclude_asks (a := a) content
      ((a.lintText path content).run serve ((a.gate path content).run serve s).2).1) serve
    exact (congrArg _ (quiet _)).trans (List.append_nil _)

/-- A document that passed the gate does not end badly exactly where the linter was
started once, for a run that passes. -/
theorem annotate_isBad_of_passes (graded : a.settings.treatAllAsWarnings = false)
    (gated : ((a.gate path content).run serve s).1 = none) :
    ((a.annotate path content).run serve s).1.isBad = false ↔
      ∃ command reply, Job.starts ((a.annotate path content).talk serve s)
          = [⟨.launch command a.budget, reply⟩]
        ∧ (RunEnd.ofReply command a.budget reply).Passes content := by
  obtain ⟨value, starts⟩ := annotate_of_passes gated
  rw [value, starts]
  cases placed : ((a.place path content).run serve ((a.gate path content).run serve s).2).1 with
  | error e =>
      obtain ⟨failed, quiet⟩ := lintText_misplaced placed
      rw [failed, quiet]
      simp [concluded, LintOutcome.isBad]
  | ok relative =>
      obtain ⟨reply, once, result⟩ := lintText_launches placed
      have judged : a.concluded content (.ok (a.resultAt relative reply))
          = a.verdict content (.ofReply (a.commandFor relative) a.budget reply) :=
        judge_resultAt relative reply
      rw [result, once, judged, verdict_isBad graded]
      constructor
      · intro passes
        exact ⟨_, reply, rfl, passes⟩
      · rintro ⟨command, reply', same, passes⟩
        cases same
        exact passes

end

end Annotator

/-! ## All documents -/

namespace Console

/-- A file when it is linted: as it was given, its path from the root and its content, and
the host. -/
structure FileTurn (σ : Type) where
  file : Path
  path : Path
  content : String
  host : σ

section

variable {σ : Type} (serve : Job.Server σ)

/-- The turn of a file that can be read. -/
def turn? (file : Path) (s : σ) : Option (FileTurn σ) :=
  let located := (locate file).run serve s
  match located.1 with
  | .error _ => none
  | .ok path =>
      let text := (Job.readText path).run serve located.2
      match text.1 with
      | .error _ => none
      | .ok content => some ⟨file, path, content, text.2⟩

/-- The turns of the files, up to the first that cannot be read. -/
def turns (a : Annotator) : List Path → σ → List (FileTurn σ)
  | [], _ => []
  | file :: rest, s =>
      match turn? serve file s with
      | none => []
      | some turn => turn :: turns a rest ((lintFile a file).run serve s).2

/-- The host when the files' turns begin. -/
def turnsBegin (o : Options) (place : Workplace) (s : σ) : σ :=
  ((warnAbout place).run serve (o.workplace.run serve s).2).2

/-- What became of a file in its turn. -/
def FileTurn.outcome (a : Annotator) (turn : FileTurn σ) : LintOutcome :=
  ((a.annotate turn.path turn.content).run serve turn.host).1

/-- Where the file passed the gate, the linter was started once, and its run passed. -/
def FileTurn.Passes (a : Annotator) (turn : FileTurn σ) : Prop :=
  ((a.gate turn.path turn.content).run serve turn.host).1 = none →
    ∃ command reply, Job.starts ((a.annotate turn.path turn.content).talk serve turn.host)
        = [⟨.launch command a.budget, reply⟩]
      ∧ (RunEnd.ofReply command a.budget reply).Passes turn.content

end

variable {σ : Type} {serve : Job.Server σ}

theorem FileTurn.isBad_eq_false_iff {a : Annotator}
    (graded : a.settings.treatAllAsWarnings = false) (turn : FileTurn σ) :
    (turn.outcome serve a).isBad = false ↔ turn.Passes serve a := by
  unfold Passes outcome
  cases gated : ((a.gate turn.path turn.content).run serve turn.host).1 with
  | some reason => simp [Annotator.annotate_of_skips gated, LintOutcome.isBad]
  | none => simp only [Annotator.annotate_isBad_of_passes graded gated, true_imp_iff]

theorem lintFile_of_turn (serve : Job.Server σ) (a : Annotator) (file : Path) (s : σ) :
    (∃ turn, turn? serve file s = some turn ∧ turn.file = file
        ∧ ((lintFile a file).run serve s).1 = .ok ⟨file, turn.outcome serve a⟩)
      ∨ turn? serve file s = none ∧ ∃ fatal, ((lintFile a file).run serve s).1 = .error fatal := by
  unfold lintFile turn?
  simp only [Job.bind_eq_andThen, Job.run_andThen]
  cases ((locate file).run serve s).1 with
  | error e => exact .inr ⟨rfl, _, rfl⟩
  | ok path =>
      simp only [Job.run_andThen]
      cases text : ((Job.readText path).run serve ((locate file).run serve s).2).1 with
      | error e => exact .inr ⟨rfl, _, rfl⟩
      | ok content =>
          simp only [Job.run_andThen, Job.run_pure]
          exact .inl ⟨_, rfl, rfl, by simp only [FileTurn.outcome]⟩

/-- All files are linted where each of them has its turn, and that is what becomes of
them. -/
theorem lintFiles_eq_ok_iff {a : Annotator} {files : List Path} {s : σ}
    {outcomes : List FileOutcome} :
    ((lintFiles a files).run serve s).1 = .ok outcomes ↔
      (turns serve a files s).map (·.file) = files
        ∧ outcomes = (turns serve a files s).map fun turn => ⟨turn.file, turn.outcome serve a⟩ := by
  induction files generalizing s outcomes with
  | nil =>
      simp only [turns, List.map_nil, true_and]
      exact ⟨fun done => (Except.ok.inj done).symm, fun same => same ▸ rfl⟩
  | cons file rest ih =>
      unfold lintFiles turns
      rw [Job.bind_eq_andThen, Job.run_andThen]
      rcases lintFile_of_turn serve a file s with
        ⟨turn, found, named, done⟩ | ⟨missing, fatal, failed⟩
      · simp only [done, found, List.map_cons, named, List.cons.injEq, true_and]
        rw [Job.bind_eq_andThen, Job.run_andThen]
        cases others : ((lintFiles a rest).run serve ((lintFile a file).run serve s).2).1 with
        | error fatal =>
            have stuck : (turns serve a rest ((lintFile a file).run serve s).2).map (·.file)
                ≠ rest := by
              intro complete
              have ok := ih.mpr ⟨complete, rfl⟩
              rw [others] at ok
              cases ok
            constructor
            · intro done
              cases done
            · intro both
              exact absurd both.1 stuck
        | ok found =>
            obtain ⟨complete, same⟩ := ih.mp others
            constructor
            · intro done
              cases done
              exact ⟨complete, congrArg _ same⟩
            · intro both
              rw [both.2, ← same]
              rfl
      · simp only [failed, missing, List.map_nil, reduceCtorEq, false_and, iff_false]
        intro done
        cases done

theorem runLint_exitCode {files : List Path} {format : Format} {place : Workplace} {s : σ}
    (graded : place.settings.treatAllAsWarnings = false) :
    ((runLint files format place).run serve s).1.exitCode = 0 ↔
      let a := Annotator.new place.root place.settings
      let turns := turns serve a files ((warnAbout place).run serve s).2
      turns.map (·.file) = files ∧ ∀ turn ∈ turns, turn.Passes serve a := by
  unfold runLint
  rw [Job.bind_eq_andThen, Job.run_andThen, Job.bind_eq_andThen, Job.run_andThen]
  cases linted : ((lintFiles (.new place.root place.settings) files).run serve
      ((warnAbout place).run serve s).2).1 with
  | error fatal =>
      constructor
      · intro done
        cases done
      · rintro ⟨complete, -⟩
        have done := lintFiles_eq_ok_iff.mpr ⟨complete, rfl⟩
        rw [linted] at done
        cases done
  | ok outcomes =>
      obtain ⟨complete, same⟩ := lintFiles_eq_ok_iff.mp linted
      have counts : (Ending.printed (format.print outcomes)
          (outcomes.any (·.outcome.isBad))).exitCode = 0
            ↔ outcomes.any (·.outcome.isBad) = false := by
        cases bad : outcomes.any (·.outcome.isBad) <;> simp [Ending.exitCode]
      refine counts.trans ?_
      simp only [complete, true_and, same, List.any_map, List.any_eq_false, Function.comp_apply,
        Bool.not_eq_true]
      exact forall₂_congr fun turn _ => FileTurn.isBad_eq_false_iff graded turn

/-- With issues graded as they are reported, the files are linted with an exit code of
zero exactly where there is a workplace, every file has its turn, and each that passed
the gate had a run of the linter that passes. -/
theorem lint_exitCode_eq_zero_iff {σ : Type} (serve : Job.Server σ) (s : σ) (o : Options)
    (files : List Path) (format : Format)
    (graded : ∀ place, (o.workplace.run serve s).1 = .ok place →
      place.settings.treatAllAsWarnings = false) :
    ((Invocation.run ⟨o, .lint files format⟩).run serve s).1.exitCode = 0 ↔
      ∃ place, (o.workplace.run serve s).1 = .ok place ∧
        let a := Annotator.new place.root place.settings
        let turns := turns serve a files (turnsBegin serve o place s)
        turns.map (·.file) = files ∧ ∀ turn ∈ turns, turn.Passes serve a := by
  unfold Invocation.run
  simp only [inWorkplace]
  rw [Job.bind_eq_andThen, Job.run_andThen]
  cases settled : (o.workplace.run serve s).1 with
  | error fatal =>
      simp only [reduceCtorEq, false_and, exists_false, iff_false]
      intro done
      cases done
  | ok place =>
      rw [runLint_exitCode (graded place settled)]
      simp only [Except.ok.injEq, exists_eq_left', turnsBegin]

/-- A project with a document and a file that is none, and a linter that is only a
name. -/
def smallMachine : Machine :=
  { tree := ⟨[(["p"], .directory), (["p", "lint"], .file [] true),
      (["p", "a.coffee"], .file [120] false), (["p", "b.js"], .file [120] false)]⟩
    current := ["p"], clock := 0, copies := 0, entries := [] }

/-- Prints a text and ends with code one. -/
def unhappyLinter (text : String) : Machine.Launcher := fun tree _ _ _ =>
  .ok (⟨[⟨.ok (some (.code 1)), false, .chunk ⟨.out, Text.encode text⟩⟩,
    ⟨.ok none, false, .closed⟩, ⟨.ok none, false, .nothing⟩], []⟩, tree)

/-- Only a linter is named. -/
def smallOptions : Options :=
  { settingsFile? := none, projectRoot? := none, verbose := false, executable? := some "lint",
    node? := none, configFile? := none, rulesDirectory? := none, allWarnings := false }

def smallWorkplace : Workplace :=
  ⟨⟨["", "p"]⟩, ⟨true, "lint", "", "", "", false⟩⟩

/-- An error behind the last line. -/
def staleReport : String :=
  "<checkstyle><file><error line='9'/><error line='1' severity='warning'/></file></checkstyle>"

theorem stale_report_exits_zero :
    let serve := Machine.serveWith (unhappyLinter staleReport)
    let files := [Path.ofText "a.coffee", .ofText "b.js"]
    ((Invocation.run ⟨smallOptions, .lint files .json⟩).run serve smallMachine).1.exitCode = 0 ∧
      ∃ place, (smallOptions.workplace.run serve smallMachine).1 = .ok place ∧
        let a := Annotator.new place.root place.settings
        let turns := turns serve a files (turnsBegin serve smallOptions place smallMachine)
        turns.map (·.file) = files ∧ ∀ turn ∈ turns, turn.Passes serve a := by
  intro serve files
  have settled : (smallOptions.workplace.run serve smallMachine).1 = .ok smallWorkplace :=
    Result.eq_ok_of_toOption (by decide +kernel)
  have graded : ∀ place, (smallOptions.workplace.run serve smallMachine).1 = .ok place →
      place.settings.treatAllAsWarnings = false := by
    intro place found
    cases settled.symm.trans found
    rfl
  have exits : ((Invocation.run ⟨smallOptions, .lint files .json⟩).run serve
      smallMachine).1.exitCode = 0 := by decide +kernel
  exact ⟨exits, (lint_exitCode_eq_zero_iff serve smallMachine smallOptions files .json
    graded).mp exits⟩

/-! ## A run that passes without a report -/

/-- As `FileTurn.Passes`, with a run that found no error. -/
def FileTurn.FoundNoError {σ : Type} (serve : Job.Server σ) (a : Annotator)
    (turn : FileTurn σ) : Prop :=
  ((a.gate turn.path turn.content).run serve turn.host).1 = none →
    ∃ command reply, Job.starts ((a.annotate turn.path turn.content).talk serve turn.host)
        = [⟨.launch command a.budget, reply⟩]
      ∧ (RunEnd.ofReply command a.budget reply).FoundNoError

/-- The exchange shows a run that did not find that there is no error. -/
def leavesDoubt : Exchange → Bool
  | ⟨.launch command budget, reply⟩ => !decide (RunEnd.ofReply command budget reply).FoundNoError
  | _ => false

/-- The exit code is zero although the only run of the linter ended with code one and
printed no report. -/
theorem garbled_report_exits_zero :
    let serve := Machine.serveWith (unhappyLinter "oops")
    let a := Annotator.new smallWorkplace.root smallWorkplace.settings
    ((Invocation.run ⟨smallOptions, .lint [.ofText "a.coffee"] .text⟩).run serve smallMachine).1.exitCode
        = 0
      ∧ (smallOptions.workplace.run serve smallMachine).1 = .ok smallWorkplace
      ∧ smallWorkplace.settings.treatAllAsWarnings = false
      ∧ ¬ ∀ turn ∈ turns serve a [.ofText "a.coffee"]
          (turnsBegin serve smallOptions smallWorkplace smallMachine),
        turn.FoundNoError serve a := by
  intro serve a
  refine ⟨by decide +kernel, Result.eq_ok_of_toOption (by decide +kernel), rfl, ?_⟩
  have seen : ∃ turn ∈ turns serve a [.ofText "a.coffee"]
      (turnsBegin serve smallOptions smallWorkplace smallMachine),
      ((a.gate turn.path turn.content).run serve turn.host).1 = none ∧
        (Job.starts ((a.annotate turn.path turn.content).talk serve turn.host)).all
          leavesDoubt = true := by decide +kernel
  obtain ⟨turn, member, gated, told⟩ := seen
  intro all
  obtain ⟨command, reply, once, found⟩ := all turn member gated
  simp [once, leavesDoubt, found] at told

end Console

end LintBridge
