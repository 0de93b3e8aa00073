import LintBridge.Proofs.Console.ExitCode
import LintBridge.Proofs.Lint.Outcomes
import LintBridge.Proofs.Path.Texts

/-!
# What a run tells

The files are linted in order, up to the first that cannot be read, which leaves nothing to
tell.  Otherwise the exit code and both forms of the summary are about the same outcomes, one
for each file.  The form for people is taken apart into its pieces, and the other one is read
back.  Paths are shown as texts: one that is no text is told with U+FFFD in it.
-/

set_option autoImplicit false

namespace LintBridge.Console

open Json

namespace FileOutcome

/-- What was found in the file. -/
def annotations (file : FileOutcome) : List Annotation :=
  file.outcome.annotations

theorem isBad_iff (file : FileOutcome) :
    file.outcome.isBad = true ↔ file.isFailed ∨ ∃ a ∈ file.annotations, a.severity = .error := by
  unfold isFailed annotations
  cases file.outcome <;> simp [LintOutcome.isBad, LintOutcome.annotations]

/-! ## The form for programs -/

def shape : Shape :=
  ⟨"FileOutcome", [.of "path" Decoder.text .required, .of "outcome" LintOutcome.decode .required]⟩

/-- Reads how the path is shown, and the outcome. -/
def decode : Decoder (String × LintOutcome) := fun value => do
  let members ← shape.members value
  return (← members.need "path" Decoder.text, ← members.need "outcome" LintOutcome.decode)

theorem decode_toJson (file : FileOutcome) :
    decode file.toJson = .ok (file.path.text, file.outcome) := by
  have admits : shape.Admits
      [("path", .string file.path.text), ("outcome", file.outcome.toJson)] :=
    { pass := by simp [shape, Field.of, Except.map, LintOutcome.decode_toJson]
      there := by simp [shape, Field.of]
      distinct := by simp }
  unfold decode toJson
  rw [admits.members]
  simp [admits.need, bind, Except.bind, pure, Except.pure, LintOutcome.decode_toJson]

theorem plain_toJson {file : FileOutcome} (fit : ∀ a ∈ file.annotations, a.Fits) (depth : Nat) :
    Plain (depth + 5) file.toJson :=
  plain_ofMembers (List.forall_mem_cons.mpr ⟨trivial,
    List.forall_mem_singleton.mpr (LintOutcome.plain_toJson fit depth)⟩)

end FileOutcome

theorem read_print_json {files : List FileOutcome}
    (fit : ∀ file ∈ files, ∀ a ∈ file.annotations, a.Fits) :
    ∃ value, Json.read (Format.json.print files) = .ok value
      ∧ Decoder.list FileOutcome.decode value
        = .ok (files.map fun file => (file.path.text, file.outcome)) := by
  have plain : Plain deepest (.array (files.map (·.toJson))) := by
    intro item member
    obtain ⟨file, there, rfl⟩ := List.mem_map.mp member
    exact FileOutcome.plain_toJson (fit file there) 121
  exact ⟨_, read_indented plain (@isGap_singleton '\n' rfl),
    list_map FileOutcome.decode_toJson files⟩

/-! ## The form for people -/

/-- A part of the summary that is told in one go. -/
inductive Piece where
  | header (shown : String)
  | finding (found : Annotation)
  | failure (line : String)
  | counts (files findings failures : Nat)

namespace Piece

def severityWord : Severity → String
  | .error => "error"
  | .warning => "warning"

/-- The text of a piece.  A finding is told with its line counted from one; failures are
counted only where there are some. -/
def text : Piece → String
  | header shown => "\n" ++ shown ++ ":\n"
  | finding ⟨_, line, column, severity, rule, message⟩ =>
      String.join ["  ", toString (line + 1), ":", toString column.toInt, " ",
        severityWord severity, " [", rule, "]: ", message, "\n"]
  | failure line => String.join ["  failed: ", line, "\n"]
  | counts files findings failures =>
      "\nChecked " ++ toString files ++ " files, found " ++ toString findings ++ " issues"
        ++ (if 0 < failures then ", " ++ toString failures ++ " failed" else "") ++ "\n"

def path? : Piece → Option String
  | header shown => some shown
  | _ => none

def IsCounts : Piece → Prop
  | counts .. => True
  | _ => False

/-- The findings, each with the path of the last header above it. -/
def findings : Option String → List Piece → List (Option String × Annotation)
  | _, [] => []
  | _, header shown :: rest => findings (some shown) rest
  | above, finding found :: rest => (above, found) :: findings above rest
  | above, failure _ :: rest => findings above rest
  | above, counts .. :: rest => findings above rest

end Piece

/-- Pieces that tell about the outcomes: each file with something to tell has its header, and
below it every finding of the file stands once, in order. -/
structure Tells (files : List FileOutcome) (body : List Piece) : Prop where
  headers : body.filterMap Piece.path?
    = (files.filter fun file => file.isFailed || !file.annotations.isEmpty).map (·.path.text)
  findings : Piece.findings none body
    = files.flatMap fun file => file.annotations.map (some file.path.text, ·)
  uncounted : ∀ piece ∈ body, ¬ piece.IsCounts

/-- The numbers of files, of findings and of failures. -/
def counted (files : List FileOutcome) : Piece :=
  .counts files.length (files.flatMap (·.annotations)).length (files.countP (·.isFailed))

namespace FileOutcome

/-- The pieces about one file. -/
def pieces (file : FileOutcome) : List Piece :=
  match file.outcome with
  | .annotated [] => []
  | .annotated (a :: rest) => .header file.path.text :: (a :: rest).map .finding
  | .failed message => .header file.path.text :: (Text.lines (Text.trim message)).map .failure
  | .skipped _ => []

theorem annotationLine_eq : annotationLine = Piece.text ∘ .finding := by
  have word : ∀ severity : Severity, severity.name = Piece.severityWord severity := by
    rintro (_ | _) <;> rfl
  funext a
  simp only [annotationLine, Function.comp_apply, Piece.text, word, String.join_cons,
    String.join_nil, String.append_empty, String.append_assoc]

theorem failureLine_eq : failureLine = Piece.text ∘ .failure := by
  funext line
  simp only [failureLine, Function.comp_apply, Piece.text, String.join_cons, String.join_nil,
    String.append_empty, String.append_assoc]

theorem text_eq (file : FileOutcome) : file.text = String.join (file.pieces.map Piece.text) := by
  unfold text pieces
  split
  · rename_i none'
    simp [none']
  · rename_i annotations some' found
    cases annotations with
    | nil => exact absurd rfl some'
    | cons a rest =>
        rw [found, annotationLine_eq, ← List.map_map]
        simp only [List.map_cons, String.join_cons, Piece.text]
  · rename_i failed
    rw [failed, failureLine_eq, ← List.map_map]
    simp only [List.map_cons, String.join_cons, Piece.text]
  · rename_i skipped
    simp [skipped]

end FileOutcome

theorem countLine_eq (files : List FileOutcome) : countLine files = (counted files).text := by
  have total : ∀ n, files.foldl (fun n file => n + file.issueCount) n
      = n + (files.flatMap (·.annotations)).length := by
    induction files with
    | nil => exact fun _ => rfl
    | cons file rest ih =>
        intro n
        have counted : file.issueCount = file.annotations.length := by
          unfold FileOutcome.issueCount FileOutcome.annotations
          cases file.outcome <;> rfl
        rw [List.foldl_cons, ih, counted, List.flatMap_cons, List.length_append, Nat.add_assoc]
  rw [countLine, total, Nat.zero_add, counted, Piece.text]
  cases files.countP (·.isFailed) <;> simp

theorem print_text (files : List FileOutcome) :
    Format.text.print files
      = String.join ((files.flatMap (·.pieces) ++ [counted files]).map Piece.text) := by
  have bodies : String.join (files.map (·.text))
      = String.join ((files.flatMap (·.pieces)).map Piece.text) := by
    induction files with
    | nil => rfl
    | cons file rest ih =>
        rw [List.map_cons, String.join_cons, ih, FileOutcome.text_eq, List.flatMap_cons,
          List.map_append, String.join_append]
  rw [Format.print, bodies, countLine_eq]
  simp

namespace Piece

theorem findings_map_finding (above : Option String) (annotations : List Annotation)
    (rest : List Piece) :
    findings above (annotations.map .finding ++ rest)
      = annotations.map (above, ·) ++ findings above rest := by
  induction annotations with
  | nil => rfl
  | cons a later ih => exact congrArg ((above, a) :: ·) ih

theorem findings_map_failure (above : Option String) (lines : List String) (rest : List Piece) :
    findings above (lines.map .failure ++ rest) = findings above rest := by
  induction lines with
  | nil => rfl
  | cons line later ih => exact ih

end Piece

namespace FileOutcome

theorem pieces_headers (file : FileOutcome) :
    file.pieces.filterMap Piece.path?
      = if file.isFailed || !file.annotations.isEmpty then [file.path.text] else [] := by
  unfold pieces isFailed annotations
  cases file.outcome with
  | skipped reason => rfl
  | failed message =>
      simp [LintOutcome.annotations, Piece.path?]
  | annotated annotations =>
      cases annotations <;> simp [LintOutcome.annotations, Piece.path?]

/-- Whatever stands above, the findings of a file are below the file's own header. -/
theorem findings_pieces (above : Option String) (file : FileOutcome) (rest : List Piece) :
    ∃ above', Piece.findings above (file.pieces ++ rest)
      = file.annotations.map (some file.path.text, ·) ++ Piece.findings above' rest := by
  unfold pieces annotations
  cases file.outcome with
  | skipped reason => exact ⟨above, rfl⟩
  | failed message =>
      simp only
      generalize Text.lines (Text.trim message) = lines
      exact ⟨some file.path.text, Piece.findings_map_failure (some file.path.text) lines rest⟩
  | annotated annotations =>
      cases annotations with
      | nil => exact ⟨above, rfl⟩
      | cons a later =>
          exact ⟨some file.path.text, Piece.findings_map_finding _ (a :: later) rest⟩

theorem pieces_uncounted (file : FileOutcome) : ∀ piece ∈ file.pieces, ¬ piece.IsCounts := by
  unfold pieces
  cases file.outcome with
  | skipped reason => simp
  | failed message => simp [Piece.IsCounts]
  | annotated annotations => cases annotations <;> simp [Piece.IsCounts]

end FileOutcome

theorem tells_pieces (files : List FileOutcome) : Tells files (files.flatMap (·.pieces)) where
  headers := by
    induction files with
    | nil => rfl
    | cons file rest ih =>
        rw [List.flatMap_cons, List.filterMap_append, ih, file.pieces_headers, List.filter_cons]
        split <;> rfl
  findings := by
    have all : ∀ above, Piece.findings above (files.flatMap (·.pieces))
        = files.flatMap fun file => file.annotations.map (some file.path.text, ·) := by
      induction files with
      | nil => exact fun _ => rfl
      | cons file rest ih =>
          intro above
          obtain ⟨above', first⟩ := file.findings_pieces above (rest.flatMap (·.pieces))
          rw [List.flatMap_cons, first, ih, List.flatMap_cons]
    exact all none
  uncounted := by
    intro piece member
    obtain ⟨file, -, inside⟩ := List.mem_flatMap.mp member
    exact file.pieces_uncounted piece inside

/-! ## Runs -/

section

variable {σ : Type} (serve : Job.Server σ)

/-- A file that cannot be read when its turn comes. -/
def MeetsUnreadable (a : Annotator) (files : List Path) (s : σ) : Prop :=
  ∃ before file after, files = before ++ file :: after
    ∧ turn? serve file ((lintFiles a before).run serve s).2 = none

/-- There is nothing to tell: the settings cannot be loaded, or a file cannot be read. -/
def GivesUp (o : Options) (files : List Path) (s : σ) : Prop :=
  (∃ fatal, (o.workplace.run serve s).1 = .error fatal) ∨
    ∃ place, (o.workplace.run serve s).1 = .ok place ∧
      MeetsUnreadable serve (.new place.root place.settings) files (turnsBegin serve o place s)

end

variable {σ : Type} {serve : Job.Server σ}

/-- Every file has its turn unless one of them cannot be read. -/
theorem turns_complete_iff {a : Annotator} {files : List Path} {s : σ} :
    (turns serve a files s).map (·.file) = files ↔ ¬ MeetsUnreadable serve a files s := by
  induction files generalizing s with
  | nil =>
      simp only [turns, List.map_nil, true_iff]
      rintro ⟨before, file, after, split', -⟩
      simp at split'
  | cons file rest ih =>
      rcases lintFile_of_turn serve a file s with
        ⟨turn, found, named, done⟩ | ⟨missing, fatal, failed⟩
      · simp only [turns, found, List.map_cons, named, List.cons.injEq, true_and, ih]
        -- This file was read, so the others begin on the host that linting it has left.
        have later : ∀ before, ((lintFiles a (file :: before)).run serve s).2
            = ((lintFiles a before).run serve ((lintFile a file).run serve s).2).2 := by
          intro before
          rw [lintFiles, Job.bind_eq_andThen, Job.run_andThen, done]
          simp only
          rw [Job.bind_eq_andThen, Job.run_andThen]
          rfl
        refine not_congr ⟨?_, ?_⟩
        · rintro ⟨before, file', after, rfl, missing⟩
          exact ⟨file :: before, file', after, rfl, (later before).symm ▸ missing⟩
        · rintro ⟨before, file', after, split', missing⟩
          cases before with
          | nil =>
              cases split'
              exact absurd (found.symm.trans missing) (by simp)
          | cons first before =>
              cases split'
              exact ⟨before, file', after, rfl, later before ▸ missing⟩
      · simp only [turns, missing, List.map_nil]
        refine iff_of_false (List.cons_ne_nil file rest).symm (not_not_intro ?_)
        exact ⟨[], file, rest, rfl, missing⟩

theorem lint_run {o : Options} {files : List Path} {s : σ} (format : Format) :
    ((Invocation.run ⟨o, .lint files format⟩).run serve s).1 =
      match (o.workplace.run serve s).1 with
      | .error fatal => .gaveUp fatal
      | .ok place =>
          match ((lintFiles (.new place.root place.settings) files).run serve
              (turnsBegin serve o place s)).1 with
          | .error fatal => .gaveUp fatal
          | .ok outcomes => .printed (format.print outcomes) (outcomes.any (·.outcome.isBad)) := by
  unfold Invocation.run
  simp only [inWorkplace]
  rw [Job.bind_eq_andThen, Job.run_andThen]
  cases (o.workplace.run serve s).1 with
  | error fatal => rfl
  | ok place =>
      simp only [runLint]
      rw [Job.bind_eq_andThen, Job.run_andThen, Job.bind_eq_andThen, Job.run_andThen]
      simp only [turnsBegin]
      cases ((lintFiles (.new place.root place.settings) files).run serve
        ((warnAbout place).run serve (o.workplace.run serve s).2).2).1 with
      | error fatal => rfl
      | ok outcomes => rfl

theorem lint_of_givesUp {o : Options} {files : List Path} {s : σ}
    (stops : GivesUp serve o files s) (format : Format) :
    ∃ fatal, ((Invocation.run ⟨o, .lint files format⟩).run serve s).1 = .gaveUp fatal := by
  rw [lint_run]
  rcases stops with ⟨fatal, failed⟩ | ⟨place, settled, unreadable⟩
  · exact ⟨fatal, by rw [failed]⟩
  · rw [settled]
    simp only
    cases linted : ((lintFiles (.new place.root place.settings) files).run serve
        (turnsBegin serve o place s)).1 with
    | error fatal => exact ⟨fatal, rfl⟩
    | ok outcomes =>
        exact absurd unreadable (turns_complete_iff.mp (lintFiles_eq_ok_iff.mp linted).1)

/-- The files are linted and nothing is given up: there are the outcomes of all turns. -/
theorem lint_of_not_givesUp {o : Options} {files : List Path} {s : σ}
    (goesOn : ¬ GivesUp serve o files s) :
    ∃ place, (o.workplace.run serve s).1 = .ok place ∧
      let a := Annotator.new place.root place.settings
      let turns := turns serve a files (turnsBegin serve o place s)
      let outcomes : List FileOutcome := turns.map fun turn => ⟨turn.file, turn.outcome serve a⟩
      turns.map (·.file) = files ∧ ∀ format : Format,
        ((Invocation.run ⟨o, .lint files format⟩).run serve s).1
          = .printed (format.print outcomes) (outcomes.any (·.outcome.isBad)) := by
  cases settled : (o.workplace.run serve s).1 with
  | error fatal => exact absurd (.inl ⟨fatal, settled⟩) goesOn
  | ok place =>
      have readable : ¬ MeetsUnreadable serve (.new place.root place.settings) files
          (turnsBegin serve o place s) := fun meets => goesOn (.inr ⟨place, settled, meets⟩)
      have complete := turns_complete_iff.mpr readable
      refine ⟨place, rfl, complete, fun format => ?_⟩
      rw [lint_run, settled]
      simp only [lintFiles_eq_ok_iff.mpr ⟨complete, rfl⟩]

theorem exitCode_printed_iff (text : String) (files : List FileOutcome) :
    let ending := Ending.printed text (files.any (·.outcome.isBad))
    let bad := ∃ file ∈ files, file.isFailed ∨ ∃ a ∈ file.annotations, a.severity = .error
    (ending.exitCode = 1 ↔ bad) ∧ (ending.exitCode = 0 ↔ ¬ bad) := by
  intro ending bad
  have same : files.any (·.outcome.isBad) = true ↔ bad := by
    simp only [List.any_eq_true, FileOutcome.isBad_iff, bad]
  rw [← same]
  simp only [ending, Ending.exitCode]
  cases files.any (·.outcome.isBad) <;> simp

/-- The exit code and both forms of the summary tell the same outcomes, one for each file in
order, unless there is nothing to tell.  A path is told as it is shown, so one that was given as
a text is told as this text.  Places in a file are numbers of 64 bits, which count
the bytes of every file that there is. -/
theorem lint_tells_outcomes {σ : Type} (serve : Job.Server σ) (s : σ) (o : Options)
    (files : List Path) :
    let ending := fun format => ((Invocation.run ⟨o, .lint files format⟩).run serve s).1
    (GivesUp serve o files s →
      ∀ format, (ending format).exitCode = 2 ∧ (ending format).out = "") ∧
    (¬ GivesUp serve o files s → ∃ place, (o.workplace.run serve s).1 = .ok place ∧
      let a := Annotator.new place.root place.settings
      let turns := turns serve a files (turnsBegin serve o place s)
      let outcomes : List FileOutcome := turns.map fun turn => ⟨turn.file, turn.outcome serve a⟩
      let bad := ∃ file ∈ outcomes, file.isFailed ∨ ∃ a ∈ file.annotations, a.severity = .error
      turns.map (·.file) = files
        ∧ (∀ names : List String, files = names.map .ofText → outcomes.map (·.path.text) = names)
        ∧ (∀ format, ((ending format).exitCode = 1 ↔ bad) ∧ ((ending format).exitCode = 0 ↔ ¬ bad))
        ∧ ((∀ turn ∈ turns, Text.length8 turn.content.toList < 18446744073709551616) →
          ∃ value, Json.read (ending .json).out = .ok value
            ∧ Decoder.list FileOutcome.decode value
              = .ok (outcomes.map fun file => (file.path.text, file.outcome)))
        ∧ ∃ body, (ending .text).out = String.join ((body ++ [counted outcomes]).map Piece.text)
          ∧ Tells outcomes body) := by
  intro ending
  constructor
  · intro stops format
    obtain ⟨fatal, gaveUp⟩ := lint_of_givesUp stops format
    simp only [ending, gaveUp]
    exact ⟨rfl, rfl⟩
  · intro goesOn
    obtain ⟨place, settled, complete, printed⟩ := lint_of_not_givesUp goesOn
    refine ⟨place, settled, complete, ?_, ?_, ?_, ?_⟩
    · rintro names rfl
      have paths := congrArg (List.map Path.text) complete
      simpa [Function.comp_def, Path.text_ofText] using paths
    · intro format
      simp only [ending, printed format]
      exact exitCode_printed_iff _ _
    · intro small
      simp only [ending, printed .json]
      refine read_print_json fun file member => ?_
      obtain ⟨turn, there, rfl⟩ := List.mem_map.mp member
      exact Annotator.annotate_fits serve turn.host _ turn.path (small turn there)
    · simp only [ending, printed .text]
      exact ⟨_, print_text _, tells_pieces _⟩

/-- An error on the first line. -/
def loudReport : String :=
  "<checkstyle><file><error line='1' message='m'/></file></checkstyle>"

/-- One file has an error and is named twice, one is skipped, and one is not there. -/
theorem mixed_files_told :
    let serve := Machine.serveWith (unhappyLinter loudReport)
    let a := Annotator.new smallWorkplace.root smallWorkplace.settings
    let lint := fun (names : List String) format =>
      ((Invocation.run ⟨smallOptions, .lint (names.map .ofText) format⟩).run serve smallMachine).1
    let missing := ["a.coffee", "c.coffee"]
    let mixed := ["a.coffee", "b.js", "a.coffee"]
    let turns := turns serve a (mixed.map .ofText)
      (turnsBegin serve smallOptions smallWorkplace smallMachine)
    let outcomes : List FileOutcome := turns.map fun turn => ⟨turn.file, turn.outcome serve a⟩
    (GivesUp serve smallOptions (missing.map .ofText) smallMachine
        ∧ ∀ format, (lint missing format).exitCode = 2 ∧ (lint missing format).out = "")
      ∧ ¬ GivesUp serve smallOptions (mixed.map .ofText) smallMachine
      ∧ (∀ turn ∈ turns, Text.length8 turn.content.toList < 18446744073709551616)
      ∧ (∃ value, Json.read (lint mixed .json).out = .ok value
        ∧ Decoder.list FileOutcome.decode value
          = .ok (outcomes.map fun file => (file.path.text, file.outcome)))
      ∧ outcomes.map (·.path.text) = mixed
      ∧ outcomes.map (·.annotations.length) = [1, 0, 1] := by
  intro serve a lint missing mixed turns outcomes
  have settled : (smallOptions.workplace.run serve smallMachine).1 = .ok smallWorkplace :=
    Result.eq_ok_of_toOption (by decide +kernel)
  have stops : GivesUp serve smallOptions (missing.map .ofText) smallMachine := by
    have absent : (turn? serve (.ofText "c.coffee") ((lintFiles a [.ofText "a.coffee"]).run serve
        (turnsBegin serve smallOptions smallWorkplace smallMachine)).2).isNone = true := by
      decide +kernel
    exact .inr ⟨smallWorkplace, settled, [.ofText "a.coffee"], .ofText "c.coffee", [], rfl,
      Option.isNone_iff_eq_none.mp absent⟩
  have complete : turns.map (·.file) = mixed.map .ofText := by decide +kernel
  have goesOn : ¬ GivesUp serve smallOptions (mixed.map .ofText) smallMachine := by
    rintro (⟨fatal, failed⟩ | ⟨place, found, unreadable⟩)
    · cases settled.symm.trans failed
    · cases settled.symm.trans found
      exact turns_complete_iff.mp complete unreadable
  have small : ∀ turn ∈ turns, Text.length8 turn.content.toList < 18446744073709551616 := by
    decide +kernel
  obtain ⟨-, told⟩ := lint_tells_outcomes serve smallMachine smallOptions (mixed.map .ofText)
  obtain ⟨place, found, -, shown, -, read, -⟩ := told goesOn
  cases settled.symm.trans found
  exact ⟨⟨stops, (lint_tells_outcomes serve smallMachine smallOptions _).1 stops⟩, goesOn, small,
    read small, shown mixed rfl, by decide +kernel⟩

/-! ## Paths that are no texts -/

/-- The small project with two more files, each of one byte that is no character. -/
def strayMachine : Machine :=
  { smallMachine with
    tree := ⟨[255, 254].map (fun byte => (["p", Text.Stray.ofBytes [byte]], .file [] false))
      ++ smallMachine.tree.entries⟩ }

/-- Files of different names are told alike, so the path that was given cannot be read back.  And
where no files are given, the command line is refused. -/
theorem stray_names_told_alike :
    let lint := fun byte format =>
      ((Invocation.run ⟨smallOptions, .lint [Path.ofBytes [byte]] format⟩).run
        (Machine.serveWith Machine.refusing) strayMachine).1
    Path.ofBytes [255] ≠ Path.ofBytes [254]
      ∧ (∀ byte ∈ [255, 254], (lint byte .json).exitCode = 0)
      ∧ (lint 255 .json).out = (lint 254 .json).out
      ∧ parse ["lint"] = .error (.fault .missingFiles)
      ∧ (Halt.fault .missingFiles).exitCode = 2 := by
  refine ⟨by decide +kernel, by decide +kernel, by decide +kernel, by decide +kernel, rfl⟩

end LintBridge.Console
