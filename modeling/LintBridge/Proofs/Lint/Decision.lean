import LintBridge.Lint.Annotate
import LintBridge.Proofs.Host.Talk
import LintBridge.Proofs.Result
import LintBridge.Proofs.Text.Encoding

/-!
# What becomes of a document

Annotating is five layers of work, each of which can end it: the gate, the text on
disk, the process, its output, and the mapping of the report.  `Decided` is the table
that says which of them counts, from what the host answered, and `Annotator.verdict`
its last part, how the end of the linter counts.
-/

set_option autoImplicit false

namespace LintBridge

/-- How an attempt to run the linter ended: without a result, or with a code, which one
that died of a signal does not have, and what it wrote. -/
inductive RunEnd where
  | failed (error : LintError)
  | ended (code? : Option Nat) (out err : Bytes)

namespace RunEnd

/-- The ending that the reply to a launch shows. -/
def ofReply (command : CommandLine) (budget : Nat) : Except OsError Observation → RunEnd
  | .error e => .failed (.launch command.display e.message)
  | .ok observation =>
      match observation.capture with
      | .error e => .failed (.io e.message)
      | .ok captured =>
          if captured.timedOut then .failed (.timeout command.display budget)
          else .ended captured.exitCode? (streamBytes .out captured.chunks)
            (streamBytes .err captured.chunks)

end RunEnd

namespace Annotator

/-- The reasons not to lint, in their order, and whether they hold. -/
def reasons (a : Annotator) (path : Path) (content : String)
    (problems : List SettingsProblem) : List (SkipReason × Bool) :=
  [(.notCoffeeScript, !path.isCoffeeScript), (.emptyContent, content.toList.all Text.isBlank),
   (.disabled, !a.settings.enabled), (.invalidSettings, !problems.isEmpty)]

def firstReason (a : Annotator) (path : Path) (content : String)
    (problems : List SettingsProblem) : Option SkipReason :=
  ((a.reasons path content problems).find? (·.2)).map (·.1)

/-- Puts the text on disk and tells its place as seen from the project root. -/
def place (a : Annotator) (path : Path) (content : String) :
    Job (Except LintError String) := do
  match ← Copy.materialize a.root path content with
  | .error e => return .error e
  | .ok copy => copy.relativePath a.root

def commandFor (a : Annotator) (relative : String) : CommandLine :=
  (a.settings.configuration a.root relative).lintCommand

def annotationsOf (a : Annotator) (content out : String) : List Annotation :=
  match (Report.parse out).value with
  | .ok report =>
      (report.annotations a.settings.treatAllAsWarnings (.ofText content.toList)).value
  | .error _ => []

/-- How the end of the linter counts. -/
def verdict (a : Annotator) (content : String) : RunEnd → LintOutcome
  | .failed e => .failed e.message
  | .ended code? out err =>
      if code? = some 0 then .annotated []
      else if err ≠ [] then .failed (Text.decodeLossy err)
      else .annotated (a.annotationsOf content (Text.decodeLossy out))

end Annotator

section Table

variable {σ : Type} (serve : Job.Server σ) (s : σ) (a : Annotator) (path : Path)
  (content : String)

/-- The outcome of annotating a document and what was asked of the host for it. -/
inductive Decided : LintOutcome → List Exchange → Prop where
  | skipped {reason : SkipReason} {talk : List Exchange}
      (first : a.firstReason path content ((a.settings.problems a.root).run serve s).1
        = some reason)
      (idle : ∀ exchange ∈ talk, exchange.request.startsProcess = false
        ∧ exchange.request.createsFile = false) :
      Decided (.skipped reason) talk
  | misplaced {error : LintError} {talk : List Exchange}
      (passes : a.firstReason path content ((a.settings.problems a.root).run serve s).1 = none)
      (failed : ((a.place path content).run serve ((a.gate path content).run serve s).2).1
        = .error error)
      (idle : Job.starts talk = []) :
      Decided (.failed ("Error running CoffeeLint inspection: " ++ error.message)) talk
  | linted {relative : String} {reply : Except OsError Observation} {talk : List Exchange}
      (passes : a.firstReason path content ((a.settings.problems a.root).run serve s).1 = none)
      (placed : ((a.place path content).run serve ((a.gate path content).run serve s).2).1
        = .ok relative)
      (once : Job.starts talk = [⟨.launch (a.commandFor relative) a.budget, reply⟩]) :
      Decided (a.verdict content (.ofReply (a.commandFor relative) a.budget reply)) talk

end Table

/-! ## Errors -/

namespace LintError

theorem message_ne_empty (e : LintError) : e.message ≠ "" := by
  have begun : ∀ {first : String} (rest : String), first ≠ "" → first ++ rest ≠ "" :=
    fun rest some_ blank => some_ (String.append_eq_empty_iff.mp blank).1
  cases e with
  | config => exact begun _ (by decide)
  | launch => exact begun _ (begun _ (begun _ (by decide)))
  | timeout => exact begun _ (begun _ (begun _ (begun _ (by decide))))
  | malformedReport => exact begun _ (by decide)
  | io => exact begun _ (by decide)
  | internal => exact begun _ (by decide)

end LintError

/-! ## The gate -/

/-- A request that changes nothing but the log. -/
def Request.Looks : Request → Prop
  | .log _ | .kind _ => True
  | _ => False

theorem Request.Looks.idle {r : Request} (looks : r.Looks) :
    r.startsProcess = false ∧ r.createsFile = false := by
  cases r <;> first | exact ⟨rfl, rfl⟩ | exact looks.elim

namespace LintSettings

theorem leadsTo_asks (kind : FileKind) (root : Path) (value : String) :
    (leadsTo kind root value).Asks Request.Looks :=
  (Job.asks_request (r := .kind _) trivial).andThen fun _ => trivial

theorem isUnsetOr_asks (kind : FileKind) (root : Path) (value : String) :
    (isUnsetOr kind root value).Asks Request.Looks := by
  unfold isUnsetOr
  split
  · trivial
  · exact leadsTo_asks kind root value

theorem isSetAnd_asks (kind : FileKind) (root : Path) (value : String) :
    (isSetAnd kind root value).Asks Request.Looks := by
  unfold isSetAnd
  split
  · trivial
  · exact leadsTo_asks kind root value

theorem problems_asks (settings : LintSettings) (root : Path) :
    (settings.problems root).Asks Request.Looks :=
  (isSetAnd_asks ..).andThen fun _ => (isUnsetOr_asks ..).andThen fun _ =>
    (isUnsetOr_asks ..).andThen fun _ => (isUnsetOr_asks ..).andThen fun _ => trivial

end LintSettings

namespace Annotator

variable {σ : Type} (serve : Job.Server σ) (s : σ) (a : Annotator) (path : Path)
  (content : String)

theorem gate_asks : (a.gate path content).Asks Request.Looks := by
  unfold gate
  split
  · trivial
  · split
    · trivial
    · split
      · trivial
      · exact (a.settings.problems_asks a.root).andThen fun _ => trivial

theorem gate_value :
    ((a.gate path content).run serve s).1
      = a.firstReason path content ((a.settings.problems a.root).run serve s).1 := by
  unfold gate firstReason reasons
  cases coffee : path.isCoffeeScript
  · rfl
  · cases blank : content.toList.all Text.isBlank
    · cases enabled : a.settings.enabled
      · rfl
      · simp only [Bool.not_true, Bool.false_eq_true, if_false, Job.bind_eq_andThen,
          Job.run_andThen]
        cases ((a.settings.problems a.root).run serve s).1 <;> rfl
    · rfl

end Annotator

/-! ## The text on disk -/

namespace Copy

theorem isSaved_asks (file : Path) (content : Bytes) :
    (isSaved file content).Asks (·.startsProcess = false) := by
  refine Job.Asks.andThen (Job.asks_request rfl) fun reply => ?_
  cases reply <;> trivial

theorem absolute_asks (directory : Path) :
    (absolute directory).Asks (·.startsProcess = false) := by
  unfold absolute
  split
  · trivial
  · refine Job.Asks.andThen (Job.asks_request rfl) fun reply => ?_
    cases reply <;> trivial

theorem make_asks (root file : Path) (content : Bytes) :
    (make root file content).Asks (·.startsProcess = false) := by
  refine Job.Asks.andThen (absolute_asks _) fun directory? => ?_
  cases directory? with
  | error e => trivial
  | ok directory =>
      refine Job.Asks.andThen (Job.asks_request rfl) fun made => ?_
      cases made with
      | error refused => trivial
      | ok path =>
          refine Job.Asks.andThen (Job.asks_request rfl) fun written => ?_
          cases written with
          | error e => exact Job.Asks.andThen (Job.asks_request rfl) fun _ => trivial
          | ok _ => exact Job.Asks.andThen (Job.asks_request rfl) fun _ => trivial

theorem materialize_asks (root file : Path) (content : String) :
    (materialize root file content).Asks (·.startsProcess = false) := by
  refine Job.Asks.andThen (isSaved_asks file _) fun saved => ?_
  cases saved with
  | false => exact make_asks root file _
  | true => exact Job.Asks.andThen (Job.asks_request rfl) fun _ => trivial

theorem relativePath_asks (root : Path) (copy : Copy) :
    (relativePath root copy).Asks (·.startsProcess = false) := by
  unfold relativePath
  split
  · trivial
  · refine Job.Asks.andThen (Job.asks_request rfl) fun root? => ?_
    cases root? with
    | error e => trivial
    | ok root' =>
        refine Job.Asks.andThen (Job.asks_request rfl) fun path? => ?_
        cases path? with
        | error e => trivial
        | ok path' => cases inside : path'.stripPrefix? root' <;> simp only [inside] <;> trivial

theorem release_asks (copy : Copy) : copy.release.Asks (·.startsProcess = false) := by
  unfold release
  split
  · exact Job.asks_request rfl
  · trivial

end Copy

/-! ## The run -/

namespace Job

theorem asks_tell {P : Request → Prop} (logs : ∀ entry, P (.log entry))
    (entries : List LogEntry) : (tell entries).Asks P := by
  induction entries with
  | nil => trivial
  | cons entry rest ih => exact ⟨logs entry, fun _ => ih⟩

theorem asks_ofLogged {α : Type} {P : Request → Prop} (logs : ∀ entry, P (.log entry))
    (m : Logged α) : (ofLogged m).Asks P :=
  (asks_tell logs m.log).andThen fun _ => trivial

theorem run_ofLogged {α σ : Type} (serve : Server σ) (m : Logged α) (s : σ) :
    ((ofLogged m).run serve s).1 = m.value := by
  rw [ofLogged, run_andThen]
  rfl

end Job

namespace CommandLine

/-- The capture that a reply to the launch leads to. -/
def captured (command : CommandLine) : Except OsError Observation → Except LintError Capture
  | .error e => .error (.launch command.display e.message)
  | .ok observation => observation.capture.mapError fun e => .io e.message

def executed (command : CommandLine) (budget : Nat) :
    Except LintError Capture → Except LintError ProcessOutcome
  | .error e => .error e
  | .ok captured =>
      if captured.timedOut then .error (.timeout command.display budget)
      else .ok captured.outcome

section

variable {σ : Type} {serve : Job.Server σ} {s : σ} (command : CommandLine) (budget : Nat)

theorem capture_launches :
    Job.Launches serve s (command.capture budget) command budget command.captured := by
  refine .behind (Job.asks_request rfl) (.andThen Job.launches_launch _ ?_ ?_)
  · intro launched
    cases launched with
    | error e => trivial
    | ok observation =>
        cases seen : observation.capture with
        | error e => simp only [seen]; trivial
        | ok captured =>
            cases late : captured.timedOut with
            | false => simp only [seen, late]; exact ⟨rfl, fun _ => trivial⟩
            | true => simp only [seen, late]; exact ⟨rfl, fun _ => ⟨rfl, fun _ => trivial⟩⟩
  · intro launched s
    cases launched with
    | error e => rfl
    | ok observation =>
        cases seen : observation.capture with
        | error e => simp only [captured, seen]; rfl
        | ok captured =>
            cases late : captured.timedOut <;>
              simp only [CommandLine.captured, seen, late] <;> rfl

theorem execute_launches :
    Job.Launches serve s (command.execute budget) command budget fun reply =>
      command.executed budget (command.captured reply) := by
  refine .andThen (command.capture_launches budget) _ ?_ ?_
  · intro captured?
    cases captured? with
    | error e => trivial
    | ok captured => cases late : captured.timedOut <;> simp only [late] <;> trivial
  · intro captured? s
    cases captured? with
    | error e => rfl
    | ok captured =>
        simp only [executed]
        split <;> rfl

end

end CommandLine

namespace LintConfiguration

def linted (config : LintConfiguration) : Except LintError ProcessOutcome → LintResult
  | .error e => ⟨none, e.message⟩
  | .ok outcome => (config.interpret outcome).value

theorem lint_launches {σ : Type} {serve : Job.Server σ} {s : σ} (config : LintConfiguration)
    (budget : Nat) :
    Job.Launches serve s (config.lint budget) config.lintCommand budget fun reply =>
      config.linted (config.lintCommand.executed budget (config.lintCommand.captured reply)) := by
  refine .andThen (config.lintCommand.execute_launches budget) _ ?_ ?_
  · intro executed
    cases executed with
    | error e => exact Job.Asks.andThen (Job.asks_request rfl) fun _ => trivial
    | ok outcome => exact Job.asks_ofLogged (fun _ => rfl) _
  · intro executed s
    cases executed with
    | error e => rfl
    | ok outcome => exact Job.run_ofLogged serve _ s

end LintConfiguration

/-! ## The document -/

namespace Annotator

section

variable {σ : Type} {serve : Job.Server σ} {s : σ} {a : Annotator} {path : Path}
  {content : String}

/-- The result of linting a text that has a place. -/
def resultAt (a : Annotator) (relative : String) (reply : Except OsError Observation) :
    LintResult :=
  (a.settings.configuration a.root relative).linted
    ((a.commandFor relative).executed a.budget ((a.commandFor relative).captured reply))

theorem lintCopy_misplaced {copy : Copy} {error : LintError}
    (failed : ((copy.relativePath a.root).run serve s).1 = .error error) :
    ((a.lintCopy copy).run serve s).1 = .error error
      ∧ Job.starts ((a.lintCopy copy).talk serve s) = [] := by
  unfold lintCopy
  rw [Job.bind_eq_andThen, Job.run_andThen, Job.talk_andThen, Job.starts_append,
    Job.starts_of_asks (Copy.relativePath_asks ..), failed]
  exact ⟨rfl, rfl⟩

theorem lintCopy_launches {copy : Copy} {relative : String}
    (found : ((copy.relativePath a.root).run serve s).1 = .ok relative) :
    Job.Launches serve s (a.lintCopy copy) (a.commandFor relative) a.budget fun reply =>
      .ok (a.resultAt relative reply) := by
  refine .behind (Copy.relativePath_asks ..) ?_
  rw [found]
  exact Job.Launches.andThen (f := fun result => Job.done (Except.ok result))
    (LintConfiguration.lint_launches _ a.budget) _ (fun _ => trivial) fun _ _ => rfl

/-- What the output of a run means, in the order in which it counts. -/
theorem judge_interpret (relative : String) (captured : Capture) :
    (a.judge content ((a.settings.configuration a.root relative).interpret
        captured.outcome).value).value
      = a.verdict content (.ended captured.exitCode? (streamBytes .out captured.chunks)
          (streamBytes .err captured.chunks)) := by
  have loud := Text.decodeLossy_eq_empty_iff (streamBytes .err captured.chunks)
  simp only [LintConfiguration.interpret, ProcessOutcome.success, Capture.outcome, verdict]
  by_cases clean : captured.exitCode? = some 0
  · simp only [clean, decide_true, if_true]
    rfl
  · simp only [clean, decide_false, Bool.false_eq_true, if_false, Logged.value_bind, annotationsOf]
    by_cases silent : streamBytes .err captured.chunks = []
    · have quiet : Text.decodeLossy [] = "" := rfl
      cases parsed : (Report.parse (Text.decodeLossy (streamBytes .out captured.chunks))).value with
      | error e => simp [judge, LintResult.hasError, silent, quiet]
      | ok report => simp [judge, LintResult.hasError, silent, quiet]
    · have told : Text.decodeLossy (streamBytes .err captured.chunks) ≠ "" :=
        fun blank => silent (loud.mp blank)
      cases parsed : (Report.parse (Text.decodeLossy (streamBytes .out captured.chunks))).value with
      | error e => simp [judge, LintResult.hasError, silent, told]
      | ok report => simp [judge, LintResult.hasError, silent, told]

theorem lintText_misplaced {error : LintError}
    (failed : ((a.place path content).run serve s).1 = .error error) :
    ((a.lintText path content).run serve s).1 = .error error
      ∧ Job.starts ((a.lintText path content).talk serve s) = [] := by
  unfold lintText
  unfold place at failed
  rw [Job.bind_eq_andThen, Job.run_andThen] at failed ⊢
  rw [Job.talk_andThen, Job.starts_append, Job.starts_of_asks (Copy.materialize_asks ..)]
  cases made : ((Copy.materialize a.root path content).run serve s).1 with
  | error e =>
      rw [made] at failed
      cases failed
      exact ⟨rfl, rfl⟩
  | ok copy =>
      rw [made] at failed
      have unplaced : ((copy.relativePath a.root).run serve
          ((Copy.materialize a.root path content).run serve s).2).1 = .error error := failed
      obtain ⟨value, quiet⟩ := lintCopy_misplaced unplaced
      simp only [Job.bind_eq_andThen, Job.run_andThen, Job.talk_andThen, Job.starts_append,
        quiet, value, Job.starts_of_asks (Copy.release_asks copy)]
      exact ⟨rfl, rfl⟩

theorem lintText_launches {relative : String}
    (placed : ((a.place path content).run serve s).1 = .ok relative) :
    Job.Launches serve s (a.lintText path content) (a.commandFor relative) a.budget fun reply =>
      .ok (a.resultAt relative reply) := by
  unfold place at placed
  rw [Job.bind_eq_andThen, Job.run_andThen] at placed
  refine .behind (Copy.materialize_asks ..) ?_
  cases made : ((Copy.materialize a.root path content).run serve s).1 with
  | error e => rw [made] at placed; cases placed
  | ok copy =>
      rw [made] at placed
      have found : ((copy.relativePath a.root).run serve
          ((Copy.materialize a.root path content).run serve s).2).1 = .ok relative := placed
      refine .andThen (lintCopy_launches found) id ?_ ?_
      · exact fun _ => (Copy.release_asks copy).andThen fun _ => trivial
      · intro result s
        simp only [Job.bind_eq_andThen, Job.run_andThen]
        rfl

theorem judge_resultAt (relative : String) (reply : Except OsError Observation) :
    (a.judge content (a.resultAt relative reply)).value
      = a.verdict content (.ofReply (a.commandFor relative) a.budget reply) := by
  have told : ∀ e : LintError,
      (a.judge content ⟨none, e.message⟩).value = .failed e.message := by
    intro e
    simp only [judge, LintResult.hasError, ne_eq, e.message_ne_empty, not_false_eq_true,
      decide_true, if_true]
    rfl
  unfold resultAt
  cases reply with
  | error e => exact told _
  | ok observation =>
      cases seen : observation.capture with
      | error e =>
          simp only [CommandLine.captured, RunEnd.ofReply, seen, Result.mapError_error]
          exact told _
      | ok captured =>
          cases late : captured.timedOut with
          | true =>
              simp only [CommandLine.captured, RunEnd.ofReply, seen, Result.mapError_ok,
                CommandLine.executed, late, if_true]
              exact told _
          | false =>
              simp only [CommandLine.captured, RunEnd.ofReply, seen, Result.mapError_ok,
                CommandLine.executed, late, Bool.false_eq_true, if_false]
              exact judge_interpret ..

/-- What annotating does with the result of linting a text. -/
def conclude (a : Annotator) (content : String) : Except LintError LintResult → Job LintOutcome
  | .error e => do
      let message := "Error running CoffeeLint inspection: " ++ e.message
      Job.log .error message
      return .failed message
  | .ok result => Job.ofLogged (a.judge content result)

def concluded (a : Annotator) (content : String) : Except LintError LintResult → LintOutcome
  | .error e => .failed ("Error running CoffeeLint inspection: " ++ e.message)
  | .ok result => (a.judge content result).value

theorem conclude_asks (content : String) (result : Except LintError LintResult) :
    (a.conclude content result).Asks (·.startsProcess = false) := by
  cases result with
  | error e => exact Job.Asks.andThen (Job.asks_request rfl) fun _ => trivial
  | ok result => exact Job.asks_ofLogged (fun _ => rfl) _

theorem conclude_value (content : String) (result : Except LintError LintResult) :
    ((a.conclude content result).run serve s).1 = a.concluded content result := by
  cases result with
  | error e => rfl
  | ok result => exact Job.run_ofLogged serve _ s

end

/-- Annotating a document follows the table. -/
theorem annotate_decided {σ : Type} (serve : Job.Server σ) (s : σ) (a : Annotator) (path : Path)
    (content : String) :
    Decided serve s a path content ((a.annotate path content).run serve s).1
      ((a.annotate path content).talk serve s) := by
  have gated := gate_value serve s a path content
  have looks := gate_asks a path content
  have still : Job.starts ((a.gate path content).talk serve s) = [] :=
    Job.starts_of_asks (looks.mono fun _ looks => looks.idle.1) serve s
  -- The gate's requests stand in front of all others and start nothing.
  unfold annotate
  rw [Job.bind_eq_andThen, Job.run_andThen, Job.talk_andThen, gated]
  cases first : a.firstReason path content ((a.settings.problems a.root).run serve s).1 with
  | some reason =>
      refine .skipped first fun exchange member => ?_
      rcases List.mem_append.mp member with member | member
      · exact (looks.of_mem_talk serve s member).idle
      · cases List.mem_singleton.mp member
        exact ⟨rfl, rfl⟩
  | none =>
      cases placed : ((a.place path content).run serve ((a.gate path content).run serve s).2).1 with
      | error e =>
          obtain ⟨value, quiet⟩ := lintText_misplaced placed
          simp only [Job.bind_eq_andThen, Job.run_andThen, Job.talk_andThen, value]
          refine .misplaced first placed ?_
          rw [Job.starts_append, still, Job.starts_append, quiet]
          rfl
      | ok relative =>
          obtain ⟨reply, once, value⟩ := Job.Launches.andThen (lintText_launches placed)
            (f := a.conclude content) (a.concluded content) (conclude_asks content)
            fun result s => conclude_value content result
          have counted := value.trans (judge_resultAt relative reply)
          refine counted ▸ .linted first placed ?_
          rw [Job.starts_append, still, List.nil_append]
          exact once

end Annotator

end LintBridge
