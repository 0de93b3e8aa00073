import LintBridge.Proofs.Host.Protocol
import LintBridge.Proofs.Lint.Decision

/-!
# How a document is linted

What annotating asks of the host, as a protocol.  The document is read once.  If it does
not hold the text, one copy is made, filled and, whatever happens then, removed.  The
linter is started on what holds the text, seen from the project root.
-/

set_option autoImplicit false

namespace LintBridge

/-- What has become of the text on disk. -/
inductive Stage where
  | unread
  /-- The document does not hold the text. -/
  | unsaved
  /-- The document holds the text. -/
  | saved
  | created (copy : Path)
  | filled (copy : Path)
  /-- The copy could not be filled. -/
  | spoiled (copy : Path)
  | removed
  deriving DecidableEq, Repr

namespace Stage

/-- The copy that is there. -/
def copy? : Stage → Option Path
  | created copy | filled copy | spoiled copy => some copy
  | unread | unsaved | saved | removed => none

end Stage

/-- What annotating has been told. -/
structure Conduct where
  stage : Stage
  /-- The current directory. -/
  current? : Option Path
  /-- The project root without links and dots. -/
  root? : Option Path
  /-- The file that holds the text, without links and dots. -/
  file? : Option Path
  deriving DecidableEq, Repr

namespace Conduct

def initial : Conduct :=
  ⟨.unread, none, none, none⟩

end Conduct

section

variable (a : Annotator) (path : Path) (content : String)

/-- The file that holds the text. -/
def Conduct.holder? (c : Conduct) : Option Path :=
  match c.stage with
  | .saved => some path
  | .filled copy => some copy
  | _ => none

/-- The target is the file that holds the text, as seen from the root. -/
def Conduct.Aims (c : Conduct) (target : String) : Prop :=
  ∃ file, c.holder? path = some file ∧
    ((∃ rest, file.stripPrefix? a.root = some rest ∧ target = rest.text) ∨
      ∃ root' file' rest, c.root? = some root' ∧ c.file? = some file' ∧
        file'.stripPrefix? root' = some rest ∧ target = rest.text)

/-- Where a copy is made: beside the document. -/
def Conduct.Beside (c : Conduct) (directory : Path) : Prop :=
  let beside := Copy.directoryFor a.root path
  beside.isAbsolute = true ∧ directory = beside ∨
    beside.isAbsolute = false ∧ ∃ current, c.current? = some current ∧
      directory = current.join beside

/-- What annotating may ask. -/
def Conduct.Allows (c : Conduct) : Request → Prop
  | .log _ | .kind _ | .clock => True
  | .read file => c.stage = .unread ∧ file = path
  | .currentDirectory => c.stage = .unsaved
  | .createCopy directory before after =>
      c.stage = .unsaved ∧ path.isCoffeeScript = true ∧ c.Beside a path directory ∧
        before = Copy.nameStart path ∧ after = Copy.nameEnd path
  | .write file bytes => c.stage = .created file ∧ bytes = Text.encode content
  | .remove file => c.stage = .spoiled file ∨ c.stage = .filled file
  | .canonical file =>
      c.root? = none ∧ file = a.root ∧ (c.holder? path).isSome ∨
        c.root?.isSome ∧ c.holder? path = some file
  | .launch command budget =>
      budget = a.budget ∧ ∃ target, command = a.commandFor target ∧ c.Aims a path target

/-- What the document is found to hold. -/
def Stage.ofRead : Except OsError Bytes → Stage
  | .ok bytes => if bytes = Text.encode content then .saved else .unsaved
  | .error _ => .unsaved

def Stage.ofCreated (stage : Stage) : Except (OsError × Path) Path → Stage
  | .ok copy => .created copy
  | .error _ => stage

def Stage.ofWritten (copy : Path) : Except OsError Unit → Stage
  | .ok () => .filled copy
  | .error _ => .spoiled copy

/-- What a reply adds. -/
def Conduct.hear (c : Conduct) : (r : Request) → r.Reply → Conduct
  | .read _, reply => { c with stage := Stage.ofRead content reply }
  | .currentDirectory, reply => { c with current? := Except.toOption reply }
  | .createCopy _ _ _, reply => { c with stage := c.stage.ofCreated reply }
  | .write file _, reply => { c with stage := Stage.ofWritten file reply }
  | .remove _, _ => { c with stage := .removed }
  | .canonical _, reply =>
      match c.root? with
      | none => { c with root? := Except.toOption reply }
      | some _ => { c with file? := Except.toOption reply }
  | .log _, _ | .kind _, _ | .clock, _ | .launch _ _, _ => c

def Annotator.conduct : Protocol Conduct where
  allows c := c.Allows a path content
  after c := c.hear content

end

/-! ## Keeping to it -/

section

variable {a : Annotator} {path : Path} {content : String} {c : Conduct}

theorem keeps_quiet {α : Type} {job : Job α} (asks : job.Asks Request.Looks) :
    job.Keeps (a.conduct path content) (fun c' _ => c' = c) c :=
  asks.keeps fun r looks => by
    cases r <;> first | exact ⟨trivial, fun _ => rfl⟩ | exact looks.elim

namespace Copy

/-- The text is on disk, or no copy is left. -/
def Ready (path : Path) (c : Conduct) : Except LintError Copy → Prop
  | .ok copy =>
      c.stage = (if copy.temporary then .filled copy.path else .saved) ∧
        (copy.temporary = false → copy.path = path) ∧ c.root? = none
  | .error _ => c.stage.copy? = none

theorem isSaved_keeps (unread : c.stage = .unread) :
    (isSaved path (Text.encode content)).Keeps (a.conduct path content)
      (fun c' saved => c' = { c with stage := if saved then .saved else .unsaved }) c := by
  refine ⟨⟨unread, rfl⟩, fun reply => ?_⟩
  cases reply with
  | error e => rfl
  | ok bytes =>
      have stage : Stage.ofRead content (.ok bytes)
          = if decide (bytes = Text.encode content) then .saved else .unsaved := by
        simp [Stage.ofRead]
      exact congrArg (fun stage => { c with stage := stage }) stage

theorem absolute_keeps (unsaved : c.stage = .unsaved) :
    (absolute (directoryFor a.root path)).Keeps (a.conduct path content)
      (fun c' directory? => c'.stage = .unsaved ∧ c'.root? = c.root? ∧
        ∀ directory, directory? = .ok directory → c'.Beside a path directory) c := by
  unfold absolute
  split
  next there =>
    refine ⟨unsaved, rfl, fun directory same => ?_⟩
    cases same
    exact .inl ⟨there, rfl⟩
  next relative =>
    refine ⟨unsaved, fun reply => ?_⟩
    cases reply with
    | error e => exact ⟨unsaved, rfl, fun directory same => nomatch same⟩
    | ok current =>
        refine ⟨unsaved, rfl, fun directory same => ?_⟩
        cases same
        exact .inr ⟨by simpa using relative, current, rfl, rfl⟩

theorem make_keeps (unsaved : c.stage = .unsaved) (fresh : c.root? = none)
    (coffee : path.isCoffeeScript = true) :
    (make a.root path (Text.encode content)).Keeps (a.conduct path content) (Ready path) c := by
  refine (absolute_keeps unsaved).andThen fun c' directory? told => ?_
  obtain ⟨unsaved', sameRoot, beside⟩ := told
  have fresh' : c'.root? = none := sameRoot.trans fresh
  have none_ : c'.stage.copy? = none := by rw [unsaved']; rfl
  cases directory? with
  | error e => exact none_
  | ok directory =>
      refine ⟨⟨unsaved', coffee, beside directory rfl, rfl, rfl⟩, fun made => ?_⟩
      cases made with
      | error refused => exact none_
      | ok copy =>
          refine ⟨⟨rfl, rfl⟩, fun written => ?_⟩
          cases written with
          | error e => exact ⟨.inl rfl, fun _ => rfl⟩
          | ok _ =>
              refine ⟨trivial, fun _ => ⟨rfl, fun other => ?_, fresh'⟩⟩
              cases other

theorem materialize_keeps (coffee : path.isCoffeeScript = true) :
    (materialize a.root path content).Keeps (a.conduct path content) (Ready path) .initial := by
  refine (isSaved_keeps rfl).andThen fun c' saved told => ?_
  subst told
  cases saved with
  | true => exact ⟨trivial, fun _ => ⟨rfl, fun _ => rfl, rfl⟩⟩
  | false => exact make_keeps rfl rfl coffee

theorem holder?_of_ready {copy : Copy} (ready : Ready path c (.ok copy)) :
    c.holder? path = some copy.path := by
  obtain ⟨stage, own, -⟩ := ready
  rw [Conduct.holder?, stage]
  cases temporary : copy.temporary with
  | true => rfl
  | false => simp [own temporary]

theorem relativePath_keeps {copy : Copy} (ready : Ready path c (.ok copy)) :
    (copy.relativePath a.root).Keeps (a.conduct path content)
      (fun c' target? => c'.stage = c.stage ∧
        ∀ target, target? = .ok target → c'.Aims a path target) c := by
  have holder := holder?_of_ready ready
  obtain ⟨-, -, fresh⟩ := ready
  unfold relativePath
  split
  next rest strips =>
    refine ⟨rfl, fun target same => ?_⟩
    cases same
    exact ⟨copy.path, holder, .inl ⟨rest, strips, rfl⟩⟩
  next =>
    refine ⟨.inl ⟨fresh, rfl, by rw [holder]; rfl⟩, fun root? => ?_⟩
    have first (reply : Except OsError Path) :
        c.hear content (.canonical a.root) reply = { c with root? := Except.toOption reply } := by
      simp only [Conduct.hear, fresh]
    rw [show (a.conduct path content).after c (.canonical a.root) root?
      = { c with root? := Except.toOption root? } from first root?]
    cases root? with
    | error e => exact ⟨rfl, fun target same => nomatch same⟩
    | ok root' =>
        refine ⟨.inr ⟨rfl, holder⟩, fun file? => ?_⟩
        cases file? with
        | error e => exact ⟨rfl, fun target same => nomatch same⟩
        | ok file' =>
            simp only [Job.andThen]
            split
            next rest strips =>
              refine ⟨rfl, fun target same => ?_⟩
              cases same
              exact ⟨copy.path, holder, .inr ⟨root', file', rest, rfl, rfl, strips, rfl⟩⟩
            next => exact ⟨rfl, fun target same => nomatch same⟩

end Copy

namespace LintConfiguration

/-- The log is told, and the linter is started on the target. -/
def Runs (command : CommandLine) (budget : Nat) : Request → Prop
  | .log _ => True
  | .launch other budget' => other = command ∧ budget' = budget
  | _ => False

theorem capture_asks (command : CommandLine) (budget : Nat) :
    (command.capture budget).Asks (Runs command budget) := by
  refine Job.Asks.andThen (Job.asks_request trivial) fun _ => ?_
  refine Job.Asks.andThen (Job.asks_request ⟨rfl, rfl⟩) fun launched => ?_
  cases launched with
  | error e => trivial
  | ok observation =>
      cases seen : observation.capture with
      | error e =>
          simp only [seen]
          trivial
      | ok captured =>
          cases late : captured.timedOut with
          | false =>
              simp only [seen, late]
              exact ⟨trivial, fun _ => trivial⟩
          | true =>
              simp only [seen, late]
              exact ⟨trivial, fun _ => ⟨trivial, fun _ => trivial⟩⟩

theorem lint_asks (config : LintConfiguration) (budget : Nat) :
    (config.lint budget).Asks (Runs config.lintCommand budget) := by
  refine Job.Asks.andThen ?_ fun executed => ?_
  · refine Job.Asks.andThen (capture_asks config.lintCommand budget) fun captured? => ?_
    cases captured? with
    | error e => trivial
    | ok captured => cases late : captured.timedOut <;> simp only [late] <;> trivial
  · cases executed with
    | error e => exact Job.Asks.andThen (Job.asks_request trivial) fun _ => trivial
    | ok outcome => exact Job.asks_ofLogged (fun _ => trivial) _

end LintConfiguration

namespace Annotator

theorem lintCopy_keeps {copy : Copy} (ready : Copy.Ready path c (.ok copy)) :
    (a.lintCopy copy).Keeps (a.conduct path content) (fun c' _ => c'.stage = c.stage) c := by
  refine (Copy.relativePath_keeps ready).andThen fun c' target? told => ?_
  obtain ⟨stage, aims⟩ := told
  cases target? with
  | error e => exact stage
  | ok target =>
      have asks := LintConfiguration.lint_asks (a.settings.configuration a.root target) a.budget
      have quiet : Job.Keeps (a.conduct path content) (fun c'' _ => c'' = c')
          ((a.settings.configuration a.root target).lint a.budget) c' :=
        asks.keeps fun r runs => by
          cases r with
          | log entry => exact ⟨trivial, fun _ => rfl⟩
          | launch command budget =>
              obtain ⟨rfl, rfl⟩ := runs
              exact ⟨⟨rfl, target, rfl, aims target rfl⟩, fun _ => rfl⟩
          | _ => exact runs.elim
      refine quiet.andThen fun c'' result same => ?_
      subst same
      exact stage

theorem release_keeps {copy : Copy} (ready : Copy.Ready path c (.ok copy)) {c' : Conduct}
    (stage : c'.stage = c.stage) :
    copy.release.Keeps (a.conduct path content) (fun c'' _ => c''.stage.copy? = none) c' := by
  have holds : c'.stage = if copy.temporary then .filled copy.path else .saved :=
    stage.trans ready.1
  unfold Copy.release
  cases temporary : copy.temporary with
  | true =>
      rw [temporary] at holds
      exact ⟨.inr holds, fun _ => rfl⟩
  | false =>
      rw [temporary] at holds
      show c'.stage.copy? = none
      rw [holds]
      rfl

theorem lintText_keeps (coffee : path.isCoffeeScript = true) :
    (a.lintText path content).Keeps (a.conduct path content)
      (fun c' _ => c'.stage.copy? = none) .initial := by
  refine (Copy.materialize_keeps coffee).andThen fun c copy? ready => ?_
  cases copy? with
  | error e => exact ready
  | ok copy =>
      refine (lintCopy_keeps ready).andThen fun c' result stage => ?_
      refine (release_keeps ready stage).andThen fun c'' _ gone => ?_
      exact gone

theorem annotate_keeps (a : Annotator) (path : Path) (content : String) :
    (a.annotate path content).Keeps (a.conduct path content)
      (fun c _ => c.stage.copy? = none) .initial := by
  by_cases coffee : path.isCoffeeScript = true
  · have quiet : Job.Keeps (a.conduct path content) (fun c _ => c = .initial)
        (a.gate path content) .initial := keeps_quiet (a.gate_asks path content)
    refine quiet.andThen fun c reason? same => ?_
    subst same
    cases reason? with
    | some reason => exact ⟨trivial, fun _ => rfl⟩
    | none =>
        refine (lintText_keeps coffee).andThen fun c result gone => ?_
        cases result with
        | error e => exact ⟨trivial, fun _ => gone⟩
        | ok result =>
            have told : Job.Keeps (a.conduct path content) (fun c' _ => c' = c)
                (Job.ofLogged (a.judge content result)) c :=
              keeps_quiet (Job.asks_ofLogged (fun _ => trivial) _)
            refine told.mono fun c' _ same => ?_
            rw [same]
            exact gone
  · have skips : a.gate path content = Job.done (some .notCoffeeScript) := by
      unfold gate
      rw [if_pos (by simpa using coffee)]
      rfl
    unfold annotate
    rw [skips]
    exact ⟨trivial, fun _ => rfl⟩

end Annotator

end

end LintBridge
