import LintBridge.Proofs.Host.Agreement
import LintBridge.Proofs.Lint.Conduct
import LintBridge.Proofs.Console.ExitCode

/-!
# The command line on another host

Of what the command line does only the linter may change files.  A file that it has just
read is saved with that text, so it is linted without a copy; another host with the same
files and the same linter then hears the same.
-/

set_option autoImplicit false

namespace LintBridge

/-! ## Jobs that leave the files as they are -/

theorem Request.Looks.inspects {r : Request} (looks : r.Looks) : r.Inspects := by
  cases r <;> first | exact trivial | exact looks.elim

namespace Job

theorem readText_inspects (path : Path) : (readText path).Asks Request.Inspects := by
  refine (asks_request (r := .read path) trivial).andThen fun bytes? => ?_
  cases bytes? with
  | error e => trivial
  | ok bytes => cases text : Text.decode? bytes <;> simp only [text] <;> trivial

end Job

namespace LintSettings

theorem ofFile_inspects (path : Path) : (ofFile path).Asks Request.Inspects := by
  refine (Job.readText_inspects path).andThen fun text? => ?_
  cases text? <;> trivial

theorem discover_inspects (root : Path) : (discover root).Asks Request.Inspects := by
  refine Job.Asks.andThen (Job.Asks.andThen (Job.asks_request trivial) fun _ => trivial)
    fun isFile => ?_
  cases isFile with
  | false => exact Job.Asks.andThen (Job.asks_request trivial) fun _ => trivial
  | true =>
      refine Job.Asks.andThen (Job.asks_request trivial) fun _ => ?_
      exact (ofFile_inspects _).andThen fun _ => trivial

theorem problems_inspects (settings : LintSettings) (root : Path) :
    (settings.problems root).Asks Request.Inspects :=
  (settings.problems_asks root).mono fun _ looks => looks.inspects

end LintSettings

theorem SettingsProblem.warnAll_inspects (problems : List SettingsProblem) :
    (warnAll problems).Asks Request.Inspects := by
  induction problems with
  | nil => trivial
  | cons problem rest ih => exact Job.Asks.andThen (Job.asks_request trivial) fun _ => ih

namespace Console

theorem Options.root_inspects (o : Options) : o.root.Asks Request.Inspects := by
  unfold root
  cases o.projectRoot? with
  | some root => trivial
  | none => exact Job.Asks.andThen (Job.asks_request trivial) fun _ => trivial

theorem Options.loadSettings_inspects (o : Options) (root : Path) :
    (o.loadSettings root).Asks Request.Inspects := by
  unfold loadSettings
  cases o.settingsFile? with
  | some file => exact LintSettings.ofFile_inspects _
  | none =>
      refine (LintSettings.discover_inspects root).andThen fun found => ?_
      match found with
      | .error e => trivial
      | .ok (some settings) => trivial
      | .ok none => exact Job.Asks.andThen (Job.asks_request trivial) fun _ => trivial

theorem Options.workplace_inspects (o : Options) : o.workplace.Asks Request.Inspects := by
  refine o.root_inspects.andThen fun root? => ?_
  cases root? with
  | error fatal => trivial
  | ok root =>
      refine (o.loadSettings_inspects root).andThen fun settings? => ?_
      cases settings? <;> trivial

theorem warnAbout_inspects (place : Workplace) : (warnAbout place).Asks Request.Inspects := by
  unfold warnAbout
  split
  · exact (place.settings.problems_inspects place.root).andThen SettingsProblem.warnAll_inspects
  · exact Job.asks_request trivial

theorem tellSkipped_inspects (path : Path) (outcome : LintOutcome) :
    (tellSkipped path outcome).Asks Request.Inspects := by
  unfold tellSkipped
  split
  · trivial
  · exact Job.asks_request trivial
  · trivial

theorem locate_inspects (file : Path) : (locate file).Asks Request.Inspects := by
  unfold locate
  split
  · trivial
  · split
    · trivial
    · exact Job.Asks.andThen (Job.asks_request trivial) fun _ => trivial

theorem runServe_inspects (o : Options) : (runServe o).Asks Request.Inspects := by
  unfold runServe
  split
  · refine o.workplace_inspects.andThen fun place? => ?_
    cases place? with
    | error fatal => trivial
    | ok place => exact Job.Asks.andThen (Job.asks_request trivial) fun _ => trivial
  · exact Job.Asks.andThen (Job.asks_request trivial) fun _ => trivial

end Console

/-! ## Linting a saved file -/

theorem Copy.relativePath_inspects (root : Path) (copy : Copy) :
    (copy.relativePath root).Asks Request.Inspects := by
  unfold relativePath
  split
  · trivial
  · refine Job.Asks.andThen (Job.asks_request trivial) fun root? => ?_
    cases root? with
    | error e => trivial
    | ok root' =>
        refine Job.Asks.andThen (Job.asks_request trivial) fun path? => ?_
        cases path? with
        | error e => trivial
        | ok path' => cases inside : path'.stripPrefix? root' <;> simp only [inside] <;> trivial

namespace Annotator

theorem lintCopy_lints (a : Annotator) (copy : Copy) :
    (a.lintCopy copy).Asks Request.Lints := by
  refine (Copy.relativePath_inspects a.root copy).lints.andThen fun relative? => ?_
  cases relative? with
  | error e => trivial
  | ok relative =>
      refine Job.Asks.andThen ?_ fun _ => trivial
      refine (LintConfiguration.lint_asks _ a.budget).mono fun r runs => ?_
      cases r <;> first | exact trivial | exact runs.elim

theorem conclude_lints (a : Annotator) (content : String) (result : Except LintError LintResult) :
    (a.conclude content result).Asks Request.Lints := by
  cases result with
  | error e => exact Job.Asks.andThen (Job.asks_request trivial) fun _ => trivial
  | ok result => exact Job.asks_ofLogged (fun _ => trivial) _

section

variable {σ τ : Type} {serve : Job.Server σ} {serve' : Job.Server τ} {R : σ → τ → Prop} {s : σ}
  {t : τ} {a : Annotator} {path : Path} {content : String}

theorem materialize_saved (saved : (serve (.read path) s).1 = .ok (Text.encode content)) :
    ((Copy.materialize a.root path content).run serve s).1 = .ok ⟨path, false⟩
      ∧ ∀ exchange ∈ (Copy.materialize a.root path content).talk serve s,
          exchange.request.Inspects := by
  have found : ((Copy.isSaved path (Text.encode content)).run serve s).1 = true := by
    have reply : ((Job.read path).run serve s).1 = .ok (Text.encode content) := saved
    unfold Copy.isSaved
    rw [Job.bind_eq_andThen, Job.run_andThen, reply]
    exact decide_eq_true rfl
  have reads : (Copy.isSaved path (Text.encode content)).Asks Request.Inspects := by
    refine Job.Asks.andThen (Job.asks_request trivial) fun reply => ?_
    cases reply <;> trivial
  unfold Copy.materialize
  rw [Job.bind_eq_andThen, Job.run_andThen, Job.talk_andThen, found]
  refine ⟨rfl, fun exchange member => ?_⟩
  rcases List.mem_append.mp member with first | later
  · exact reads.of_mem_talk serve s first
  · cases List.mem_singleton.mp later
    trivial

/-- A saved file is linted without a change of the files but by the linter. -/
theorem annotate_lints (matching : Job.Matching serve serve' R) (related : R s t)
    (saved : (serve (.read path) s).1 = .ok (Text.encode content)) :
    ∀ exchange ∈ (a.annotate path content).talk serve s, exchange.request.Lints := by
  have gated : (a.gate path content).Asks Request.Inspects :=
    (gate_asks a path content).mono fun _ looks => looks.inspects
  have further := matching.run_left related gated.idles
  -- The file reads as before behind the gate, since the other host has not moved.
  have still : (serve (.read path) ((a.gate path content).run serve s).2).1
      = .ok (Text.encode content) := by
    rw [matching.same (.read path) further trivial, ← matching.same (.read path) related trivial]
    exact saved
  obtain ⟨copied, looked⟩ := materialize_saved (a := a) still
  have linted : ∀ exchange ∈ (a.lintText path content).talk serve
      ((a.gate path content).run serve s).2, exchange.request.Lints := by
    unfold lintText
    rw [Job.bind_eq_andThen, Job.talk_andThen, copied]
    intro exchange member
    rcases List.mem_append.mp member with first | later
    · exact (looked exchange first).lints
    · have rest : Job.Asks Request.Lints ((a.lintCopy ⟨path, false⟩).andThen fun result =>
          (Copy.release ⟨path, false⟩).andThen fun _ => .done result) :=
        (a.lintCopy_lints _).andThen fun _ => trivial
      exact rest.of_mem_talk serve _ later
  unfold annotate
  rw [Job.bind_eq_andThen, Job.talk_andThen]
  intro exchange member
  rcases List.mem_append.mp member with first | later
  · exact (gated.of_mem_talk serve s first).lints
  · cases verdict : ((a.gate path content).run serve s).1 with
    | some reason =>
        rw [verdict] at later
        cases List.mem_singleton.mp later
        trivial
    | none =>
        rw [verdict] at later
        rcases List.mem_append.mp ((Job.talk_andThen serve _ (a.conclude content) _) ▸ later) with
          first | later
        · exact linted exchange first
        · exact (conclude_lints a content _).of_mem_talk serve _ later

end

end Annotator

/-! ## A file on both -/

namespace Console

variable {σ τ : Type} {serve : Job.Server σ} {serve' : Job.Server τ} {R : σ → τ → Prop} {s : σ}
  {t : τ} {a : Annotator} {file : Path} {turn : FileTurn σ}

theorem readText_eq_ok {path : Path} {content : String}
    (read : ((Job.readText path).run serve s).1 = .ok content) :
    (serve (.read path) s).1 = .ok (Text.encode content) := by
  unfold Job.readText at read
  rw [Job.bind_eq_andThen, Job.run_andThen] at read
  have reply : (Job.read path).run serve s = serve (.read path) s := rfl
  rw [reply] at read
  cases held : (serve (.read path) s).1 with
  | error e =>
      rw [held] at read
      cases read
  | ok bytes =>
      rw [held] at read
      cases decoded : Text.decode? bytes with
      | none =>
          simp only [decoded] at read
          cases read
      | some text =>
          simp only [decoded] at read
          cases read
          rw [Text.encode_of_decode? decoded]

theorem turn?_eq_some (found : turn? serve file s = some turn) :
    ∃ begun, (locate file).run serve s = (.ok turn.path, begun)
      ∧ (Job.readText turn.path).run serve begun = (.ok turn.content, turn.host) := by
  unfold turn? at found
  generalize (locate file).run serve s = located at found ⊢
  obtain ⟨path?, begun⟩ := located
  cases path? with
  | error e => cases found
  | ok path =>
      dsimp only at found
      split at found
      next failed => cases found
      next content read =>
        cases found
        exact ⟨begun, rfl, Prod.ext read rfl⟩

theorem turn_saved (matching : Job.Matching serve serve' R) (related : R s t)
    (found : turn? serve file s = some turn) :
    R turn.host t ∧ (serve (.read turn.path) turn.host).1 = .ok (Text.encode turn.content) := by
  obtain ⟨begun, located, read⟩ := turn?_eq_some found
  have first := matching.run_left related (locate_inspects file).idles
  rw [located] at first
  have second := matching.run_left first (Job.readText_inspects turn.path).idles
  rw [read] at second
  have same := (matching.same (.read turn.path) second trivial).trans
    (matching.same (.read turn.path) first trivial).symm
  exact ⟨second, same.trans (readText_eq_ok (congrArg Prod.fst read))⟩

theorem lintFile_host (found : turn? serve file s = some turn) :
    ((lintFile a file).run serve s).2
      = ((tellSkipped turn.path (turn.outcome serve a)).run serve
          ((a.annotate turn.path turn.content).run serve turn.host).2).2 := by
  obtain ⟨begun, located, read⟩ := turn?_eq_some found
  unfold lintFile
  simp only [Job.bind_eq_andThen, Job.run_andThen, located, read, Job.run_pure,
    FileTurn.outcome]

/-- A file is linted on the other host with the same outcome. -/
theorem turn_agrees (matching : Job.Matching serve serve' R) (related : R s t)
    (found : turn? serve file s = some turn) :
    ((a.annotate turn.path turn.content).run serve' t).1 = turn.outcome serve a
      ∧ R ((lintFile a file).run serve s).2
          ((a.annotate turn.path turn.content).run serve' t).2 := by
  obtain ⟨further, saved⟩ := turn_saved matching related found
  obtain ⟨same, after⟩ := matching.run_of_talk further
    (Annotator.annotate_lints matching further saved)
  refine ⟨same.symm, ?_⟩
  rw [lintFile_host found]
  exact matching.run_left after (tellSkipped_inspects turn.path _).idles

end Console

end LintBridge
