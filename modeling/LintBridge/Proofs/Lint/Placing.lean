import LintBridge.Proofs.Host.Files
import LintBridge.Proofs.Lint.Buffers
import LintBridge.Proofs.Lint.Decision
import LintBridge.Proofs.Machine.Inside

/-!
# Files outside of the project

A file that is not inside the project root is not linted: the linter is not started, and the
outcome tells why.  Where the path of the file begins with the root, only the texts are
looked at.  So this holds as long as such a path does not stray behind the root, by a step
up or through a link.
-/

set_option autoImplicit false

namespace LintBridge

/-- The path leads to the place, and has a canonical form. -/
structure FileTree.Resolves (tree : FileTree) (current : Location) (path : Path)
    (place : Location) : Prop where
  there : ∃ node, tree.node current path = .ok (place, node)
  canonical : tree.canonical current path = .ok (pathOf place)

theorem FileTree.Resolves.names {tree : FileTree} {current : Location} {path : Path}
    {place : Location} (resolves : tree.Resolves current path place)
    (named : ∀ name ∈ current, Path.isIdle name = false) :
    ∀ name ∈ place, Path.isIdle name = false := by
  obtain ⟨node, there⟩ := resolves.there
  obtain ⟨-, _, -, leads⟩ := locate_eq_ok_iff.1 (node_eq_ok_iff.1 there)
  refine leads.names ?_
  unfold linkStart
  split
  · simp
  · exact named

namespace Machine

variable {launch : Launcher} {m : Machine}

theorem run_current {α : Type} (job : Job α) :
    (job.run (serveWith launch) m).2.current = m.current := by
  induction job generalizing m with
  | done a => rfl
  | ask r next ih => exact (ih _).trans ((host launch).stays r m)

end Machine

namespace Copy

variable {launch : Machine.Launcher} {m : Machine} {copy : Copy} {root : Path}
  {directory place : Location}

def outsideText (root : Path) (copy : Copy) : String :=
  copy.path.text ++ " is not inside the project root " ++ root.text

theorem relativePath_run {root' path' : Path}
    (rootThere : m.tree.canonical m.current root = .ok root')
    (placed : m.tree.canonical m.current copy.path = .ok path') :
    ((copy.relativePath root).run (Machine.serveWith launch) m).1 =
      match (copy.path.stripPrefix? root).or (path'.stripPrefix? root') with
      | some relative => .ok relative.text
      | none => .error (.internal (outsideText root copy)) := by
  have first : (Job.canonical root).run (Machine.serveWith launch) m = (.ok root', m) :=
    congrArg (·, m) rootThere
  have second : (Job.canonical copy.path).run (Machine.serveWith launch) m = (.ok path', m) :=
    congrArg (·, m) placed
  unfold relativePath
  cases copy.path.stripPrefix? root with
  | some relative => rfl
  | none =>
      rw [Job.bind_eq_andThen, Job.run_andThen, first]
      dsimp only
      rw [Job.bind_eq_andThen, Job.run_andThen, second]
      dsimp only
      cases path'.stripPrefix? root' <;> rfl

theorem relativePath_of_inside (named : ∀ name ∈ m.current, Path.isIdle name = false)
    (rootThere : m.tree.Resolves m.current root directory)
    (placed : m.tree.Resolves m.current copy.path place) (inside : directory <+: place) :
    ∃ relative, ((copy.relativePath root).run (Machine.serveWith launch) m).1 = .ok relative := by
  rw [relativePath_run rootThere.canonical placed.canonical]
  have found := (FileTree.isSome_stripPrefix?_pathOf (rootThere.names named)
    (placed.names named)).2 inside
  obtain ⟨relative, behind⟩ := Option.isSome_iff_exists.1 found
  cases copy.path.stripPrefix? root with
  | some early => exact ⟨_, rfl⟩
  | none => exact ⟨relative.text, by simp [behind]⟩

/-- A path that leads out of the root is refused, unless it strays. -/
theorem relativePath_of_outside (named : ∀ name ∈ m.current, Path.isIdle name = false)
    (proper : root.pieces ≠ []) (rootThere : m.tree.Resolves m.current root directory)
    (placed : m.tree.Resolves m.current copy.path place)
    (plain : ∀ rest, copy.path.stripPrefix? root = some rest → ¬ m.tree.Strays directory rest)
    (outside : ¬ directory <+: place) :
    ((copy.relativePath root).run (Machine.serveWith launch) m).1
      = .error (.internal (outsideText root copy)) := by
  rw [relativePath_run rootThere.canonical placed.canonical]
  have apart : (FileTree.pathOf place).stripPrefix? (FileTree.pathOf directory) = none := by
    rw [← Option.not_isSome_iff_eq_none,
      FileTree.isSome_stripPrefix?_pathOf (rootThere.names named) (placed.names named)]
    exact outside
  have unlike : copy.path.stripPrefix? root = none := by
    cases strips : copy.path.stripPrefix? root with
    | none => rfl
    | some rest =>
        obtain ⟨_, there⟩ := rootThere.there
        obtain ⟨_, found⟩ := placed.there
        exact absurd (FileTree.inside_of_strip there found proper strips (plain rest strips)) outside
  rw [unlike, apart]
  rfl

end Copy

namespace Annotator

variable {launch : Machine.Launcher} {m m' : Machine} {a : Annotator} {path : Path}
  {content : String} {copy : Copy} {directory place : Location}

theorem place_run {σ : Type} {serve : Job.Server σ} {s s' : σ}
    (made : (Copy.materialize a.root path content).run serve s = (.ok copy, s')) :
    ((a.place path content).run serve s).1 = ((copy.relativePath a.root).run serve s').1 := by
  unfold Annotator.place
  rw [Job.bind_eq_andThen, Job.run_andThen, made]

theorem annotate_of_placed {σ : Type} {serve : Job.Server σ} {s : σ} {relative : String}
    (passes : a.firstReason path content ((a.settings.problems a.root).run serve s).1 = none)
    (placed : ((a.place path content).run serve ((a.gate path content).run serve s).2).1
      = .ok relative) :
    ∃ reply, Job.starts ((a.annotate path content).talk serve s)
      = [⟨.launch (a.commandFor relative) a.budget, reply⟩] := by
  have decided := annotate_decided serve s a path content
  generalize ((a.annotate path content).run serve s).1 = outcome at decided
  generalize (a.annotate path content).talk serve s = talk at decided ⊢
  cases decided with
  | skipped first => cases passes.symm.trans first
  | misplaced _ failed => cases placed.symm.trans failed
  | @linted other reply _ _ placed' once =>
      cases placed.symm.trans placed'
      exact ⟨reply, once⟩

theorem annotate_of_misplaced {σ : Type} {serve : Job.Server σ} {s : σ} {error : LintError}
    (passes : a.firstReason path content ((a.settings.problems a.root).run serve s).1 = none)
    (failed : ((a.place path content).run serve ((a.gate path content).run serve s).2).1
      = .error error) :
    Job.starts ((a.annotate path content).talk serve s) = [] ∧
      ((a.annotate path content).run serve s).1
        = .failed ("Error running CoffeeLint inspection: " ++ error.message) := by
  have decided := annotate_decided serve s a path content
  generalize ((a.annotate path content).run serve s).1 = outcome at decided ⊢
  generalize (a.annotate path content).talk serve s = talk at decided ⊢
  cases decided with
  | skipped first => cases passes.symm.trans first
  | misplaced _ failed' idle =>
      cases failed.symm.trans failed'
      exact ⟨idle, rfl⟩
  | linted _ placed => cases failed.symm.trans placed

/-- The linter is started for a text whose file is inside the project root.  For one whose
file is outside it is not, unless the path strays behind the root, and the outcome names the
file and the root. -/
theorem annotate_stays_inside (named : ∀ name ∈ m.current, Path.isIdle name = false)
    (proper : a.root.pieces ≠ [])
    (passes : a.firstReason path content
      ((a.settings.problems a.root).run (Machine.serveWith launch) m).1 = none)
    (made : (Copy.materialize a.root path content).run (Machine.serveWith launch)
      ((a.gate path content).run (Machine.serveWith launch) m).2 = (.ok copy, m'))
    (rootThere : m'.tree.Resolves m'.current a.root directory)
    (placed : m'.tree.Resolves m'.current copy.path place) :
    let found := ((copy.relativePath a.root).run (Machine.serveWith launch) m').1
    let outcome := ((a.annotate path content).run (Machine.serveWith launch) m).1
    let starts := Job.starts ((a.annotate path content).talk (Machine.serveWith launch) m)
    (directory <+: place → ∃ relative reply, found = .ok relative ∧
        starts = [⟨.launch (a.commandFor relative) a.budget, reply⟩]) ∧
      (¬ directory <+: place →
        (∀ rest, copy.path.stripPrefix? a.root = some rest → ¬ m'.tree.Strays directory rest) →
        found = .error (.internal (Copy.outsideText a.root copy)) ∧ starts = [] ∧
        outcome = .failed ("Error running CoffeeLint inspection: " ++ ("Internal error: "
          ++ (copy.path.text ++ " is not inside the project root " ++ a.root.text)))) := by
  intro found outcome starts
  have stays : m'.current = m.current := by
    have same := congrArg (fun result => result.2.current) made
    rw [Machine.run_current, Machine.run_current] at same
    exact same.symm
  rw [← stays] at named
  have reached := place_run made
  constructor
  · intro inside
    have seen : ∃ relative, found = .ok relative :=
      Copy.relativePath_of_inside named rootThere placed inside
    obtain ⟨relative, seen⟩ := seen
    obtain ⟨reply, once⟩ := annotate_of_placed passes (reached.trans seen)
    exact ⟨relative, reply, seen, once⟩
  · intro outside plain
    have refused : found = .error (.internal (Copy.outsideText a.root copy)) :=
      Copy.relativePath_of_outside named proper rootThere placed plain outside
    exact ⟨refused, annotate_of_misplaced passes (reached.trans refused)⟩

/-- A project with a linter, and a file in a directory beside it. -/
def besideMachine : Machine :=
  { tree := ⟨[(["p"], .directory), (["p", "lint"], .file [] true), (["q"], .directory),
      (["q", "a.coffee"], .file [120] false)]⟩
    current := [], clock := 0, copies := 0, entries := [] }

/-- The project of the machine. -/
def besideProject : Annotator :=
  Annotator.new (.ofText "/p") ⟨true, "lint", "", "", "", false⟩

/-- The file beside the project is refused under its own path. -/
theorem beside_refused :
    let talk := (besideProject.annotate (.ofText "/q/a.coffee") "x").talk
      (Machine.serveWith Buffer.idleLinter) besideMachine
    let outcome := ((besideProject.annotate (.ofText "/q/a.coffee") "x").run
      (Machine.serveWith Buffer.idleLinter) besideMachine).1
    Job.starts talk = [] ∧ outcome = .failed ("Error running CoffeeLint inspection: Internal "
      ++ "error: /q/a.coffee is not inside the project root /p") := by
  intro talk outcome
  let path : Path := .ofText "/q/a.coffee"
  let made := (Copy.materialize besideProject.root path "x").run
    (Machine.serveWith Buffer.idleLinter)
    ((besideProject.gate path "x").run (Machine.serveWith Buffer.idleLinter) besideMachine).2
  have saved : made = (.ok ⟨path, false⟩, made.2) := Prod.ext (by decide +kernel) rfl
  have rootThere : made.2.tree.Resolves made.2.current besideProject.root ["p"] :=
    ⟨⟨.directory, by decide +kernel⟩, by decide +kernel⟩
  have placed : made.2.tree.Resolves made.2.current path ["q", "a.coffee"] :=
    ⟨⟨.file [120] false, by decide +kernel⟩, by decide +kernel⟩
  have unlike : path.stripPrefix? besideProject.root = none := by decide +kernel
  obtain ⟨-, refused⟩ := annotate_stays_inside (by decide) (by decide +kernel)
    (by decide +kernel) saved rootThere placed
  obtain ⟨-, idle, failed⟩ :=
    refused (by decide) fun rest strips => nomatch unlike.symm.trans strips
  exact ⟨idle, failed.trans (by decide +kernel)⟩

/-- With a step up behind the root it is linted. -/
theorem beside_linted :
    let talk := (besideProject.annotate (.ofText "/p/../q/a.coffee") "x").talk
      (Machine.serveWith Buffer.idleLinter) besideMachine
    let outcome := ((besideProject.annotate (.ofText "/p/../q/a.coffee") "x").run
      (Machine.serveWith Buffer.idleLinter) besideMachine).1
    besideMachine.tree.Resolves besideMachine.current besideProject.root ["p"] ∧
      besideMachine.tree.Resolves besideMachine.current (.ofText "/p/../q/a.coffee")
        ["q", "a.coffee"] ∧
      ¬ ["p"] <+: ["q", "a.coffee"] ∧
      (Job.starts talk).map (·.request)
        = [.launch (besideProject.commandFor "../q/a.coffee") besideProject.budget] ∧
      outcome = .annotated [] := by
  intro talk outcome
  exact ⟨⟨⟨.directory, by decide +kernel⟩, by decide +kernel⟩,
    ⟨⟨.file [120] false, by decide +kernel⟩, by decide +kernel⟩,
    by decide, by decide +kernel, by decide +kernel⟩

end Annotator

end LintBridge
