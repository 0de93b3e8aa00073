import Mathlib.Data.List.Induction
import LintBridge.Machine.Server
import LintBridge.Proofs.Editor.Turns

/-!
# When settings are read anew

The settings of a workspace come from three places.  What the editor offers goes before
what was given to the server, and that goes before what stands in the project.  The project
is looked at when the editor names it, and when the editor tells of a change of a settings
file.  In between, whatever happens to the file, the linter goes by what was found last.

In the course of a session messages come, time passes, and the host changes in between.  What
the session is called to on the way are its moments.  All else leaves its workspace and its
documents as they are, so what the calls preserve holds after every course
(`Scene.holds_after`).
-/

set_option autoImplicit false

/-! ## The course of a session -/

namespace LintBridge.Editor

variable {σ : Type}

/-- What may happen to a session on its host. -/
inductive Happening (σ : Type) where
  /-- A value comes over the wire. -/
  | told (incoming : Incoming)
  /-- Some milliseconds pass. -/
  | waited (time : Nat)
  /-- Something else changes the host. -/
  | changed (change : σ → σ)

/-- A session on its host, between two turns. -/
structure Scene (σ : Type) where
  session : Session
  host : σ

/-- A call, and the host that it finds. -/
structure Moment (σ : Type) where
  call : Call
  host : σ

/-- The workspace after a moment. -/
def Moment.workspace (serve : Job.Server σ) (m : Moment σ) (w : Workspace) : Workspace :=
  ((w.serve m.call).run serve m.host).1

namespace Scene

/-- A session that begins on a host, perhaps with settings. -/
def start (given? : Option LintSettings) (host : σ) : Scene σ :=
  ⟨.start given?, host⟩

def next (serve : Job.Server σ) (scene : Scene σ) : Happening σ → Scene σ
  | .told incoming =>
      let done := (scene.session.receiveAny incoming).run serve scene.host
      ⟨done.1.session, done.2⟩
  | .waited time =>
      let done := (scene.session.wait time).run serve scene.host
      ⟨done.1.1, done.2⟩
  | .changed change => { scene with host := change scene.host }

def after (serve : Job.Server σ) (scene : Scene σ) (course : List (Happening σ)) : Scene σ :=
  course.foldl (next serve) scene

/-- What the session says to the host meanwhile. -/
def talk (serve : Job.Server σ) (scene : Scene σ) : Happening σ → List Exchange
  | .told incoming => (scene.session.receiveAny incoming).talk serve scene.host
  | .waited time => (scene.session.wait time).talk serve scene.host
  | .changed _ => []

/-- What the session is called to. -/
def moment? (scene : Scene σ) : Happening σ → Option (Moment σ)
  | .told incoming => (scene.session.call? incoming).map fun call => ⟨call, scene.host⟩
  | .waited _ | .changed _ => none

def moments (serve : Job.Server σ) : Scene σ → List (Happening σ) → List (Moment σ)
  | _, [] => []
  | scene, happening :: rest =>
      (scene.moment? happening).toList ++ (scene.next serve happening).moments serve rest

variable (serve : Job.Server σ) (scene : Scene σ)

theorem after_concat (course : List (Happening σ)) (happening : Happening σ) :
    scene.after serve (course ++ [happening]) = (scene.after serve course).next serve happening :=
  List.foldl_append ..

theorem moments_concat (course : List (Happening σ)) (happening : Happening σ) :
    scene.moments serve (course ++ [happening])
      = scene.moments serve course
        ++ ((scene.after serve course).moment? happening).toList := by
  induction course generalizing scene with
  | nil => exact List.append_nil _
  | cons first rest ih =>
      rw [List.cons_append, moments, moments, ih, List.append_assoc]
      rfl

/-! ## One happening -/

variable {serve scene} {happening : Happening σ}

theorem next_of_moment {moment : Moment σ} (called : scene.moment? happening = some moment) :
    scene.session.phase = moment.call.phase ∧
      scene.session.Serves moment.call (moment.workspace serve scene.session.workspace)
        (scene.next serve happening).session := by
  cases happening with
  | waited time => cases called
  | changed change => cases called
  | told incoming =>
      obtain ⟨call, found, rfl⟩ := Option.map_eq_some_iff.mp called
      obtain ⟨ready, response?, -, same⟩ := Session.receiveAny_of_some found
      refine ⟨ready, ?_⟩
      simp only [next, same, Job.run_andThen]
      exact Session.perform_serves serve scene.host ready

theorem next_of_none (uncalled : scene.moment? happening = none) :
    scene.session.Rests (scene.next serve happening).session := by
  cases happening with
  | told incoming =>
      have idle := Option.map_eq_none_iff.mp uncalled
      exact (Session.receiveAny_of_none idle).value serve scene.host
  | waited time => exact (scene.session.wait_ends time).value serve scene.host
  | changed change => exact .refl scene.session

/-! ## A whole course -/

/-- What holds at first, and what calls and all else preserve, holds after every course. -/
theorem holds_after {Holds : List (Moment σ) → Session → Prop} (first : Holds [] scene.session)
    (call : ∀ moments m s t, Holds moments s → s.phase = m.call.phase →
      s.Serves m.call (m.workspace serve s.workspace) t → Holds (moments ++ [m]) t)
    (rest : ∀ moments s t, Holds moments s → s.Rests t → Holds moments t)
    (course : List (Happening σ)) :
    Holds (scene.moments serve course) (scene.after serve course).session := by
  induction course using List.reverseRecOn with
  | nil => exact first
  | append_singleton course happening ih =>
      rw [after_concat, moments_concat]
      cases called : (scene.after serve course).moment? happening with
      | none =>
          rw [Option.toList_none, List.append_nil]
          exact rest _ _ _ ih (next_of_none called)
      | some moment =>
          obtain ⟨phase, serves⟩ := next_of_moment called
          exact call _ moment _ _ ih phase serves

end Scene

end LintBridge.Editor

/-! ## Settings -/

namespace LintBridge

/-- The settings that a project has at a time, or what holds without. -/
def LintSettings.found {σ : Type} (serve : Job.Server σ) (host : σ) (root : Path) :
    LintSettings :=
  match ((LintSettings.discover root).run serve host).1 with
  | .ok (some settings) => settings
  | .ok none | .error _ => .initial

namespace Editor

/-- What an offer of settings comes to. -/
def offered? : Option Json → Option LintSettings
  | none | some .null => none
  | some offer => (LintSettings.ofValue offer).toOption

namespace Call

def introduction? : Call → Option Introduction
  | .enter introduction => some introduction
  | .note _ | .noteFiles _ => none

def event? : Call → Option DocumentEvent
  | .note event => some event
  | .enter _ | .noteFiles _ => none

def changes? : Call → Option (List FileChange)
  | .noteFiles changes => some changes
  | .enter _ | .note _ => none

/-- The settings are to be read anew. -/
def reloads : Call → Bool
  | .enter introduction => introduction.project?.isSome
  | .note _ => false
  | .noteFiles changes => changes.any (·.writtenPath.isSettings)

/-- What the log is told before settings are read anew. -/
def opening : Call → List LogEntry
  | .enter introduction =>
      ⟨.info, "CoffeeLint LSP server initializing..."⟩ ::
        match introduction.offer? with
        | none | some .null => []
        | some offer =>
            match LintSettings.ofValue offer with
            | .ok _ => []
            | .error e => [⟨.error, "Ignoring initialization options: " ++ e.message⟩]
  | .note _ => []
  | .noteFiles changes =>
      [⟨.debug, "Watched files changed: " ++ Session.changesText changes⟩,
        ⟨.info, "Settings file changed, reloading..."⟩]

end Call

variable {σ : Type} {serve : Job.Server σ}

/-- What the project has when the call comes to its settings. -/
def Moment.found (serve : Job.Server σ) (m : Moment σ) (root : Path) : LintSettings :=
  LintSettings.found serve ((Job.tell m.call.opening).run serve m.host).2 root

/-! ## One reload -/

namespace Workspace

/-- With the settings that go first, or else those that are found. -/
def reloaded (w : Workspace) (found : Path → LintSettings) : Workspace :=
  match w.root? with
  | none => w
  | some root => { w with annotator? := some (.new root (w.given?.getD (found root))) }

@[simp] theorem reloaded_root? (w : Workspace) (found : Path → LintSettings) :
    (w.reloaded found).root? = w.root? := by
  unfold reloaded
  split <;> rfl

@[simp] theorem reloaded_given? (w : Workspace) (found : Path → LintSettings) :
    (w.reloaded found).given? = w.given? := by
  unfold reloaded
  split <;> rfl

theorem reloaded_annotator? {w : Workspace} (absent : w.root? = none → w.annotator? = none)
    (found : Path → LintSettings) :
    (w.reloaded found).annotator?
      = w.root?.map fun root => .new root (w.given?.getD (found root)) := by
  unfold reloaded
  cases known : w.root? with
  | none => exact absent known
  | some root => rfl

theorem reload_value (w : Workspace) (host : σ) :
    (w.reload.run serve host).1 = w.reloaded (LintSettings.found serve host) := by
  unfold reload reloaded
  cases w.root? with
  | none => rfl
  | some root =>
      have settled : ((w.settingsFor root).run serve host).1
          = w.given?.getD (LintSettings.found serve host root) := by
        unfold settingsFor
        cases w.given? with
        | some settings => rfl
        | none =>
            simp only [projectSettings, Job.bind_eq_andThen, Job.run_andThen, Option.getD_none,
              LintSettings.found]
            cases ((LintSettings.discover root).run serve host).1 with
            | error e => rfl
            | ok settings? => cases settings? <;> rfl
      simp only [Job.bind_eq_andThen, Job.run_andThen, settled]
      split
      · simp only [Job.run_andThen]
        rfl
      · rfl

/-- The log is told of an offer that is refused, and the workspace takes one that is not. -/
theorem take_eq (w : Workspace) (introduction : Introduction) :
    ((Job.log .info "CoffeeLint LSP server initializing...").andThen fun _ =>
        w.take introduction.offer?)
      = (Job.tell (Call.enter introduction).opening).andThen fun _ =>
          .done { w with given? := (offered? introduction.offer?).or w.given? } := by
  simp only [take, Call.opening, offered?]
  cases introduction.offer? with
  | none => rfl
  | some offer =>
      cases offer with
      | null => rfl
      | _ =>
          dsimp only
          split
          next read => simp only [read]; rfl
          next read => simp only [read]; rfl

end Workspace

/-- What the editor tells of itself goes before what is known; an offer that is refused
changes nothing. -/
def Workspace.told (w : Workspace) : Call → Workspace
  | .enter introduction =>
      { w with
        root? := introduction.project?.or w.root?
        given? := (offered? introduction.offer?).or w.given? }
  | .note _ | .noteFiles _ => w

theorem Moment.workspace_eq (m : Moment σ) (w : Workspace) :
    m.workspace serve w =
      if m.call.reloads then (w.told m.call).reloaded (m.found serve) else w.told m.call := by
  obtain ⟨call, host⟩ := m
  cases call with
  | note event => rfl
  | enter introduction =>
      simp only [workspace, Workspace.serve, Workspace.enter, Job.bind_eq_andThen,
        Workspace.told]
      rw [← Job.andThen_assoc, Workspace.take_eq, Job.andThen_assoc, Job.run_andThen]
      split
      next unnamed =>
        have rests : (Call.enter introduction).reloads = false := by simp [Call.reloads, unnamed]
        simp only [rests, unnamed]
        rfl
      next root named =>
        have reloads : (Call.enter introduction).reloads = true := by simp [Call.reloads, named]
        simp only [reloads, named, if_true]
        exact Workspace.reload_value
          ⟨some root, (offered? introduction.offer?).or w.given?, w.annotator?⟩ _
  | noteFiles changes =>
      have same : (Call.noteFiles changes).reloads = changes.any (·.writtenPath.isSettings) := rfl
      simp only [workspace, Workspace.serve, Workspace.told, same]
      split
      · exact w.reload_value _
      · rfl

/-! ## All reloads -/

/-- The introductions that were accepted. -/
def introductions (moments : List (Moment σ)) : List Introduction :=
  moments.filterMap (·.call.introduction?)

/-- The last moment at which settings were read anew. -/
def lastReload? (moments : List (Moment σ)) : Option (Moment σ) :=
  (moments.filter (·.call.reloads)).getLast?

/-- The workspace is what the moments tell: the project of the introduction, the settings
that it offers or else those given at the start, and an annotator for the project that goes
by them or else by what was found at the last reload. -/
structure Workspace.FitsMoments (serve : Job.Server σ) (given? : Option LintSettings)
    (moments : List (Moment σ)) (w : Workspace) : Prop where
  root : w.root? = (introductions moments).head?.bind (·.project?)
  given : w.given? = ((introductions moments).head?.bind (offered? ·.offer?)).or given?
  absent : w.root? = none → w.annotator? = none
  present : ∀ root, w.root? = some root → ∃ m, lastReload? moments = some m ∧
    w.annotator? = some (.new root (w.given?.getD (m.found serve root)))

/-- Before the editor has introduced itself, nothing is served, and it does so once. -/
structure Settled (serve : Job.Server σ) (given? : Option LintSettings)
    (moments : List (Moment σ)) (s : Session) : Prop where
  fresh : s.phase = .waiting → moments = []
  once : (introductions moments).length ≤ 1
  fits : s.workspace.FitsMoments serve given? moments

theorem lastReload?_concat (moments : List (Moment σ)) (m : Moment σ) :
    lastReload? (moments ++ [m]) = if m.call.reloads then some m else lastReload? moments := by
  cases reloads : m.call.reloads <;> simp [lastReload?, List.filter_append, reloads]

section

variable {given? : Option LintSettings} {moments : List (Moment σ)} {s t : Session}

theorem fits_reloaded {w : Workspace} {m : Moment σ}
    (root : w.root? = (introductions moments).head?.bind (·.project?))
    (given : w.given? = ((introductions moments).head?.bind (offered? ·.offer?)).or given?)
    (absent : w.root? = none → w.annotator? = none) (last : lastReload? moments = some m) :
    (w.reloaded (m.found serve)).FitsMoments serve given? moments := by
  constructor
  · rw [Workspace.reloaded_root?]
    exact root
  · rw [Workspace.reloaded_given?]
    exact given
  · intro unknown
    rw [Workspace.reloaded_root?] at unknown
    rw [Workspace.reloaded_annotator? absent, unknown, Option.map_none]
  · intro path known
    rw [Workspace.reloaded_root?] at known
    refine ⟨m, last, ?_⟩
    rw [Workspace.reloaded_annotator? absent, known, Option.map_some, Workspace.reloaded_given?]

theorem Settled.enter {introduction : Introduction} {host : σ}
    (settled : Settled serve given? moments s) (waiting : s.phase = .waiting)
    (serves : s.Serves (.enter introduction)
      ((⟨.enter introduction, host⟩ : Moment σ).workspace serve s.workspace) t) :
    Settled serve given? (moments ++ [⟨.enter introduction, host⟩]) t := by
  have nothing := settled.fresh waiting
  subst nothing
  have root : s.workspace.root? = none := settled.fits.root
  have given : s.workspace.given? = given? := settled.fits.given
  have absent := settled.fits.absent root
  have told := serves.workspace
  rw [Moment.workspace_eq] at told
  refine ⟨fun waits => ?_, Nat.le_refl 1, ?_⟩
  · rw [serves.phase] at waits
    cases waits
  · cases named : introduction.project? with
    | none =>
        have rests : (Call.enter introduction).reloads = false := by simp [Call.reloads, named]
        simp only [rests] at told
        rw [told]
        refine ⟨?_, ?_, fun _ => absent, ?_⟩
        · simp [Workspace.told, introductions, Call.introduction?, named, root]
        · simp [Workspace.told, introductions, Call.introduction?, given]
        · intro path known
          simp [Workspace.told, named, root] at known
    | some path =>
        have reloads : (Call.enter introduction).reloads = true := by simp [Call.reloads, named]
        simp only [reloads, if_true] at told
        rw [told]
        refine fits_reloaded ?_ ?_ (fun _ => absent) ?_
        · simp [Workspace.told, introductions, Call.introduction?, named]
        · simp [Workspace.told, introductions, Call.introduction?, given]
        · simp [lastReload?, reloads]

theorem Settled.other {m : Moment σ} (settled : Settled serve given? moments s)
    (known : m.call.introduction? = none)
    (serves : s.Serves m.call (m.workspace serve s.workspace) t) :
    Settled serve given? (moments ++ [m]) t := by
  have same : introductions (moments ++ [m]) = introductions moments := by
    simp [introductions, known]
  have told : s.workspace.told m.call = s.workspace := by
    cases called : m.call <;> simp_all [Call.introduction?, Workspace.told]
  have fits := settled.fits
  have workspace := serves.workspace
  rw [Moment.workspace_eq, told] at workspace
  refine ⟨fun waits => ?_, by rw [same]; exact settled.once, ?_⟩
  · rw [serves.phase] at waits
    cases waits
  · cases reloads : m.call.reloads with
    | false =>
        simp only [reloads] at workspace
        rw [workspace]
        refine ⟨by rw [same]; exact fits.root, by rw [same]; exact fits.given, fits.absent, ?_⟩
        intro root known
        rw [lastReload?_concat, reloads]
        exact fits.present root known
    | true =>
        simp only [reloads, if_true] at workspace
        rw [workspace]
        refine fits_reloaded ?_ ?_ fits.absent ?_
        · rw [same]
          exact fits.root
        · rw [same]
          exact fits.given
        · rw [lastReload?_concat, reloads, if_pos rfl]

end

theorem Settled.after (serve : Job.Server σ) (given? : Option LintSettings) (host : σ)
    (course : List (Happening σ)) :
    let scene := Scene.start given? host
    Settled serve given? (scene.moments serve course) (scene.after serve course).session := by
  intro scene
  refine Scene.holds_after ?_ ?_ ?_ course
  · exact ⟨fun _ => rfl, Nat.zero_le 1, rfl, rfl, fun _ => rfl, fun root known => nomatch known⟩
  · intro moments m s t settled phase serves
    obtain ⟨call, host⟩ := m
    cases call with
    | enter introduction => exact settled.enter phase serves
    | note event => exact settled.other rfl serves
    | noteFiles changes => exact settled.other rfl serves
  · intro moments s t settled rests
    have fits := settled.fits
    rw [← rests.workspace] at fits
    exact ⟨fun waits => settled.fresh (rests.waiting waits), settled.once, fits⟩

/-- The annotator after a happening: one by the settings that are there now if these are
read anew, and otherwise the same as before. -/
def Workspace.Renews (serve : Job.Server σ) (before after : Workspace) :
    Option (Moment σ) → Prop
  | none => after.annotator? = before.annotator?
  | some m =>
      after.annotator? =
        if m.call.reloads then
          after.root?.map fun root => .new root (after.given?.getD (m.found serve root))
        else before.annotator?

theorem Scene.renews {scene : Scene σ} {happening : Happening σ}
    (absent : scene.session.workspace.root? = none → scene.session.workspace.annotator? = none) :
    scene.session.workspace.Renews serve (scene.next serve happening).session.workspace
      (scene.moment? happening) := by
  cases called : scene.moment? happening with
  | none => exact congrArg _ (next_of_none called).workspace
  | some m =>
      have after := (@next_of_moment σ serve _ _ _ called).2.workspace
      rw [Moment.workspace_eq] at after
      rw [Workspace.Renews, after]
      have told_absent : (scene.session.workspace.told m.call).root? = none →
          (scene.session.workspace.told m.call).annotator? = none := by
        cases m.call with
        | enter introduction =>
            intro unknown
            exact absent (Option.or_eq_none_iff.mp unknown).2
        | note event => exact absent
        | noteFiles changes => exact absent
      cases reloads : m.call.reloads with
      | false => cases m.call <;> rfl
      | true =>
          simp only [if_true]
          rw [Workspace.reloaded_annotator? told_absent, Workspace.reloaded_root?,
            Workspace.reloaded_given?]

/-- In every state that a session reaches, its annotator is there exactly if the project is
known, and goes by the settings of the editor, or else those given at the start, or else
those that the project had when they were read last; and they are read exactly when the
project becomes known, and when the editor tells of a file whose address is written with
the name of a settings file. -/
theorem workspace_fits_course (serve : Job.Server σ) (given? : Option LintSettings) (host : σ)
    (course : List (Happening σ)) :
    let first := Scene.start given? host
    let moments := first.moments serve course
    let w := (first.after serve course).session.workspace
    (introductions moments).length ≤ 1 ∧ w.FitsMoments serve given? moments ∧
      ∀ happening, w.Renews serve
        ((first.after serve course).next serve happening).session.workspace
        ((first.after serve course).moment? happening) := by
  intro first moments w
  have settled := Settled.after serve given? host course
  exact ⟨settled.once, settled.fits, fun _ => Scene.renews settled.fits.absent⟩

/-! ## An address with an escaped name -/

/-- A project without anything in it. -/
def bareMachine : Machine :=
  { tree := ⟨[(["p"], .directory)]⟩, current := ["p"], clock := 0, copies := 0, entries := [] }

/-- Settings are put into the project. -/
def withSettings (m : Machine) : Machine :=
  let file := (["p", settingsName], .file (Text.encode "\x7b\"enabled\":true\x7d") false)
  { m with tree := ⟨m.tree.entries ++ [file]⟩ }

/-- The editor introduces itself with the project. -/
def introducing : Incoming :=
  .message
    { method := "initialize"
      params? := some (.ofMembers
        [("capabilities", .ofMembers []), ("rootUri", .string "file:///p")])
      id? := some (.ofNat 1) }

/-- The editor tells that a file was made. -/
def telling (address : String) : Incoming :=
  let change : Json := .ofMembers [("uri", .string address), ("type", .ofNat 1)]
  .message
    { method := "workspace/didChangeWatchedFiles"
      params? := some (.ofMembers [("changes", .array [change])])
      id? := none }

/-- The settings file of the project, its dot written with an escape. -/
def escapedSettings : FileChange :=
  ⟨⟨"file", some "", none, "/p/%2Ecoffeelint-bridge.json", none, none⟩, 1⟩

/-- The editor tells of the settings file, and the annotator goes by older settings. -/
theorem escaped_settings_unread :
    let serve := Machine.serveWith fun _ _ _ _ => .error .notFound
    let scene := (Scene.start none bareMachine).after serve
      [.told introducing, .changed withSettings]
    let incoming := telling escapedSettings.uri.text
    let w := (scene.next serve (.told incoming)).session.workspace
    let root : Path := ⟨["", "p"]⟩
    (scene.session.call? incoming).bind (·.changes?) = some [escapedSettings] ∧
      escapedSettings.uri.filePath? = some (LintSettings.fileIn root) ∧
      w.root? = some root ∧ w.given? = none ∧
      w.annotator? ≠
        some (.new root ((⟨.noteFiles [escapedSettings], scene.host⟩ : Moment _).found serve root)) := by
  decide +kernel

end Editor

end LintBridge
