import LintBridge.Proofs.Console.Agreement
import LintBridge.Proofs.Editor.Reloading
import LintBridge.Proofs.Lint.Outcomes

/-!
# The command line and the editor

The same options lead both surfaces to the same linting.  The command line settles its
settings at once; the server takes those that the options say, or looks for them in the
project that the editor names.  A saved file is linted without a copy, so the one surface
hears from the linter what the other does, and shows it line by line.
-/

set_option autoImplicit false

namespace LintBridge

/-! ## The settings of both -/

namespace Editor

theorem Workspace.reload_inspects (w : Workspace) : w.reload.Asks Request.Inspects := by
  unfold reload
  split
  · trivial
  next root _ =>
    have settled : (w.settingsFor root).Asks Request.Inspects := by
      unfold settingsFor
      split
      · trivial
      · refine (LintSettings.discover_inspects root).andThen fun found => ?_
        match found with
        | .ok (some settings) => exact Job.Asks.andThen (Job.asks_request trivial) fun _ => trivial
        | .ok none => exact Job.Asks.andThen (Job.asks_request trivial) fun _ => trivial
        | .error e => exact Job.Asks.andThen (Job.asks_request trivial) fun _ => trivial
    refine settled.andThen fun settings => ?_
    split
    · refine (settings.problems_inspects root).andThen fun problems => ?_
      refine (SettingsProblem.warnAll_inspects problems).andThen fun _ => ?_
      exact Job.Asks.andThen (Job.asks_request trivial) fun _ => trivial
    · exact Job.Asks.andThen (Job.asks_request trivial) fun _ => trivial

theorem Workspace.take_inspects (w : Workspace) (offer? : Option Json) :
    (w.take offer?).Asks Request.Inspects := by
  unfold take
  split
  · trivial
  · trivial
  · split
    · trivial
    · exact Job.Asks.andThen (Job.asks_request trivial) fun _ => trivial

theorem Workspace.enter_inspects (w : Workspace) (root? : Option Path) (offer? : Option Json) :
    (w.enter root? offer?).Asks Request.Inspects := by
  refine (w.take_inspects offer?).andThen fun w => ?_
  split
  · trivial
  · exact reload_inspects _

end Editor

namespace Console

/-- Options that say nothing of linting name no settings and change none. -/
theorem Options.of_silent {o : Options} (silent : o.saysHowToLint = false) :
    o.settingsFile? = none ∧ ∀ settings, o.adjust settings = settings := by
  unfold saysHowToLint at silent
  simp only [Bool.or_eq_false_iff, Option.isSome_eq_false_iff, Option.isNone_iff_eq_none] at silent
  obtain ⟨⟨⟨⟨⟨file, executable⟩, node⟩, config⟩, rules⟩, warnings⟩ := silent
  exact ⟨file, fun settings => by simp [adjust, executable, node, config, rules, warnings]⟩

section

variable {σ τ : Type} {serve : Job.Server σ} {serve' : Job.Server τ} {R : σ → τ → Prop} {s : σ}
  {t : τ} {o : Options} {place : Workplace}

theorem Options.root_of_workplace (settled : (o.workplace.run serve s).1 = .ok place) :
    ∃ settings, ((o.loadSettings place.root).run serve (o.root.run serve s).2).1 = .ok settings
      ∧ place.settings = o.adjust settings := by
  unfold workplace at settled
  rw [Job.bind_eq_andThen, Job.run_andThen] at settled
  cases rooted : (o.root.run serve s).1 with
  | error fatal =>
      rw [rooted] at settled
      cases settled
  | ok root =>
      simp only [rooted, Job.bind_eq_andThen, Job.run_andThen] at settled
      cases loaded : ((o.loadSettings root).run serve (o.root.run serve s).2).1 with
      | error e =>
          rw [loaded] at settled
          cases settled
      | ok settings =>
          rw [loaded] at settled
          cases settled
          exact ⟨settings, loaded, rfl⟩

theorem found_agrees (matching : Job.Matching serve serve' R) (related : R s t) (root : Path) :
    LintSettings.found serve s root = LintSettings.found serve' t root := by
  unfold LintSettings.found
  rw [(matching.run related (LintSettings.discover_inspects root).lints).1]

/-- Without an option about linting, the settings are those that the project has. -/
theorem found_of_silent (matching : Job.Matching serve serve' R) (related : R s t)
    (silent : o.saysHowToLint = false) (settled : (o.workplace.run serve s).1 = .ok place) :
    LintSettings.found serve' t place.root = place.settings := by
  obtain ⟨settings, loaded, adjusted⟩ := Options.root_of_workplace settled
  obtain ⟨unnamed, unchanged⟩ := Options.of_silent silent
  rw [adjusted, unchanged]
  have rooted : R (o.root.run serve s).2 t :=
    matching.run_left related o.root_inspects.idles
  have same := (matching.run rooted (LintSettings.discover_inspects place.root).lints).1
  unfold Options.loadSettings at loaded
  simp only [unnamed, Job.bind_eq_andThen, Job.run_andThen, same] at loaded
  unfold LintSettings.found
  split at loaded
  next failed => cases loaded
  next read =>
    cases loaded
    rw [read]
  next absent =>
    cases loaded
    rw [absent]

/-- The server is given the settings of the command line where the options say something
of linting. -/
theorem runServe_value (matching : Job.Matching serve serve' R) (related : R s t)
    (settled : (o.workplace.run serve s).1 = .ok place) :
    ((runServe o).run serve' t).1
      = .serving (if o.saysHowToLint then some place.settings else none) := by
  have same := (matching.run related o.workplace_inspects.lints).1
  unfold runServe
  split
  · unfold inWorkplace
    rw [Job.bind_eq_andThen, Job.run_andThen, ← same, settled]
    rfl
  · rfl

end

end Console

/-! ## A document is opened -/

namespace Editor

namespace Session

theorem report_tells (s : Session) (v : Validation) (outcome : LintOutcome) :
    (s.report v outcome).Ends fun told =>
      told.1 = diagnosticsOf v.text outcome.annotations
        ∧ told.2.1.desk = s.desk ∧ publications told.2.2 = [] := by
  cases outcome with
  | annotated annotations => exact ⟨rfl, rfl, rfl⟩
  | skipped reason => exact fun _ => ⟨rfl, rfl, rfl⟩
  | failed message =>
      intro now
      refine Job.Ends.andThen (Q := fun told : Session × List Outgoing =>
        told.1.desk = s.desk ∧ publications told.2 = []) ?_ fun told kept => ⟨rfl, kept⟩
      show Job.Ends _ (if _ then _ else _)
      split
      · exact ⟨rfl, rfl⟩
      · exact fun _ => ⟨rfl, rfl⟩

/-- Tells what an outcome means, and finishes the validation. -/
def settle (s : Session) (v : Validation) (outcome : LintOutcome) :
    Job (Session × List Outgoing) :=
  (s.report v outcome).andThen fun told =>
    let done := told.2.1.conclude (some told.1)
    .done (done.1, told.2.2 ++ done.2)

theorem settle_idles (s : Session) (v : Validation) (outcome : LintOutcome) :
    (s.settle v outcome).Asks Request.Idles :=
  (s.report_idles v outcome).andThen fun _ => trivial

theorem settle_tells {s : Session} {v : Validation} (alone : s.desk.running = [v])
    (outcome : LintOutcome) :
    (s.settle v outcome).Ends fun done =>
      done.1.desk.timers = s.desk.timers ∧
        publications done.2 = [⟨v.uri, v.version?, diagnosticsOf v.text outcome.annotations⟩] := by
  refine (s.report_tells v outcome).andThen fun told kept => ?_
  obtain ⟨diagnostics, desk, silent⟩ := kept
  simp only [Job.Ends, conclude, Desk.finish, desk, alone, withDesk, publications,
    List.filterMap_append]
  rw [publications] at silent
  rw [silent, diagnostics]
  exact ⟨rfl, rfl⟩

section

variable {s : Session} {a : Annotator} {uri : Uri} {path : Path}

/-- The session with an opened document that is to be linted. -/
def withOpened (s : Session) (uri : Uri) (text : String) (version : Int32) : Session :=
  s.withDesk (s.desk.note s.now (.opened uri text version)).1

theorem withOpened_running (idle : s.desk.running = []) (text : String) (version : Int32) :
    (s.withOpened uri text version).desk.running = [⟨uri, text, some version⟩] := by
  simp [withOpened, withDesk, Desk.note, Documents.apply, Desk.start, idle]

theorem note_opened (present : s.workspace.annotator? = some a) (idle : s.desk.running = [])
    (located : uri.filePath? = some path) (text : String) (version : Int32) :
    s.note (.opened uri text version)
      = (Job.tell [⟨.debug, eventText (.opened uri text version)⟩,
            ⟨.debug, "Validating document: " ++ uri.text⟩]).andThen fun _ =>
          (a.annotate path text).andThen
            ((s.withOpened uri text version).settle ⟨uri, text, some version⟩) := by
  have linted : (s.withOpened uri text version).lintText path text = a.annotate path text := by
    have same : (s.withOpened uri text version).workspace.annotator? = some a := present
    unfold lintText
    rw [same]
  have worked : (s.withOpened uri text version).work
      = (Job.log .debug ("Validating document: " ++ uri.text)).andThen fun _ =>
          (a.annotate path text).andThen
            ((s.withOpened uri text version).settle ⟨uri, text, some version⟩) := by
    unfold work
    rw [withOpened_running idle]
    simp only [validateAll, validate, located, linted, Job.bind_eq_andThen, Job.andThen_assoc]
    refine congrArg _ (funext fun _ => congrArg _ (funext fun outcome => ?_))
    refine congrArg _ (funext fun told => ?_)
    show Job.done (_, (_ ++ _) ++ []) = Job.done _
    rw [List.append_nil]
  have told : s.note (.opened uri text version)
      = (Job.log .debug (eventText (.opened uri text version))).andThen fun _ =>
          (s.withOpened uri text version).work.andThen .done := rfl
  rw [told, Job.andThen_done, worked]
  rfl

end

end Session

end Editor

/-! ## A conversation -/

namespace Editor

namespace Session

/-- Nothing is under way and nothing waits. -/
structure Rested (s : Session) (w : Workspace) : Prop where
  workspace : s.workspace = w
  idle : s.desk.running = []
  timers : s.desk.timers = []

theorem wait_of_rested {s : Session} {w : Workspace} (rested : s.Rested w) (time : Nat) :
    s.wait time = .done ({ s with now := s.now + time }, []) := by
  simp only [wait, rested.timers, List.length_nil, expireUntil, Job.bind_eq_andThen]
  show Job.done (_, s.deliver []) = _
  simp [deliver]

theorem Rested.quiet {s t : Session} {w : Workspace} (rested : s.Rested w) (rests : s.Rests t)
    (desk : t.desk = s.desk) : t.Rested w :=
  ⟨rests.workspace.trans rested.workspace, desk ▸ rested.idle, desk ▸ rested.timers⟩

end Session

namespace Scene

variable {σ : Type}

/-- What the editor gets to see meanwhile. -/
def publishes (serve : Job.Server σ) (scene : Scene σ) : Happening σ → List Publication
  | .told incoming =>
      publications ((scene.session.receiveAny incoming).run serve scene.host).1.sent
  | .waited time => publications ((scene.session.wait time).run serve scene.host).1.2
  | .changed _ => []

/-- What the editor gets to see in the course of a session. -/
def published (serve : Job.Server σ) : Scene σ → List (Happening σ) → List Publication
  | _, [] => []
  | scene, happening :: rest =>
      scene.publishes serve happening ++ (scene.next serve happening).published serve rest

end Scene

section

variable {σ τ : Type} {serve : Job.Server σ} {serve' : Job.Server τ} {R : σ → τ → Prop} {s : σ}
  {scene : Scene τ} {w : Workspace} {happening : Happening τ}

/-- Where the session is called to nothing, nothing is seen. -/
theorem Scene.quiet (matching : Job.Matching serve serve' R) (related : R s scene.host)
    (rested : scene.session.Rested w) (undisturbed : ∀ change, happening ≠ .changed change)
    (uncalled : scene.moment? happening = none) :
    (scene.next serve' happening).session.Rested w
      ∧ R s (scene.next serve' happening).host ∧ scene.publishes serve' happening = [] := by
  cases happening with
  | changed change => exact absurd rfl (undisturbed change)
  | waited time =>
      simp only [next, publishes, Session.wait_of_rested rested]
      exact ⟨⟨rested.workspace, rested.idle, rested.timers⟩, related, rfl⟩
  | told incoming =>
      have idle := Option.map_eq_none_iff.mp uncalled
      obtain ⟨asks, ends⟩ := Session.quiet_of_none idle
      obtain ⟨desk, silent⟩ := ends.value serve' scene.host
      have rests := (Session.receiveAny_of_none idle).value serve' scene.host
      exact ⟨rested.quiet rests desk, matching.run_right related asks, silent⟩

/-- The editor opens a file. -/
structure Opening where
  uri : Uri
  version : Int32

namespace Opening

/-- The file is opened with the text that it has in its turn. -/
def event (opening : Opening) (turn : Console.FileTurn σ) : DocumentEvent :=
  .opened opening.uri turn.content opening.version

def call (opening : Opening) (turn : Console.FileTurn σ) : Call :=
  .note (opening.event turn)

/-- What the editor gets to see when the file is opened. -/
def publication (opening : Opening) (text : String) (outcome : LintOutcome) : Publication :=
  ⟨opening.uri, some opening.version, Session.diagnosticsOf text outcome.annotations⟩

end Opening

variable {a : Annotator} {file : Path} {turn : Console.FileTurn σ} {opening : Opening}

/-- A file that is opened shows what the command line tells of it. -/
theorem Session.note_agrees (matching : Job.Matching serve serve' R) {t : τ} (related : R s t)
    {session : Session} (present : session.workspace.annotator? = some a)
    (idle : session.desk.running = []) (found : Console.turn? serve file s = some turn)
    (located : opening.uri.filePath? = some turn.path) :
    let done := (session.note (.opened opening.uri turn.content opening.version)).run serve' t
    R ((Console.lintFile a file).run serve s).2 done.2
      ∧ done.1.1.desk.timers = session.desk.timers
      ∧ publications done.1.2
        = [opening.publication turn.content (turn.outcome serve a)] := by
  intro done
  let entries : List LogEntry :=
    [⟨.debug, eventText (.opened opening.uri turn.content opening.version)⟩,
      ⟨.debug, "Validating document: " ++ opening.uri.text⟩]
  have told : R s ((Job.tell entries).run serve' t).2 :=
    matching.run_right related (Job.asks_tell (fun _ => trivial) entries)
  obtain ⟨outcome, after⟩ := Console.turn_agrees (a := a) matching told found
  let opened := session.withOpened opening.uri turn.content opening.version
  let v : Validation := ⟨opening.uri, turn.content, some opening.version⟩
  have settled := matching.run_right after (opened.settle_idles v (turn.outcome serve a))
  have same : done = (opened.settle v (turn.outcome serve a)).run serve'
      ((a.annotate turn.path turn.content).run serve' ((Job.tell entries).run serve' t).2).2 := by
    simp only [done, note_opened present idle located, Job.run_andThen]
    rw [outcome]
  have alone : opened.desk.running = [v] :=
    withOpened_running idle turn.content opening.version
  have tells := (settle_tells alone (turn.outcome serve a)).value serve'
    ((a.annotate turn.path turn.content).run serve' ((Job.tell entries).run serve' t).2).2
  rw [same]
  exact ⟨settled, tells⟩

theorem Scene.opens (matching : Job.Matching serve serve' R) (related : R s scene.host)
    (rested : scene.session.Rested w) (present : w.annotator? = some a)
    (found : Console.turn? serve file s = some turn)
    (located : opening.uri.filePath? = some turn.path) {m : Moment τ}
    (called : scene.moment? happening = some m) (opens : m.call = opening.call turn) :
    (scene.next serve' happening).session.Rested w
      ∧ R ((Console.lintFile a file).run serve s).2 (scene.next serve' happening).host
      ∧ scene.publishes serve' happening
        = [opening.publication turn.content (turn.outcome serve a)] := by
  obtain ⟨call, host⟩ := m
  cases opens
  obtain ⟨-, serves⟩ := @Scene.next_of_moment τ serve' _ _ _ called
  cases happening with
  | waited time => cases called
  | changed change => cases called
  | told incoming =>
      obtain ⟨call, calls, same⟩ := Option.map_eq_some_iff.mp called
      cases same
      obtain ⟨-, response?, -, received⟩ := Session.receiveAny_of_some calls
      obtain ⟨further, timers, seen⟩ := Session.note_agrees matching related
        (rested.workspace ▸ present) rested.idle found located
      refine ⟨⟨serves.workspace.trans rested.workspace, serves.idle rested.idle, ?_⟩, ?_, ?_⟩
      · simp only [next, received, Job.run_andThen]
        exact timers.trans rested.timers
      · simp only [next, received, Job.run_andThen]
        exact further
      · simp only [publishes, received, Job.run_andThen]
        exact seen

/-- What the editor gets to see when the files are opened in turn. -/
def expected (serve : Job.Server σ) (a : Annotator) (openings : List Opening)
    (turns : List (Console.FileTurn σ)) : List Publication :=
  List.zipWith (fun opening turn => opening.publication turn.content (turn.outcome serve a))
    openings turns

theorem undisturbed_cons {rest : List (Happening τ)}
    (undisturbed : ∀ change, .changed change ∉ happening :: rest) :
    (∀ change, happening ≠ .changed change) ∧ ∀ change, Happening.changed change ∉ rest :=
  ⟨fun change same => undisturbed change (same ▸ List.mem_cons_self),
    fun change member => undisturbed change (List.mem_cons_of_mem _ member)⟩

theorem Scene.opens_all (matching : Job.Matching serve serve' R) (present : w.annotator? = some a)
    {course : List (Happening τ)} (undisturbed : ∀ change, .changed change ∉ course)
    (related : R s scene.host) (rested : scene.session.Rested w) {files : List Path}
    {openings : List Opening} (located : openings.map (·.uri.filePath?)
      = (Console.turns serve a files s).map fun turn => some turn.path)
    (calls : (scene.moments serve' course).map (·.call)
      = List.zipWith Opening.call openings (Console.turns serve a files s)) :
    (scene.after serve' course).session.workspace = w
      ∧ scene.published serve' course
        = expected serve a openings (Console.turns serve a files s) := by
  -- The command line takes its next turn where the session is called to something, so its
  -- host moves on only there.
  induction course generalizing scene s files openings with
  | nil =>
      have none_left : List.zipWith Opening.call openings (Console.turns serve a files s) = [] :=
        calls.symm
      rw [List.zipWith_eq_nil_iff] at none_left
      refine ⟨rested.workspace, ?_⟩
      rw [expected, List.zipWith_eq_nil_iff.mpr none_left]
      rfl
  | cons happening rest ih =>
      obtain ⟨steady, later⟩ := undisturbed_cons undisturbed
      cases called : scene.moment? happening with
      | none =>
          obtain ⟨rested, related, nothing⟩ :=
            Scene.quiet matching related rested steady called
          simp only [moments, called, Option.toList_none, List.nil_append] at calls
          obtain ⟨workspace, seen⟩ := ih later related rested located calls
          exact ⟨workspace, by rw [published, nothing, List.nil_append, seen]⟩
      | some m =>
          simp only [moments, called, Option.toList_some, List.cons_append, List.nil_append,
            List.map_cons] at calls
          cases files with
          | nil => simp [Console.turns] at calls
          | cons file files =>
              cases found : Console.turn? serve file s with
              | none => simp [Console.turns, found] at calls
              | some turn =>
                  simp only [Console.turns, found] at located calls ⊢
                  cases openings with
                  | nil => simp at located
                  | cons opening others =>
                      simp only [List.map_cons, List.cons.injEq] at located
                      simp only [List.zipWith_cons_cons, List.cons.injEq] at calls
                      obtain ⟨rested, related, shown⟩ := Scene.opens matching related rested
                        present found located.1 called calls.1
                      obtain ⟨workspace, seen⟩ := ih later related rested located.2 calls.2
                      exact ⟨workspace, by rw [published, shown, seen]; rfl⟩

/-- The editor introduces itself with a project and without settings. -/
theorem Scene.enters (matching : Job.Matching serve serve' R) (related : R s scene.host)
    {given? : Option LintSettings} (rested : scene.session.Rested (.start given?))
    {introduction : Introduction} {root : Path} (project : introduction.project? = some root)
    (unoffered : offered? introduction.offer? = none) {m : Moment τ}
    (called : scene.moment? happening = some m) (enters : m.call = .enter introduction) :
    (∃ w, (scene.next serve' happening).session.Rested w
        ∧ w.annotator? = some (.new root (given?.getD (LintSettings.found serve s root))))
      ∧ R s (scene.next serve' happening).host ∧ scene.publishes serve' happening = [] := by
  obtain ⟨call, host⟩ := m
  cases enters
  obtain ⟨-, serves⟩ := @Scene.next_of_moment τ serve' _ _ _ called
  cases happening with
  | waited time => cases called
  | changed change => cases called
  | told incoming =>
      obtain ⟨call, calls, same⟩ := Option.map_eq_some_iff.mp called
      cases same
      obtain ⟨-, response?, -, received⟩ := Session.receiveAny_of_some calls
      have asks : (scene.session.perform (.enter introduction)).Asks Request.Idles := by
        refine Job.Asks.andThen (Job.asks_request trivial) fun _ => ?_
        refine Job.Asks.andThen ?_ fun _ => trivial
        exact (Workspace.enter_inspects _ _ _).idles
      have further := matching.run_right related asks
      have told : R s ((Job.tell (Call.enter introduction).opening).run serve' scene.host).2 :=
        matching.run_right related (Job.asks_tell (fun _ => trivial) _)
      refine ⟨⟨_, ⟨serves.workspace, serves.idle rested.idle, ?_⟩, ?_⟩, ?_, ?_⟩
      · simp only [next, received, Session.perform, Job.bind_eq_andThen, Job.run_andThen]
        exact rested.timers
      · have reloads : (Call.enter introduction).reloads = true := by
          simp [Call.reloads, project]
        rw [Moment.workspace_eq, if_pos reloads, rested.workspace,
          Workspace.reloaded_annotator? fun _ => rfl]
        simp only [Workspace.told, Workspace.start, project, unoffered, Option.some_or,
          Option.none_or, Option.map_some, Moment.found, Console.found_agrees matching told root]
      · simp only [next, received, Job.run_andThen]
        exact further
      · simp only [publishes, received, Session.perform, Job.bind_eq_andThen, Job.run_andThen]
        rfl

/-- What a session comes to that begins with a project and goes on with its files. -/
theorem Scene.enters_then_opens (matching : Job.Matching serve serve' R)
    {course : List (Happening τ)} (undisturbed : ∀ change, .changed change ∉ course)
    (related : R s scene.host) {given? : Option LintSettings}
    (rested : scene.session.Rested (.start given?))
    {introduction : Introduction} {root : Path} (project : introduction.project? = some root)
    (unoffered : offered? introduction.offer? = none)
    (settings : a = .new root (given?.getD (LintSettings.found serve s root)))
    {files : List Path} {openings : List Opening}
    (located : openings.map (·.uri.filePath?)
      = (Console.turns serve a files s).map fun turn => some turn.path)
    (calls : (scene.moments serve' course).map (·.call)
      = .enter introduction :: List.zipWith Opening.call openings (Console.turns serve a files s)) :
    (scene.after serve' course).session.workspace.annotator? = some a
      ∧ scene.published serve' course
        = expected serve a openings (Console.turns serve a files s) := by
  -- Up to the introduction the workspace is the one of the start, behind it there is an
  -- annotator and the files follow.
  induction course generalizing scene with
  | nil => cases calls
  | cons happening rest ih =>
      obtain ⟨steady, later⟩ := undisturbed_cons undisturbed
      cases called : scene.moment? happening with
      | none =>
          obtain ⟨rested, related, nothing⟩ :=
            Scene.quiet matching related rested steady called
          simp only [moments, called, Option.toList_none, List.nil_append] at calls
          obtain ⟨present, seen⟩ := ih later related rested calls
          exact ⟨present, by rw [published, nothing, List.nil_append, seen]⟩
      | some m =>
          simp only [moments, called, Option.toList_some, List.cons_append, List.nil_append,
            List.map_cons, List.cons.injEq] at calls
          obtain ⟨⟨w, rested, present⟩, related, nothing⟩ :=
            Scene.enters matching related rested project unoffered called calls.1
          rw [← settings] at present
          obtain ⟨workspace, seen⟩ :=
            Scene.opens_all matching present later related rested located calls.2
          refine ⟨?_, by rw [published, nothing, List.nil_append, seen]⟩
          show ((scene.next serve' happening).after serve' rest).session.workspace.annotator? = _
          rw [workspace]
          exact present

end

end Editor

/-! ## What both say -/

/-- What is said about a line, counted from zero. -/
structure Remark where
  line : Nat
  severity : Severity
  rule : String
  message : String
  deriving DecidableEq, Repr

def Annotation.remark (a : Annotation) : Remark :=
  ⟨a.line, a.severity, a.source, a.message⟩

def Diagnostic.remark (d : Diagnostic) : Remark :=
  ⟨d.range.start.line, d.severity, d.code, d.message⟩

/-- An issue in the text has one annotation and one diagnostic, which say the same. -/
theorem Issue.annotate_remark (allWarnings : Bool) {text : List Char} {issue : Issue}
    (lies : issue.LiesIn text) :
    ∃ a d, (issue.annotate allWarnings (.ofText text)).value = some a
      ∧ Diagnostic.ofAnnotation? text a = some d ∧ d.remark = a.remark := by
  obtain ⟨a, annotated, shown⟩ := annotate_of_liesIn allWarnings lies
  refine ⟨a, issue.diagnosticIn allWarnings text, annotated, shown, ?_⟩
  obtain ⟨range, -, rfl⟩ := annotate_eq_some annotated
  obtain ⟨place, -, built⟩ := Option.map_eq_some_iff.mp shown
  have severity := congrArg Diagnostic.severity built
  have rule := congrArg Diagnostic.code built
  have message := congrArg Diagnostic.message built
  simp only [Diagnostic.remark, Annotation.remark, Remark.mk.injEq]
  exact ⟨rfl, severity.symm, rule.symm, message.symm⟩

/-- With counters of 32 bits the walk to an annotation comes to its very line, even where the
other counter has wrapped. -/
theorem Issue.annotate_wrapped {allWarnings : Bool} {text : List Char} {issue : Issue}
    {a : Annotation} (annotated : (issue.annotate allWarnings (.ofText text)).value = some a) :
    (Position.walkWrapped a.range.start 0 Position.start.wrapped text).1.toNat = a.line := by
  by_cases lies : issue.LiesIn text
  · obtain ⟨a', d, annotated', shown, same⟩ := annotate_remark allWarnings lies
    cases annotated.symm.trans annotated'
    have low : a.line < 2147483648 := by
      obtain ⟨range, -, rfl⟩ := annotate_eq_some annotated
      exact issue.editorLine_lt
    obtain ⟨range, placed, rfl⟩ := Option.map_eq_some_iff.mp shown
    obtain ⟨start, first, later⟩ := Option.bind_eq_some_iff.mp placed
    obtain ⟨stop, -, built⟩ := Option.bind_eq_some_iff.mp later
    cases built
    have reached : Position.walk a.range.start 0 .start text = start :=
      Option.some.inj (Option.ite_none_right_eq_some.mp first).2
    have line : start.line = a.line := congrArg Remark.line same
    rw [Position.walkWrapped_eq, reached, Position.wrapped, line]
    exact UInt32.toNat_ofNat_of_lt' (Nat.lt_trans low (by decide))
  · rw [annotate_of_not_liesIn allWarnings lies] at annotated
    cases annotated

theorem Editor.Session.diagnosticsOf_remarks (content : String) (allWarnings : Bool)
    (issues : List Issue) :
    let annotations := (annotateAll allWarnings (.ofText content.toList) issues).value
    (diagnosticsOf content annotations).map (·.remark) = annotations.map (·.remark) := by
  induction issues with
  | nil => rfl
  | cons issue rest ih =>
      simp only [diagnosticsOf] at ih
      simp only [annotateAll, Logged.value_bind, Logged.value_pure, diagnosticsOf,
        List.filterMap_append, List.map_append, ih]
      by_cases lies : issue.LiesIn content.toList
      · obtain ⟨a, d, annotated, shown, same⟩ := Issue.annotate_remark allWarnings lies
        simp [annotated, shown, same]
      · simp [Issue.annotate_of_not_liesIn allWarnings lies]

/-- The diagnostics say what the outcome says, in the same order. -/
def LintOutcome.ShownBy (diagnostics : List Diagnostic) : LintOutcome → Prop
  | annotated annotations => diagnostics.map (·.remark) = annotations.map (·.remark)
  | skipped _ | failed _ => diagnostics = []

namespace Editor

section

variable {σ τ : Type} {serve : Job.Server σ} {serve' : Job.Server τ} {R : σ → τ → Prop} {s : σ}
  {t : τ}

theorem outcome_shown (a : Annotator) (turn : Console.FileTurn σ) :
    (turn.outcome serve a).ShownBy
      (Session.diagnosticsOf turn.content (turn.outcome serve a).annotations) := by
  obtain ⟨issues, found⟩ :=
    Annotator.annotate_annotations serve turn.host a turn.path turn.content
  have remarks := Session.diagnosticsOf_remarks turn.content a.settings.treatAllAsWarnings issues
  simp only [← found] at remarks
  change (Session.diagnosticsOf turn.content (turn.outcome serve a).annotations).map _
    = (turn.outcome serve a).annotations.map _ at remarks
  cases outcome : turn.outcome serve a with
  | annotated annotations =>
      rw [outcome] at remarks
      exact remarks
  | skipped reason => rfl
  | failed message => rfl

/-- The lines that are shown are counted as they are told, in words of 32 bits too. -/
theorem lines_counted (a : Annotator) (turn : Console.FileTurn σ) :
    ∀ found ∈ (turn.outcome serve a).annotations,
      (Position.walkWrapped found.range.start 0 Position.start.wrapped turn.content.toList).1.toNat
        = found.line := by
  obtain ⟨issues, same⟩ :=
    Annotator.annotate_annotations serve turn.host a turn.path turn.content
  intro found member
  change found ∈ ((a.annotate turn.path turn.content).run serve turn.host).1.annotations at member
  rw [same] at member
  obtain ⟨issue, -, annotated⟩ := exists_of_mem_annotateAll member
  exact Issue.annotate_wrapped annotated

theorem lint_prints {o : Console.Options} {place : Console.Workplace}
    (settled : (o.workplace.run serve s).1 = .ok place) {files : List Path}
    (format : Console.Format) :
    let a := Annotator.new place.root place.settings
    let turns := Console.turns serve a files (Console.turnsBegin serve o place s)
    turns.map (·.file) = files →
      ((Console.Invocation.run ⟨o, .lint files format⟩).run serve s).1.out
        = format.print (turns.map fun turn => ⟨turn.file, turn.outcome serve a⟩) := by
  intro a turns complete
  have linted := Console.lintFiles_eq_ok_iff.mpr ⟨complete, rfl⟩
  unfold Console.Invocation.run
  simp only [Console.inWorkplace, Console.runLint, Job.bind_eq_andThen, Job.run_andThen, settled]
  rw [Console.turnsBegin] at linted
  rw [linted]
  rfl

/-- Let the options lead to a workplace, and let the editor introduce itself to a server of
the same options with the root of that workplace and without settings.  Then the server
lints as the command line does; and when the editor opens files with the texts that the
command line has read, under addresses of the same paths, it sees for each of them the
diagnostics of what the command line tells of it.  The server's counters of 32 bits hold the line
of every annotation, and in a text of fewer than 2³² bytes none of them wraps. -/
theorem server_shows_what_is_linted (matching : Job.Matching serve serve' R) (related : R s t)
    {o : Console.Options} {place : Console.Workplace}
    (settled : (o.workplace.run serve s).1 = .ok place) {introduction : Introduction}
    (project : introduction.project? = some place.root)
    (unoffered : introduction.offer? = none ∨ introduction.offer? = some .null) :
    let a := Annotator.new place.root place.settings
    let server := (Console.Invocation.run ⟨o, .serve⟩).run serve' t
    ∃ given?, server.1 = .serving given? ∧ ∀ files,
      let turns := Console.turns serve a files (Console.turnsBegin serve o place s)
      let first := Scene.start given? server.2
      (turns.map (·.file) = files → ∀ format,
        ((Console.Invocation.run ⟨o, .lint files format⟩).run serve s).1.out
          = format.print (turns.map fun turn => ⟨turn.file, turn.outcome serve a⟩)) ∧
      (∀ turn ∈ turns,
        (turn.outcome serve a).ShownBy
            (Session.diagnosticsOf turn.content (turn.outcome serve a).annotations) ∧
          (∀ found ∈ (turn.outcome serve a).annotations,
            (Position.walkWrapped found.range.start 0 Position.start.wrapped
              turn.content.toList).1.toNat = found.line) ∧
          (Text.length8 turn.content.toList < 4294967296 → ∀ offset,
            Position.walk32? offset 0 .start turn.content.toList
              = some (Position.walk offset 0 .start turn.content.toList))) ∧
      ∀ openings course, openings.map (·.uri.filePath?) = turns.map (fun turn => some turn.path) →
        (∀ change, .changed change ∉ course) →
        (first.moments serve' course).map (·.call)
          = .enter introduction :: List.zipWith Opening.call openings turns →
        (first.after serve' course).session.workspace.annotator? = some a ∧
          first.published serve' course = expected serve a openings turns := by
  intro a server
  have begun : R (Console.turnsBegin serve o place s) t := by
    have resolved := matching.run_left related o.workplace_inspects.idles
    exact matching.run_left resolved (Console.warnAbout_inspects place).idles
  have ready : R (Console.turnsBegin serve o place s) server.2 :=
    matching.run_right begun (Console.runServe_inspects o).idles
  refine ⟨_, Console.runServe_value matching related settled, fun files => ?_⟩
  intro turns first
  refine ⟨fun complete format => lint_prints settled format complete,
    fun turn _ => ⟨outcome_shown a turn, lines_counted a turn,
      fun short offset => Position.walk32?_eq_walk (Nat.le_refl 0) (by omega)⟩, ?_⟩
  intro openings course located undisturbed calls
  have none_offered : offered? introduction.offer? = none := by
    rcases unoffered with none | null
    · rw [none]
      rfl
    · rw [null]
      rfl
  have settings : a = .new place.root
      ((if o.saysHowToLint then some place.settings else none).getD
        (LintSettings.found serve (Console.turnsBegin serve o place s) place.root)) := by
    cases silent : o.saysHowToLint with
    | true => rfl
    | false =>
        simp only [Bool.false_eq_true, if_false, Option.getD_none]
        rw [Console.found_agrees matching begun,
          Console.found_of_silent matching related silent settled]
  exact Scene.enters_then_opens matching undisturbed ready ⟨rfl, rfl, rfl⟩ project none_offered
    settings located calls

end

/-- The calls of a session that is told of documents only, but for its introduction. -/
theorem calls_eq_of_events {σ : Type} {moments : List (Moment σ)} {events : List DocumentEvent}
    (told : moments.map (·.call.event?) = none :: events.map some) {introduction : Introduction}
    (entered : introductions moments = [introduction]) :
    moments.map (·.call) = .enter introduction :: events.map .note := by
  have noted : ∀ {rest : List (Moment σ)} {events : List DocumentEvent},
      rest.map (·.call.event?) = events.map some →
        rest.map (·.call) = events.map .note ∧ introductions rest = [] := by
    intro rest
    induction rest with
    | nil =>
        intro events same
        rw [List.map_eq_nil_iff.mp same.symm]
        exact ⟨rfl, rfl⟩
    | cons m rest ih =>
        intro events same
        cases events with
        | nil => cases same
        | cons event events =>
            obtain ⟨here, others⟩ := List.cons.inj same
            obtain ⟨calls, quiet⟩ := ih others
            obtain ⟨call, host⟩ := m
            cases call with
            | note told =>
                cases here
                exact ⟨congrArg _ calls, quiet⟩
            | _ => cases here
  cases moments with
  | nil => cases told
  | cons m rest =>
      obtain ⟨here, others⟩ := List.cons.inj told
      obtain ⟨calls, quiet⟩ := noted others
      obtain ⟨call, host⟩ := m
      cases call with
      | note event => cases here
      | noteFiles changes => cases quiet.symm.trans entered
      | enter introduction' =>
          obtain ⟨rfl, -⟩ := List.cons.inj entered
          exact congrArg _ calls

/-- The editor opens a file with a text. -/
def tellingOpened (opening : Opening) (text : String) : Incoming :=
  let document : Json := .ofMembers
    [("languageId", .string "coffeescript"), ("text", .string text),
      ("uri", .string opening.uri.text), ("version", .ofInt32 opening.version)]
  .message
    { method := "textDocument/didOpen"
      params? := some (.ofMembers [("textDocument", document)])
      id? := none }

/-- The files of the small project are opened. -/
def smallOpenings : List Opening :=
  [⟨⟨"file", some "", none, "/p/a.coffee", none, none⟩, 1⟩,
    ⟨⟨"file", some "", none, "/p/b.js", none, none⟩, 2⟩]

def smallCourse : List (Happening Machine) :=
  .told introducing :: .waited 5 :: smallOpenings.map fun opening =>
    .told (tellingOpened opening "x")

/-- The linter finds an error that is out of date and a warning. -/
def smallServe : Job.Server Machine :=
  Machine.serveWith (Console.unhappyLinter Console.staleReport)

/-- The small project at another time. -/
def laterMachine : Machine :=
  { Console.smallMachine with clock := 7 }

def smallAnnotator : Annotator :=
  .new Console.smallWorkplace.root Console.smallWorkplace.settings

def smallTurns : List (Console.FileTurn Machine) :=
  Console.turns smallServe smallAnnotator [.ofText "a.coffee", .ofText "b.js"]
    (Console.turnsBegin smallServe Console.smallOptions Console.smallWorkplace
      Console.smallMachine)

/-- The server of the small project, before its first message. -/
def smallScene : Scene Machine :=
  .start (some Console.smallWorkplace.settings)
    ((Console.Invocation.run ⟨Console.smallOptions, .serve⟩).run smallServe laterMachine).2

theorem small_moments :
    ((smallScene.moments smallServe smallCourse).map (·.call.event?)
        = none :: (List.zipWith Opening.event smallOpenings smallTurns).map some)
      ∧ (introductions (smallScene.moments smallServe smallCourse)).map
          (fun introduction => (introduction.project?, introduction.offer?.isSome))
        = [(some Console.smallWorkplace.root, false)] := by
  decide +kernel

theorem small_project_shown :
    (smallScene.after smallServe smallCourse).session.workspace.annotator?
        = some smallAnnotator ∧
      smallScene.published smallServe smallCourse
        = expected smallServe smallAnnotator smallOpenings smallTurns ∧
      (expected smallServe smallAnnotator smallOpenings smallTurns).map
          (·.diagnostics.map (·.remark))
        = [[⟨0, .warning, "", "CoffeeLint:  ()"⟩], []] := by
  have settled : (Console.smallOptions.workplace.run smallServe Console.smallMachine).1
      = .ok Console.smallWorkplace := Result.eq_ok_of_toOption (by decide +kernel)
  have steady : ∀ change, Happening.changed change ∉ smallCourse := by
    intro change member
    simp [smallCourse] at member
  have alike : Machine.SameFiles Console.smallMachine laterMachine := ⟨rfl, rfl⟩
  have located : smallOpenings.map (·.uri.filePath?)
      = smallTurns.map fun turn => some turn.path := by decide +kernel
  have given : ((Console.Invocation.run ⟨Console.smallOptions, .serve⟩).run smallServe
      laterMachine).1 = .serving (some Console.smallWorkplace.settings) := by decide +kernel
  obtain ⟨told, entered⟩ := small_moments
  obtain ⟨introduction, alone, parts⟩ := List.map_eq_singleton_iff.mp entered
  have calls := calls_eq_of_events told alone
  obtain ⟨project, offer⟩ := Prod.mk.inj parts
  have unoffered : introduction.offer? = none := by
    cases offered : introduction.offer? with
    | none => rfl
    | some offer' =>
        rw [offered] at offer
        cases offer
  obtain ⟨given?, serving, files⟩ := server_shows_what_is_linted
    (Machine.matching_sameFiles (Console.unhappyLinter Console.staleReport)) alike settled
    project (.inl unoffered)
  have same : given? = some Console.smallWorkplace.settings :=
    Console.Ending.serving.inj (serving.symm.trans given)
  subst same
  rw [List.map_zipWith] at calls
  obtain ⟨present, shown⟩ :=
    (files [.ofText "a.coffee", .ofText "b.js"]).2.2 smallOpenings smallCourse located steady calls
  exact ⟨present, shown, by decide +kernel⟩

end Editor

end LintBridge
