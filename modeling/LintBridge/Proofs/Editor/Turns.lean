import LintBridge.Editor.Session
import LintBridge.Proofs.Editor.Journal
import LintBridge.Proofs.Host.Agreement

/-!
# The turns of a session

A message calls the server to one of three things, or to nothing that matters to its
workspace and its documents: the editor introduces itself, tells of a document, or tells of
files.  Linting comes after that.  It takes its time and changes neither.
-/

set_option autoImplicit false

namespace LintBridge.Editor

/-- What an editor may call the server to. -/
inductive Call where
  | enter (introduction : Introduction)
  | note (event : DocumentEvent)
  | noteFiles (changes : List FileChange)

/-- The phase in which a call is served. -/
def Call.phase : Call → Phase
  | .enter _ => .waiting
  | .note _ | .noteFiles _ => .serving

/-- What a call does to the workspace. -/
def Workspace.serve (w : Workspace) : Call → Job Workspace
  | .enter introduction => do
      Job.log .info "CoffeeLint LSP server initializing..."
      w.enter introduction.project? introduction.offer?
  | .note _ => return w
  | .noteFiles changes => do
      Job.log .debug ("Watched files changed: " ++ Session.changesText changes)
      if changes.any (·.writtenPath.isSettings) then do
        Job.log .info "Settings file changed, reloading..."
        w.reload
      else return w

/-- What a call does to the documents. -/
def Documents.serve (docs : Documents) : Call → Documents
  | .note event => (docs.apply event).1
  | .enter _ | .noteFiles _ => docs

namespace Session

/-! ## What a message calls for -/

/-- What a notification tells, if it is served. -/
def notice? {α : Type} (s : Session) (m : Message) (decode : Json.Decoder α) : Option α :=
  match s.phase, m.id?, paramsOf m decode with
  | .serving, none, .ok params => some params
  | _, _, _ => none

/-- The introduction of the editor, if it is accepted. -/
def introduction? (s : Session) (m : Message) : Option Introduction :=
  match s.phase, m.id?, paramsOf m Params.introduction with
  | .waiting, some _, .ok introduction => some introduction
  | _, _, _ => none

/-- What a value from the wire calls the session to. -/
def call? (s : Session) : Incoming → Option Call
  | .message m =>
      match Method.ofName m.method with
      | .enter => (s.introduction? m).map .enter
      | .opened => (s.notice? m Params.opened).map .note
      | .changed => (s.notice? m Params.changed).map .note
      | .saved => (s.notice? m Params.saved).map .note
      | .closed => (s.notice? m Params.closed).map .note
      | .filesChanged => (s.notice? m Params.fileChanges).map .noteFiles
      | _ => none
  | .reply | .malformed => none

/-! ## Linting -/

/-- The workspace and the documents are as they were. -/
structure Stays (before after : Session) : Prop where
  phase : after.phase = before.phase
  workspace : after.workspace = before.workspace
  documents : after.desk.documents = before.desk.documents

theorem Stays.refl (s : Session) : s.Stays s :=
  ⟨rfl, rfl, rfl⟩

theorem Stays.trans {s t u : Session} (first : s.Stays t) (later : t.Stays u) : s.Stays u where
  phase := later.phase.trans first.phase
  workspace := later.workspace.trans first.workspace
  documents := later.documents.trans first.documents

theorem complain_ends (s : Session) (message : String) :
    (s.complain message).Ends fun told => ∃ notifier, told.1 = { s with notifier } := by
  intro now
  show Job.Ends _ (if _ then _ else _)
  split
  · exact ⟨_, rfl⟩
  · exact fun _ => ⟨_, rfl⟩

theorem report_ends (s : Session) (v : Validation) (outcome : LintOutcome) :
    (s.report v outcome).Ends fun told => ∃ notifier, told.2.1 = { s with notifier } := by
  cases outcome with
  | annotated annotations => exact ⟨s.notifier, rfl⟩
  | skipped reason => exact fun _ => ⟨s.notifier, rfl⟩
  | failed message => exact (complain_ends s message).andThen fun told kept => kept

theorem conclude_keeps (s : Session) (diagnostics? : Option (List Diagnostic)) :
    s.Stays (s.conclude diagnostics?).1 ∧
      (s.conclude diagnostics?).1.desk.running = s.desk.running.eraseIdx 0 := by
  refine ⟨⟨rfl, rfl, s.desk.step_finish_documents 0 diagnostics?⟩, ?_⟩
  have rest := s.desk.step_running (.finish 0 diagnostics?)
  rwa [Desk.starting, List.append_nil] at rest

theorem validate_ends (s : Session) (v : Validation) :
    (s.validate v).Ends fun done =>
      s.Stays done.1 ∧ done.1.desk.running = s.desk.running.eraseIdx 0 := by
  unfold validate
  cases v.uri.filePath? with
  | none => exact fun _ _ => s.conclude_keeps none
  | some path =>
      intro _
      refine (Job.Ends.of_forall (fun _ => trivial) (s.lintText path v.text)).andThen ?_
      intro outcome _
      refine (s.report_ends v outcome).andThen ?_
      rintro ⟨diagnostics, t, sent⟩ ⟨notifier, same⟩
      subst same
      have kept := conclude_keeps { s with notifier } (some diagnostics)
      have other : s.Stays { s with notifier } := ⟨rfl, rfl, rfl⟩
      exact ⟨other.trans kept.1, kept.2⟩

theorem validateAll_ends (s : Session) (vs : List Validation) :
    (s.validateAll vs).Ends fun done =>
      s.Stays done.1 ∧ done.1.desk.running = s.desk.running.drop vs.length := by
  induction vs generalizing s with
  | nil => exact ⟨.refl s, rfl⟩
  | cons v rest ih =>
      refine (s.validate_ends v).andThen fun first kept => ?_
      refine (ih first.1).andThen fun others further => ?_
      refine ⟨kept.1.trans further.1, ?_⟩
      rw [further.2, kept.2, List.eraseIdx_zero, List.length_cons, List.drop_tail]

theorem work_ends (s : Session) :
    s.work.Ends fun done => s.Stays done.1 ∧ done.1.desk.running = [] := by
  have all := s.validateAll_ends s.desk.running
  rwa [List.drop_length] at all

/-! ## Turns without a call -/

theorem expire_ends (s : Session) (place due : Nat) :
    (s.expire place due).Ends fun done => s.Stays done.1 ∧ done.1.desk.running = [] := by
  let late := ({ s with now := max s.now due }).withDesk (s.desk.expire place)
  have same : s.Stays late := ⟨rfl, rfl, s.desk.step_expire_documents place⟩
  have worked : late.work.Ends fun done => s.Stays done.1 ∧ done.1.desk.running = [] :=
    late.work_ends.mono fun done kept => ⟨same.trans kept.1, kept.2⟩
  unfold expire
  simp only
  cases s.desk.timers[place]? with
  | none => exact worked
  | some timer =>
      simp only
      split
      · exact fun _ => worked
      · exact worked

theorem expireUntil_ends (limit count : Nat) (s : Session) :
    (expireUntil limit count s).Ends fun done =>
      s.Stays done.1 ∧ (s.desk.running = [] → done.1.desk.running = []) := by
  induction count generalizing s with
  | zero => exact ⟨.refl s, id⟩
  | succ count ih =>
      unfold expireUntil
      split
      · exact ⟨.refl s, id⟩
      · refine (s.expire_ends _ _).andThen fun first kept => ?_
        refine (ih first.1).andThen fun others further => ?_
        exact ⟨kept.1.trans further.1, fun _ => further.2 kept.2⟩

/-- The workspace and the documents are as they were, no work is left over, and nobody is
waited for anew. -/
structure Rests (before after : Session) : Prop where
  workspace : after.workspace = before.workspace
  documents : after.desk.documents = before.desk.documents
  idle : before.desk.running = [] → after.desk.running = []
  waiting : after.phase = .waiting → before.phase = .waiting

theorem Rests.refl (s : Session) : s.Rests s :=
  ⟨rfl, rfl, id, id⟩

theorem wait_ends (s : Session) (time : Nat) :
    (s.wait time).Ends fun done => s.Rests done.1 := by
  refine (expireUntil_ends _ _ s).andThen fun done kept => ?_
  exact ⟨kept.1.workspace, kept.1.documents, kept.2, fun waits => kept.1.phase.symm.trans waits⟩

/-! ## Turns with a call -/

/-- What is done before documents are linted again: the log is told, and where settings are
among the files, they are read anew. -/
def prepare (s : Session) (changes : List FileChange) : Job Session := do
  Job.log .debug ("Watched files changed: " ++ changesText changes)
  let s ←
    if changes.any (·.writtenPath.isSettings) then do
      Job.log .info "Settings file changed, reloading..."
      let workspace ← s.workspace.reload
      pure { s with workspace }
    else pure s
  if changes.any (·.writtenPath.isLintConfig) then Job.log .info "coffeelint.json changed"
  return s

/-- Linting depends on one of the files. -/
def concernsLinting (changes : List FileChange) : Bool :=
  changes.any (·.writtenPath.isSettings) || changes.any (·.writtenPath.isLintConfig)

theorem noteFiles_eq (s : Session) (changes : List FileChange) :
    s.noteFiles changes = (s.prepare changes).andThen fun s =>
      if concernsLinting changes then (s.withDesk s.desk.revalidate).work else .done (s, []) := by
  unfold noteFiles prepare concernsLinting
  cases changes.any (·.writtenPath.isSettings) with
  | false =>
      cases changes.any (·.writtenPath.isLintConfig) with
      | false => rfl
      | true => rfl
  | true =>
      cases changes.any (·.writtenPath.isLintConfig) with
      | false =>
          simp only [Job.bind_eq_andThen, if_true, Job.andThen_assoc]
          rfl
      | true =>
          simp only [Job.bind_eq_andThen, if_true, Job.andThen_assoc]
          rfl

theorem prepare_value {σ : Type} (serve : Job.Server σ) (host : σ) (s : Session)
    (changes : List FileChange) :
    ((s.prepare changes).run serve host).1
      = { s with workspace := ((s.workspace.serve (.noteFiles changes)).run serve host).1 } := by
  simp only [prepare, Workspace.serve, Job.bind_eq_andThen]
  cases changes.any (·.writtenPath.isSettings) with
  | false => cases changes.any (·.writtenPath.isLintConfig) <;> rfl
  | true =>
      simp only [if_true, Job.run_andThen]
      cases changes.any (·.writtenPath.isLintConfig) <;> rfl

/-- The rest of a turn about files keeps what `prepare` has made of the workspace. -/
theorem noteFiles_rest_ends (s : Session) (changes : List FileChange) :
    Job.Ends (fun done : Session × List Outgoing =>
        s.Stays done.1 ∧ (s.desk.running = [] → done.1.desk.running = []))
      (if concernsLinting changes then (s.withDesk s.desk.revalidate).work
        else .done (s, [])) := by
  split
  · refine (work_ends _).mono fun done kept => ?_
    have same : s.Stays (s.withDesk s.desk.revalidate) := ⟨rfl, rfl, rfl⟩
    exact ⟨same.trans kept.1, fun _ => kept.2⟩
  · exact ⟨.refl s, id⟩

/-- What the session does at a call, and what it sends. -/
def perform (s : Session) : Call → Job (Session × List Outgoing)
  | .enter introduction => do
      Job.log .info "CoffeeLint LSP server initializing..."
      let workspace ← s.workspace.enter introduction.project? introduction.offer?
      return ({ s with phase := .serving, workspace }, [])
  | .note event => s.note event
  | .noteFiles changes => s.noteFiles changes

/-- What a call leaves behind. -/
structure Serves (s : Session) (call : Call) (workspace : Workspace) (after : Session) : Prop where
  phase : after.phase = .serving
  workspace : after.workspace = workspace
  documents : after.desk.documents = s.desk.documents.serve call
  idle : s.desk.running = [] → after.desk.running = []

/-- The workspace after a call is as if nothing else was done at it. -/
theorem perform_serves {σ : Type} (serve : Job.Server σ) (host : σ) {s : Session} {call : Call}
    (ready : s.phase = call.phase) :
    s.Serves call ((s.workspace.serve call).run serve host).1
      ((s.perform call).run serve host).1.1 := by
  cases call with
  | enter introduction =>
      simp only [perform, Workspace.serve, Job.bind_eq_andThen, Job.run_andThen]
      exact ⟨rfl, rfl, rfl, id⟩
  | note event =>
      have noted : (s.note event).Ends fun done => s.Serves (.note event) s.workspace done.1 := by
        intro _
        refine (work_ends _).andThen fun done kept => ?_
        have documents := s.desk.step_event_documents s.now event
        exact ⟨kept.1.phase.trans ready, kept.1.workspace, kept.1.documents.trans documents,
          fun _ => kept.2⟩
      exact noted.value serve host
  | noteFiles changes =>
      rw [perform, noteFiles_eq, Job.run_andThen]
      have prepared := prepare_value serve host s changes
      have rest := (noteFiles_rest_ends ((s.prepare changes).run serve host).1 changes).value serve
        ((s.prepare changes).run serve host).2
      have kept := rest.1
      constructor
      · rw [kept.phase, prepared]
        exact ready
      · rw [kept.workspace, prepared]
      · rw [kept.documents, prepared]
        rfl
      · intro idle
        exact rest.2 (by rw [prepared]; exact idle)

/-! ## The turn of a message -/

theorem serveNotice_of_some {α : Type} {s : Session} {m : Message} {decode : Json.Decoder α}
    {params : α} (noticed : s.notice? m decode = some params)
    (act : α → Job (Session × List Outgoing)) :
    s.phase = .serving ∧
      s.serveNotice m decode act
        = (act params).andThen fun done => .done ⟨done.1, none, done.2⟩ := by
  unfold notice? at noticed
  unfold serveNotice
  split at noticed
  next phase id decoded =>
    cases noticed
    rw [if_pos phase, id, decoded]
    exact ⟨phase, rfl⟩
  next => cases noticed

theorem serveNotice_of_none {α : Type} {s : Session} {m : Message} {decode : Json.Decoder α}
    (dropped : s.notice? m decode = none) (act : α → Job (Session × List Outgoing)) :
    ∃ refusal, s.serveNotice m decode act = .done (s.refuse m refusal) := by
  unfold notice? at dropped
  unfold serveNotice
  split
  next phase =>
    split
    next params id decoded => simp [phase, id, decoded] at dropped
    next => exact ⟨_, rfl⟩
  next => exact ⟨_, rfl⟩

theorem enter_of_some {s : Session} {m : Message} {introduction : Introduction}
    (accepted : s.introduction? m = some introduction) :
    s.phase = .waiting ∧ ∃ response?, s.enter m
      = (s.perform (.enter introduction)).andThen fun done =>
          .done ⟨done.1, response?, done.2⟩ := by
  unfold introduction? at accepted
  split at accepted
  next id found phase given decoded =>
    cases accepted
    refine ⟨phase, some ⟨id, .ok abilities⟩, ?_⟩
    simp only [enter, perform, phase, given, decoded, if_true, Job.bind_eq_andThen,
      Job.andThen_assoc]
    rfl
  next => cases accepted

theorem receiveAny_of_some {s : Session} {incoming : Incoming} {call : Call}
    (called : s.call? incoming = some call) :
    s.phase = call.phase ∧ ∃ response?, (call.phase = .serving → response? = none) ∧
      s.receiveAny incoming
        = (s.perform call).andThen fun done => .done ⟨done.1, response?, done.2⟩ := by
  have noticed : ∀ {α : Type} {m : Message} {decode : Json.Decoder α} {name : α → Call},
      (s.notice? m decode).map name = some call →
        (∀ params, (name params).phase = .serving) →
          s.phase = call.phase ∧ ∃ response?, (call.phase = .serving → response? = none) ∧
            s.serveNotice m decode (s.perform ∘ name)
              = (s.perform call).andThen fun done => .done ⟨done.1, response?, done.2⟩ := by
    intro α m decode name called serving
    obtain ⟨params, noticed, rfl⟩ := Option.map_eq_some_iff.mp called
    obtain ⟨phase, same⟩ := serveNotice_of_some noticed (s.perform ∘ name)
    exact ⟨phase.trans (serving params).symm, none, fun _ => rfl, same⟩
  cases incoming with
  | reply => cases called
  | malformed => cases called
  | message m =>
      simp only [call?] at called
      simp only [receiveAny, receive]
      cases named : Method.ofName m.method with
      | enter =>
          simp only [named] at called
          obtain ⟨introduction, accepted, rfl⟩ := Option.map_eq_some_iff.mp called
          obtain ⟨waiting, response?, same⟩ := enter_of_some accepted
          exact ⟨waiting, response?, (fun serving => by cases serving), same⟩
      | opened =>
          simp only [named] at called
          exact noticed called fun _ => rfl
      | changed =>
          simp only [named] at called
          exact noticed called fun _ => rfl
      | saved =>
          simp only [named] at called
          exact noticed called fun _ => rfl
      | closed =>
          simp only [named] at called
          exact noticed called fun _ => rfl
      | filesChanged =>
          simp only [named] at called
          exact noticed called fun _ => rfl
      | _ =>
          simp only [named] at called
          cases called

theorem enter_of_none {s : Session} {m : Message} (declined : s.introduction? m = none) :
    (s.enter m).Ends fun turn => s.Rests turn.session := by
  have rests : s.Rests s := .refl s
  unfold introduction? at declined
  unfold enter
  split
  next phase =>
    split
    next => exact rests
    next => exact rests
    next id introduction given decoded => simp [phase, given, decoded] at declined
  next => exact rests

theorem leave_rests (s : Session) (m : Message) :
    (s.leave m).Ends fun turn => s.Rests turn.session := by
  have rests : s.Rests s := .refl s
  have left : s.Rests { s with phase := .leaving } :=
    ⟨rfl, rfl, id, fun waits => by cases waits⟩
  unfold leave
  split
  · simp only
    split
    · exact left
    · exact left
    · exact fun _ => left
  · exact rests

theorem serveNotice_ends {α : Type} {s : Session} {m : Message} {decode : Json.Decoder α}
    {act : α → Job (Session × List Outgoing)} {Q : Session → Prop} (same : Q s)
    (acted : ∀ params, (act params).Ends fun done => Q done.1) :
    (s.serveNotice m decode act).Ends fun turn => Q turn.session := by
  cases noticed : s.notice? m decode with
  | none =>
      obtain ⟨refusal, refused⟩ := serveNotice_of_none noticed act
      rw [refused]
      exact same
  | some params =>
      rw [(serveNotice_of_some noticed act).2]
      exact (acted params).andThen fun done kept => kept

theorem receiveAny_of_none {s : Session} {incoming : Incoming}
    (idle : s.call? incoming = none) :
    (s.receiveAny incoming).Ends fun turn => s.Rests turn.session := by
  have rests : s.Rests s := .refl s
  have dropped : ∀ {α : Type} {m : Message} {decode : Json.Decoder α} {name : α → Call}
      (act : α → Job (Session × List Outgoing)), (s.notice? m decode).map name = none →
        (s.serveNotice m decode act).Ends fun turn => s.Rests turn.session := by
    intro α m decode name act none
    obtain ⟨refusal, same⟩ := serveNotice_of_none (Option.map_eq_none_iff.mp none) act
    rw [same]
    exact rests
  cases incoming with
  | reply => exact rests
  | malformed => exact rests
  | message m =>
      simp only [call?] at idle
      simp only [receiveAny, receive]
      cases named : Method.ofName m.method with
      | enter =>
          simp only [named, Option.map_eq_none_iff] at idle
          exact enter_of_none idle
      | entered => exact serveNotice_ends rests fun _ => ⟨rfl, rfl, id, id⟩
      | leave => exact leave_rests s m
      | exit => exact ⟨rfl, rfl, id, fun waits => by cases waits⟩
      | opened =>
          simp only [named] at idle
          exact dropped _ idle
      | changed =>
          simp only [named] at idle
          exact dropped _ idle
      | saved =>
          simp only [named] at idle
          exact dropped _ idle
      | closed =>
          simp only [named] at idle
          exact dropped _ idle
      | filesChanged =>
          simp only [named] at idle
          exact dropped _ idle
      | unservedRequest params =>
          show Session.Rests s (s.declineRequest m params).session
          unfold declineRequest
          split
          · split <;> exact rests
          · exact rests
      | _ => exact rests

end Session

/-! ## Turns in which nothing is linted -/

def Outgoing.publication? : Outgoing → Option Publication
  | publish p => some p
  | warn _ | greet | watchFiles _ => none

/-- What the editor gets to see of what is sent. -/
def publications (sent : List Outgoing) : List Publication :=
  sent.filterMap (·.publication?)

namespace Session

/-- The turn leaves the desk and the files as they are, and publishes nothing. -/
def Quiet (s : Session) (turn : Job Turn) : Prop :=
  turn.Asks Request.Idles ∧
    turn.Ends fun turn => turn.session.desk = s.desk ∧ publications turn.sent = []

theorem quiet_refuse (s : Session) (m : Message) (refusal : Refusal) :
    s.Quiet (.done (s.refuse m refusal)) :=
  ⟨trivial, rfl, rfl⟩

theorem quiet_enter {s : Session} {m : Message} (declined : s.introduction? m = none) :
    s.Quiet (s.enter m) := by
  unfold introduction? at declined
  unfold enter
  split
  next phase =>
    split
    next => exact ⟨trivial, rfl, rfl⟩
    next => exact s.quiet_refuse m _
    next id introduction given decoded => simp [phase, given, decoded] at declined
  next => exact s.quiet_refuse m _

theorem quiet_leave (s : Session) (m : Message) : s.Quiet (s.leave m) := by
  unfold leave
  split
  · simp only
    split
    · exact ⟨trivial, rfl, rfl⟩
    · exact ⟨trivial, rfl, rfl⟩
    · exact ⟨⟨trivial, fun _ => trivial⟩, fun _ => ⟨rfl, rfl⟩⟩
  · exact s.quiet_refuse m _

theorem quiet_dropped {α : Type} {s : Session} {m : Message} {decode : Json.Decoder α}
    (dropped : s.notice? m decode = none) (act : α → Job (Session × List Outgoing)) :
    s.Quiet (s.serveNotice m decode act) := by
  obtain ⟨refusal, same⟩ := serveNotice_of_none dropped act
  rw [same]
  exact s.quiet_refuse m refusal

theorem quiet_entered (s : Session) (m : Message) :
    s.Quiet (s.serveNotice m (Params.unused "InitializedParams") fun () => return s.greet) := by
  cases noticed : s.notice? m (Params.unused "InitializedParams") with
  | none => exact quiet_dropped noticed _
  | some _ =>
      rw [(serveNotice_of_some noticed _).2]
      exact ⟨trivial, rfl, rfl⟩

theorem quiet_of_none {s : Session} {incoming : Incoming} (uncalled : s.call? incoming = none) :
    s.Quiet (s.receiveAny incoming) := by
  cases incoming with
  | reply => exact ⟨trivial, rfl, rfl⟩
  | malformed => exact ⟨trivial, rfl, rfl⟩
  | message m =>
      simp only [call?] at uncalled
      simp only [receiveAny, receive]
      cases named : Method.ofName m.method with
      | enter =>
          simp only [named, Option.map_eq_none_iff] at uncalled
          exact quiet_enter uncalled
      | entered => exact s.quiet_entered m
      | leave => exact s.quiet_leave m
      | exit => exact ⟨trivial, rfl, rfl⟩
      | opened =>
          simp only [named, Option.map_eq_none_iff] at uncalled
          exact quiet_dropped uncalled _
      | changed =>
          simp only [named, Option.map_eq_none_iff] at uncalled
          exact quiet_dropped uncalled _
      | saved =>
          simp only [named, Option.map_eq_none_iff] at uncalled
          exact quiet_dropped uncalled _
      | closed =>
          simp only [named, Option.map_eq_none_iff] at uncalled
          exact quiet_dropped uncalled _
      | filesChanged =>
          simp only [named, Option.map_eq_none_iff] at uncalled
          exact quiet_dropped uncalled _
      | unservedRequest params =>
          show s.Quiet (.done (s.declineRequest m params))
          unfold declineRequest
          split
          · split
            · exact s.quiet_refuse m _
            · exact s.quiet_refuse m _
          · exact s.quiet_refuse m _
      | optional => exact ⟨trivial, rfl, rfl⟩
      | _ => exact s.quiet_refuse m _

theorem report_idles (s : Session) (v : Validation) (outcome : LintOutcome) :
    (s.report v outcome).Asks Request.Idles := by
  cases outcome with
  | annotated annotations => trivial
  | skipped reason => exact Job.Asks.andThen (Job.asks_request trivial) fun _ => trivial
  | failed message =>
      refine Job.Asks.andThen ?_ fun _ => trivial
      refine Job.Asks.andThen (Job.asks_request trivial) fun now => ?_
      show Job.Asks _ (if _ then _ else _)
      split
      · trivial
      · exact Job.Asks.andThen (Job.asks_request trivial) fun _ => trivial

end Session

end LintBridge.Editor
