import LintBridge.Proofs.Editor.Reloading

/-!
# What is linted again

When a file changes on which linting depends, every open document is linted again, as the
editor told of it last.  Which documents these are, and with which text and version, can be
told from the events alone: a document is put on the desk when it is opened or changed, its
text is replaced when it is saved, and it leaves the desk when it is closed.
-/

set_option autoImplicit false

namespace LintBridge.Editor

/-! ## Events and the documents that they leave open -/

namespace DocumentEvent

/-- The document that the event puts on the desk, whether one was there or not. -/
def puts? (uri : Uri) : DocumentEvent → Option OpenDocument
  | .opened other text version => if other = uri then some ⟨text, version⟩ else none
  | .changed other version texts =>
      if other = uri then texts.getLast?.map fun text => ⟨text, version⟩ else none
  | .saved _ _ | .closed _ => none

def closes (uri : Uri) : DocumentEvent → Bool
  | .closed other => other = uri
  | .opened _ _ _ | .changed _ _ _ | .saved _ _ => false

/-- The text that the document is saved with, if it is told. -/
def savedText? (uri : Uri) : DocumentEvent → Option String
  | .saved other text? => if other = uri then text? else none
  | .opened _ _ _ | .changed _ _ _ | .closed _ => none

end DocumentEvent

/-- The last event that puts or closes the document puts it there, under this version, and
the text is the one that it was saved with last since then, or else the one of the event. -/
def LeavesOpen (events : List DocumentEvent) (uri : Uri) (doc : OpenDocument) : Prop :=
  ∃ before event told after, events = before ++ event :: after ∧
    event.puts? uri = some told ∧
    (∀ later ∈ after, later.puts? uri = none ∧ later.closes uri = false) ∧
    doc.version = told.version ∧
    doc.text = ((after.filterMap (·.savedText? uri)).getLast?).getD told.text

namespace Documents

/-- The documents after events, one after the other. -/
def afterAll (docs : Documents) (events : List DocumentEvent) : Documents :=
  events.foldl (fun docs event => (docs.apply event).1) docs

theorem find?_apply (docs : Documents) (event : DocumentEvent) (uri : Uri) :
    (docs.apply event).1.find? uri =
      if event.closes uri then none
      else (event.puts? uri).or
        ((docs.find? uri).map fun doc =>
          { doc with text := (event.savedText? uri).getD doc.text }) := by
  cases event with
  | opened other text version =>
      by_cases same : other = uri <;>
        simp [apply, find?_put, DocumentEvent.closes, DocumentEvent.puts?,
          DocumentEvent.savedText?, same]
  | changed other version texts =>
      cases last : texts.getLast? with
      | none =>
          by_cases same : other = uri <;>
            simp [apply, DocumentEvent.closes, DocumentEvent.puts?, DocumentEvent.savedText?,
              last, same]
      | some text =>
          by_cases same : other = uri <;>
            simp [apply, find?_put, DocumentEvent.closes, DocumentEvent.puts?,
              DocumentEvent.savedText?, last, same]
  | saved other text? =>
      cases text? with
      | none =>
          cases found : docs.find? other <;>
            simp [apply, DocumentEvent.closes, DocumentEvent.puts?, DocumentEvent.savedText?,
              found]
      | some text =>
          by_cases same : other = uri
          · subst same
            cases found : docs.find? other <;>
              simp [apply, find?_put, DocumentEvent.closes, DocumentEvent.puts?,
                DocumentEvent.savedText?, found]
          · cases found : docs.find? other <;>
              simp [apply, find?_put, DocumentEvent.closes, DocumentEvent.puts?,
                DocumentEvent.savedText?, found, same]
  | closed other =>
      by_cases same : other = uri <;>
        simp [apply, find?_drop, DocumentEvent.closes, DocumentEvent.puts?,
          DocumentEvent.savedText?, same]

end Documents

theorem leavesOpen_concat {events : List DocumentEvent} {event : DocumentEvent} {uri : Uri}
    {doc : OpenDocument} :
    LeavesOpen (events ++ [event]) uri doc ↔
      event.puts? uri = some doc ∨
        event.puts? uri = none ∧ event.closes uri = false ∧ ∃ old, LeavesOpen events uri old ∧
          doc = { old with text := (event.savedText? uri).getD old.text } := by
  constructor
  · rintro ⟨before, first, told, after, split, puts, quiet, version, text⟩
    rcases List.eq_nil_or_concat after with rfl | ⟨rest, last, rfl⟩
    · obtain ⟨-, same⟩ := List.append_inj' split rfl
      cases same
      have whole : doc = told := by
        cases doc
        cases told
        simp_all
      exact .inl (whole ▸ puts)
    · rw [List.concat_eq_append] at split quiet text
      rw [← List.cons_append, ← List.append_assoc] at split
      obtain ⟨rfl, same⟩ := List.append_inj' split rfl
      cases same
      obtain ⟨unput, unclosed⟩ := quiet event (by simp)
      refine .inr ⟨unput, unclosed, ⟨((rest.filterMap (·.savedText? uri)).getLast?).getD told.text,
        told.version⟩, ?_, ?_⟩
      · exact ⟨before, first, told, rest, rfl, puts,
          fun later member => quiet later (List.mem_append_left _ member), rfl, rfl⟩
      · cases doc
        cases saved : event.savedText? uri <;> simp_all
  · rintro (puts | ⟨unput, unclosed, old, ⟨before, first, told, after, rfl, puts, quiet, version,
      text⟩, rfl⟩)
    · exact ⟨events, event, doc, [], rfl, puts, by simp, rfl, rfl⟩
    · refine ⟨before, first, told, after ++ [event], by simp, puts, ?_, version, ?_⟩
      · intro later member
        rcases List.mem_append.mp member with earlier | here
        · exact quiet later earlier
        · rw [List.mem_singleton.mp here]
          exact ⟨unput, unclosed⟩
      · cases saved : event.savedText? uri <;> simp [saved, text]

theorem find?_afterAll {events : List DocumentEvent} {uri : Uri} {doc : OpenDocument} :
    (Documents.empty.afterAll events).find? uri = some doc ↔ LeavesOpen events uri doc := by
  induction events using List.reverseRecOn generalizing doc with
  | nil =>
      constructor
      · intro found
        cases found
      · rintro ⟨before, event, told, after, split, -⟩
        simp at split
  | append_singleton events event ih =>
      rw [leavesOpen_concat, Documents.afterAll, List.foldl_append]
      simp only [List.foldl_cons, List.foldl_nil, Documents.find?_apply]
      rw [Documents.afterAll] at ih
      cases closes : event.closes uri with
      | true =>
          have unput : event.puts? uri = none := by
            cases event <;> simp_all [DocumentEvent.closes, DocumentEvent.puts?]
          simp [unput]
      | false =>
          cases puts : event.puts? uri with
          | some told => simp [eq_comm]
          | none =>
              simp only [Bool.false_eq_true, if_false, Option.none_or, Option.map_eq_some_iff, ih]
              simp [eq_comm]

/-! ## The documents of a session -/

variable {σ : Type}

/-- What the editor has told of documents. -/
def eventsOf (moments : List (Moment σ)) : List DocumentEvent :=
  moments.filterMap (·.call.event?)

theorem Scene.documents_after (serve : Job.Server σ) (given? : Option LintSettings) (host : σ)
    (course : List (Happening σ)) :
    let first := Scene.start given? host
    let desk := (first.after serve course).session.desk
    desk.documents = Documents.empty.afterAll (eventsOf (first.moments serve course)) ∧
      desk.running = [] := by
  intro first desk
  let Holds : List (Moment σ) → Session → Prop := fun moments s =>
    s.desk.documents = Documents.empty.afterAll (eventsOf moments) ∧ s.desk.running = []
  refine @Scene.holds_after σ serve first Holds ⟨rfl, rfl⟩ ?_ ?_ course
  · rintro moments ⟨call, host⟩ s t ⟨documents, idle⟩ - serves
    refine ⟨?_, serves.idle idle⟩
    rw [serves.documents, documents]
    cases call <;>
      simp [Documents.serve, Documents.afterAll, Call.event?, eventsOf, List.filterMap_append]
  · intro moments s t holds rests
    exact ⟨rests.documents.trans holds.1, rests.idle holds.2⟩

namespace Documents

theorem Distinct.afterAll {docs : Documents} (distinct : docs.Distinct)
    (events : List DocumentEvent) : (docs.afterAll events).Distinct := by
  induction events generalizing docs with
  | nil => exact distinct
  | cons event rest ih => exact ih (distinct.apply event)

theorem Distinct.mem_entries_iff {docs : Documents} (distinct : docs.Distinct) {uri : Uri}
    {doc : OpenDocument} : (uri, doc) ∈ docs.entries ↔ docs.find? uri = some doc := by
  constructor
  · exact distinct.find?_eq_some
  · intro found
    obtain ⟨⟨key, held⟩, there, rfl⟩ := Option.map_eq_some_iff.mp found
    have same : key = uri := by simpa using List.find?_some there
    exact same ▸ List.mem_of_find?_eq_some there

/-- The validations of all documents are those of the documents that are found. -/
theorem mem_validations_iff {docs : Documents} (distinct : docs.Distinct) {v : Validation} :
    v ∈ docs.validations ↔
      ∃ doc, docs.find? v.uri = some doc ∧ v.text = doc.text ∧ v.version? = some doc.version := by
  simp only [validations, List.mem_map, Prod.exists]
  constructor
  · rintro ⟨uri, doc, member, rfl⟩
    exact ⟨doc, distinct.mem_entries_iff.mp member, rfl, rfl⟩
  · rintro ⟨doc, found, text, version⟩
    refine ⟨v.uri, doc, distinct.mem_entries_iff.mpr found, ?_⟩
    obtain ⟨uri, said, told?⟩ := v
    simp only at text version
    rw [text, version]

end Documents

/-! ## One change of files -/

namespace Session

/-- With validations under way. -/
def starting (s : Session) (vs : List Validation) : Session :=
  s.withDesk { s.desk with running := vs }

theorem prepare_ends (s : Session) (changes : List FileChange) :
    (s.prepare changes).Ends fun t => t.desk = s.desk := by
  have reloads : s.workspace.reload.Ends fun _ => True := .of_forall (fun _ => trivial) _
  intro _
  simp only [Job.bind_eq_andThen]
  cases changes.any (·.writtenPath.isLintConfig) with
  | false =>
      split
      · exact fun _ => reloads.andThen fun _ _ => rfl
      · rfl
  | true =>
      split
      · exact fun _ => reloads.andThen fun _ _ _ => rfl
      · exact fun _ => rfl

/-- What is linted again after a change of files. -/
def revalidated (s : Session) (changes : List FileChange) : List Validation :=
  if concernsLinting changes then s.desk.documents.validations else []

/-- The turn of a change of files, if nothing else is under way. -/
theorem receiveAny_of_files {s : Session} {incoming : Incoming} {changes : List FileChange}
    (called : (s.call? incoming).bind (·.changes?) = some changes)
    (idle : s.desk.running = []) :
    s.receiveAny incoming = (s.prepare changes).andThen fun t =>
      ((t.starting (s.revalidated changes)).validateAll (s.revalidated changes)).andThen
        fun done => .done ⟨done.1, none, done.2⟩ := by
  obtain ⟨call, found, told⟩ := Option.bind_eq_some_iff.mp called
  cases call with
  | enter introduction => cases told
  | note event => cases told
  | noteFiles told_changes =>
      cases told
      obtain ⟨-, response?, quiet, same⟩ := receiveAny_of_some found
      rw [same, quiet rfl, perform, noteFiles_eq, Job.andThen_assoc]
      refine (s.prepare_ends changes).andThen_congr fun t kept => ?_
      unfold revalidated
      cases concernsLinting changes with
      | true =>
          simp only [if_true, work, starting, withDesk, Desk.revalidate, kept, idle,
            List.nil_append]
      | false =>
          have same : t.starting [] = t := by
            rw [starting, withDesk, ← idle, ← kept]
          simp only [Bool.false_eq_true, if_false, validateAll, same]
          rfl

end Session

/-- When the editor tells of files, and one of their addresses is written with the name of a
file on which linting depends, every document that the events so far leave open is linted
again once, with the text and the version that they leave it, and nothing else is; before
that, settings are read anew if one of the names is theirs.  Otherwise nothing is linted and
nothing is read.  Saving opens no document and changes no version. -/
theorem open_documents_revalidated (serve : Job.Server σ) (given? : Option LintSettings)
    (host : σ) (course : List (Happening σ)) {incoming : Incoming} {changes : List FileChange}
    (called : (((Scene.start given? host).after serve course).session.call? incoming).bind
      (·.changes?) = some changes) :
    let first := Scene.start given? host
    let scene := first.after serve course
    let s := scene.session
    let events := eventsOf (first.moments serve course)
    ∃ vs : List Validation,
      (vs.map (·.uri)).Nodup ∧
      (∀ v, v ∈ vs ↔ Session.concernsLinting changes = true ∧
        ∃ doc, LeavesOpen events v.uri doc ∧ v.text = doc.text ∧
          v.version? = some doc.version) ∧
      s.receiveAny incoming = ((s.prepare changes).andThen fun t =>
        ((t.starting vs).validateAll vs).andThen fun done => .done ⟨done.1, none, done.2⟩) ∧
      ((s.prepare changes).run serve scene.host).1 =
        { s with
          workspace :=
            if changes.any (·.writtenPath.isSettings) then
              s.workspace.reloaded
                ((⟨.noteFiles changes, scene.host⟩ : Moment σ).found serve)
            else s.workspace } ∧
      ∀ uri text? other,
        (s.desk.documents.apply (.saved uri text?)).1.version? other
          = s.desk.documents.version? other := by
  intro first scene s events
  obtain ⟨documents, idle⟩ := Scene.documents_after serve given? host course
  have distinct : s.desk.documents.Distinct := by
    rw [documents]
    exact Documents.distinct_empty.afterAll events
  refine ⟨s.revalidated changes, ?_, ?_, Session.receiveAny_of_files called idle, ?_, ?_⟩
  · unfold Session.revalidated
    split
    · rw [Documents.validations, List.map_map]
      exact distinct
    · exact List.nodup_nil
  · intro v
    have told : ∀ doc, s.desk.documents.find? v.uri = some doc ↔ LeavesOpen events v.uri doc := by
      intro doc
      rw [documents]
      exact find?_afterAll
    unfold Session.revalidated
    cases Session.concernsLinting changes with
    | true => simp [Documents.mem_validations_iff distinct, told]
    | false => simp
  · have read := @Moment.workspace_eq σ serve ⟨.noteFiles changes, scene.host⟩ s.workspace
    rw [Moment.workspace] at read
    rw [Session.prepare_value, read]
    rfl
  · intro uri text? other
    rw [Desk.version?_apply _ 0]
    simp [Move.latest?, Move.closes, Move.told?]

/-- The editor opens a document. -/
def opening : Incoming :=
  let document : Json := .ofMembers
    [("languageId", .string "coffeescript"), ("text", .string "x = 1"),
      ("uri", .string "file:///p/a.coffee"), ("version", .ofNat 3)]
  .message
    { method := "textDocument/didOpen"
      params? := some (.ofMembers [("textDocument", document)])
      id? := none }

def openedUri : Uri :=
  ⟨"file", some "", none, "/p/a.coffee", none, none⟩

/-- The linter's configuration in the project, as an address names it. -/
def configAt (path : String) : FileChange :=
  ⟨⟨"file", some "", none, path, none, none⟩, 1⟩

theorem config_change_revalidates :
    let serve := Machine.serveWith fun _ _ _ _ => .error .notFound
    let scene := (Scene.start none bareMachine).after serve [.told introducing, .told opening]
    let incoming := telling "file:///p/coffeelint.json"
    let s := scene.session
    let changes := [configAt "/p/coffeelint.json"]
    ∃ vs : List Validation, ⟨openedUri, "x = 1", some 3⟩ ∈ vs ∧
      s.receiveAny incoming = ((s.prepare changes).andThen fun t =>
        ((t.starting vs).validateAll vs).andThen fun done => .done ⟨done.1, none, done.2⟩) := by
  intro serve scene incoming s changes
  have called : (s.call? incoming).bind (·.changes?) = some changes := by decide +kernel
  obtain ⟨vs, -, members, same, -⟩ := open_documents_revalidated serve none bareMachine
    [.told introducing, .told opening] called
  refine ⟨vs, (members _).mpr ⟨by decide +kernel, ⟨"x = 1", 3⟩, ?_, rfl, rfl⟩, same⟩
  exact find?_afterAll.mp (by decide +kernel)

/-- The editor tells of the configuration under an address with an escaped dot, which names
the same file, and the document that is open is not linted again. -/
theorem escaped_config_unnoticed :
    let serve := Machine.serveWith fun _ _ _ _ => .error .notFound
    let scene := (Scene.start none bareMachine).after serve [.told introducing, .told opening]
    let change := configAt "/p/coffeelint%2Ejson"
    let incoming := telling change.uri.text
    (scene.session.call? incoming).bind (·.changes?) = some [change] ∧
      change.uri.filePath? = (configAt "/p/coffeelint.json").uri.filePath? ∧
      (change.uri.filePath?.any (·.isLintConfig)) = true ∧
      (scene.session.desk.documents.find? openedUri).isSome = true ∧
      ((scene.session.receiveAny incoming).run serve scene.host).1.sent = [] ∧
      (scene.talk serve (.told incoming)).length = 1 := by
  decide +kernel

end LintBridge.Editor
