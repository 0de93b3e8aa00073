import LintBridge.Editor.Desk

/-!
# What an editor keeps to

An editor opens a document before it tells of it, lets the version grow with every change
until the document is closed, and saves the text that it told last.  `Told` is what it has
told so far.  The server's documents follow it: they hold the same texts, under a version
that may be older where a change came without a text.
-/

set_option autoImplicit false

namespace LintBridge.Editor

/-- The document that the editor tells of. -/
def DocumentEvent.uri : DocumentEvent → Uri
  | .opened uri _ _ | .changed uri _ _ | .saved uri _ | .closed uri => uri

/-! ## Looking up documents -/

namespace Documents

@[simp] theorem find?_empty (uri : Uri) : empty.find? uri = none := rfl

theorem find?_put (docs : Documents) (uri other : Uri) (doc : OpenDocument) :
    (docs.put uri doc).find? other = if uri = other then some doc else docs.find? other := by
  obtain ⟨entries⟩ := docs
  simp only [put, find?]
  induction entries with
  | nil => by_cases same : uri = other <;> simp [putIn, same]
  | cons entry rest ih =>
      obtain ⟨key, old⟩ := entry
      by_cases here : key = uri
      · subst here
        by_cases same : key = other <;> simp [putIn, same]
      · by_cases found : key = other
        · subst found
          have differs : uri ≠ key := fun same => here same.symm
          simp [putIn, here, differs]
        · simp only [putIn, here, if_false, List.find?_cons, found, decide_false]
          exact ih

theorem find?_drop (docs : Documents) (uri other : Uri) :
    (docs.drop uri).find? other = if uri = other then none else docs.find? other := by
  simp only [drop, find?, List.find?_filter]
  by_cases same : uri = other
  · subst same
    simp
  · have differs : ∀ entry : Uri × OpenDocument,
        (entry.1 ≠ uri ∧ entry.1 = other) ↔ entry.1 = other := by
      intro entry
      constructor
      · exact fun both => both.2
      · intro found
        exact ⟨fun back => same (back.symm.trans found), found⟩
    simp [same, differs]

theorem find?_put_self (docs : Documents) (uri : Uri) (doc : OpenDocument) :
    (docs.put uri doc).find? uri = some doc := by
  rw [find?_put, if_pos rfl]

theorem find?_put_other (docs : Documents) {uri other : Uri} (differs : uri ≠ other)
    (doc : OpenDocument) : (docs.put uri doc).find? other = docs.find? other := by
  rw [find?_put, if_neg differs]

theorem find?_drop_self (docs : Documents) (uri : Uri) : (docs.drop uri).find? uri = none := by
  rw [find?_drop, if_pos rfl]

theorem find?_drop_other (docs : Documents) {uri other : Uri} (differs : uri ≠ other) :
    (docs.drop uri).find? other = docs.find? other := by
  rw [find?_drop, if_neg differs]

theorem find?_apply_other (docs : Documents) {event : DocumentEvent} {uri : Uri}
    (elsewhere : event.uri ≠ uri) : (docs.apply event).1.find? uri = docs.find? uri := by
  cases event with
  | opened other text version => exact docs.find?_put_other elsewhere _
  | changed other version texts =>
      simp only [apply]
      split
      · rfl
      · exact docs.find?_put_other elsewhere _
  | saved other text? =>
      cases text? with
      | none =>
          simp only [apply]
          split <;> rfl
      | some text =>
          simp only [apply]
          split
          · exact docs.find?_put_other elsewhere _
          · rfl
  | closed other => exact docs.find?_drop_other elsewhere

end Documents

/-! ## The editor's side -/

/-- What the editor has told last of the documents that it has open. -/
abbrev Told := Uri → Option OpenDocument

namespace Told

def nothing : Told := fun _ => none

def put (told : Told) (uri : Uri) (doc? : Option OpenDocument) : Told :=
  fun other => if uri = other then doc? else told other

theorem put_self (told : Told) (uri : Uri) (doc? : Option OpenDocument) :
    told.put uri doc? uri = doc? := by
  simp [put]

theorem put_other (told : Told) {uri other : Uri} (differs : uri ≠ other)
    (doc? : Option OpenDocument) : told.put uri doc? other = told other := by
  simp [put, differs]

theorem put_known (told : Told) (uri : Uri) : told.put uri (told uri) = told := by
  funext other
  by_cases same : uri = other <;> simp [put, same]

/-- The editor may tell of the event. -/
def permits (told : Told) : DocumentEvent → Bool
  | .opened uri _ _ => (told uri).isNone
  | .changed uri version _ => (told uri).any (·.version < version)
  | .saved uri (some text) => (told uri).all (·.text = text)
  | .saved _ none | .closed _ => true

def after (told : Told) : DocumentEvent → Told
  | .opened uri text version => told.put uri (some ⟨text, version⟩)
  | .changed uri version texts =>
      told.put uri ((told uri).map fun doc => ⟨texts.getLast?.getD doc.text, version⟩)
  | .saved _ _ => told
  | .closed uri => told.put uri none

theorem after_other (told : Told) {event : DocumentEvent} {uri : Uri}
    (elsewhere : event.uri ≠ uri) : told.after event uri = told uri := by
  cases event with
  | opened other text version => exact told.put_other elsewhere _
  | changed other version texts => exact told.put_other elsewhere _
  | saved other text? => rfl
  | closed other => exact told.put_other elsewhere _

def allows (told : Told) : Move → Bool
  | .event _ event => told.permits event
  | _ => true

def next (told : Told) : Move → Told
  | .event _ event => told.after event
  | _ => told

def afterAll (told : Told) (moves : List Move) : Told :=
  moves.foldl next told

end Told

/-- An editor that has told so much may let these moves happen. -/
def conforms : Told → List Move → Bool
  | _, [] => true
  | told, move :: rest => told.allows move && conforms (told.next move) rest

theorem conforms_append (told : Told) (before after : List Move) :
    conforms told (before ++ after) =
      (conforms told before && conforms (told.afterAll before) after) := by
  induction before generalizing told with
  | nil => rfl
  | cons move rest ih =>
      simp only [List.cons_append, conforms, ih, Bool.and_assoc]
      rfl

/-! ## The server's side -/

namespace Documents

/-- The documents hold what the editor has told. -/
structure Follows (docs : Documents) (told : Told) : Prop where
  closed : ∀ uri, told uri = none → docs.find? uri = none
  opened : ∀ uri doc, told uri = some doc →
    ∃ held, docs.find? uri = some held ∧ held.text = doc.text ∧ held.version ≤ doc.version

theorem follows_empty : empty.Follows .nothing where
  closed _ _ := rfl
  opened _ _ found := by cases found

section

variable {docs : Documents} {told : Told}

theorem Follows.put (follows : docs.Follows told) (uri : Uri) {held doc : OpenDocument}
    (sameText : held.text = doc.text) (older : held.version ≤ doc.version) :
    (docs.put uri held).Follows (told.put uri (some doc)) where
  closed other untold := by
    by_cases same : uri = other
    · subst same
      rw [Told.put_self] at untold
      cases untold
    · rw [Told.put_other told same] at untold
      rw [docs.find?_put_other same]
      exact follows.closed other untold
  opened other known found := by
    by_cases same : uri = other
    · subst same
      rw [Told.put_self] at found
      cases found
      exact ⟨held, docs.find?_put_self uri held, sameText, older⟩
    · rw [Told.put_other told same] at found
      rw [docs.find?_put_other same]
      exact follows.opened other known found

theorem Follows.drop (follows : docs.Follows told) (uri : Uri) :
    (docs.drop uri).Follows (told.put uri none) where
  closed other untold := by
    by_cases same : uri = other
    · subst same
      exact docs.find?_drop_self uri
    · rw [Told.put_other told same] at untold
      rw [docs.find?_drop_other same]
      exact follows.closed other untold
  opened other known found := by
    by_cases same : uri = other
    · subst same
      rw [Told.put_self] at found
      cases found
    · rw [Told.put_other told same] at found
      rw [docs.find?_drop_other same]
      exact follows.opened other known found

/-- An empty change makes the editor's version grow and not the server's. -/
theorem Follows.raise (follows : docs.Follows told) (uri : Uri) {doc : OpenDocument}
    (known : told uri = some doc) {version : Int32} (grows : doc.version < version) :
    docs.Follows (told.put uri (some ⟨doc.text, version⟩)) where
  closed other untold := by
    by_cases same : uri = other
    · subst same
      rw [Told.put_self] at untold
      cases untold
    · rw [Told.put_other told same] at untold
      exact follows.closed other untold
  opened other later found := by
    by_cases same : uri = other
    · subst same
      rw [Told.put_self] at found
      cases found
      obtain ⟨held, there, sameText, older⟩ := follows.opened uri doc known
      exact ⟨held, there, sameText, Int32.le_trans older (Int32.le_of_lt grows)⟩
    · rw [Told.put_other told same] at found
      exact follows.opened other later found

theorem Follows.apply (follows : docs.Follows told) {event : DocumentEvent}
    (permitted : told.permits event = true) :
    (docs.apply event).1.Follows (told.after event) := by
  cases event with
  | opened uri text version => exact follows.put uri rfl (Int32.le_refl version)
  | changed uri version texts =>
      simp only [Told.permits, Option.any_eq_true, decide_eq_true_eq] at permitted
      obtain ⟨doc, known, grows⟩ := permitted
      simp only [Told.after, known, Option.map_some, Documents.apply]
      cases last : texts.getLast? with
      | none => exact follows.raise uri known grows
      | some text => exact follows.put uri rfl (Int32.le_refl version)
  | saved uri text? =>
      cases text? with
      | none =>
          simp only [Documents.apply]
          cases docs.find? uri <;> exact follows
      | some text =>
          simp only [Documents.apply]
          cases known : told uri with
          | none =>
              rw [follows.closed uri known]
              exact follows
          | some doc =>
              obtain ⟨held, there, -, older⟩ := follows.opened uri doc known
              have sameText : doc.text = text := by simpa [Told.permits, known] using permitted
              rw [there]
              have kept :=
                follows.put uri (show (⟨text, held.version⟩ : OpenDocument).text = doc.text from
                  sameText.symm) older
              rwa [← known, Told.put_known] at kept
  | closed uri => exact follows.drop uri

end

end Documents

namespace Desk

@[simp] theorem step_event_documents (desk : Desk) (now : Nat) (event : DocumentEvent) :
    (desk.step (.event now event)).1.documents = (desk.documents.apply event).1 := by
  simp only [step, note]
  split <;> rfl

@[simp] theorem step_expire_documents (desk : Desk) (place : Nat) :
    (desk.step (.expire place)).1.documents = desk.documents := by
  simp only [step, expire]
  split
  · rfl
  · split <;> rfl

@[simp] theorem step_revalidate_documents (desk : Desk) :
    (desk.step .revalidate).1.documents = desk.documents := rfl

@[simp] theorem step_finish_documents (desk : Desk) (place : Nat)
    (diagnostics? : Option (List Diagnostic)) :
    (desk.step (.finish place diagnostics?)).1.documents = desk.documents := by
  simp only [step, finish]
  split <;> rfl

theorem run_append (desk : Desk) (before after : List Move) :
    (desk.run (before ++ after)).1 = ((desk.run before).1.run after).1 := by
  induction before generalizing desk with
  | nil => rfl
  | cons move rest ih => exact ih (desk.step move).1

theorem step_follows {desk : Desk} {told : Told} (follows : desk.documents.Follows told)
    {move : Move} (allowed : told.allows move = true) :
    (desk.step move).1.documents.Follows (told.next move) := by
  cases move with
  | event now event => simpa [Told.next] using follows.apply allowed
  | expire place => simpa [Told.next] using follows
  | revalidate => exact follows
  | finish place diagnostics? => simpa [Told.next] using follows

theorem run_follows {desk : Desk} {told : Told} {moves : List Move}
    (follows : desk.documents.Follows told) (conforming : conforms told moves = true) :
    (desk.run moves).1.documents.Follows (told.afterAll moves) := by
  induction moves generalizing desk told with
  | nil => exact follows
  | cons move rest ih =>
      rw [conforms, Bool.and_eq_true] at conforming
      exact ih (step_follows follows conforming.1) conforming.2

end Desk

end LintBridge.Editor
