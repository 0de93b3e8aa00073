import Mathlib.Data.List.Induction
import LintBridge.Proofs.Editor.Client

/-!
# Postponed edits

A change waits for its document to rest.  `follow` keeps sight of the timer of one change
through all that happens meanwhile.  When the timer runs out, the change is validated if
the document is still at its version.  In an editing session that is a sign that the
change is still the latest one.  It is none after the document was closed and opened
again, since the versions may then start again: the old text would be validated for the
new document.
-/

set_option autoImplicit false

namespace LintBridge.Editor

namespace Move

/-- The editor closes the document. -/
def closes (uri : Uri) : Move → Bool
  | .event _ (.closed other) => other = uri
  | _ => false

/-- The editor gives the document a text under the version. -/
def tells (uri : Uri) (version : Int32) : Move → Bool
  | .event _ (.opened other _ told) => other = uri && told = version
  | .event _ (.changed other told texts) => other = uri && told = version && !texts.isEmpty
  | _ => false

theorem closes_iff {uri : Uri} {move : Move} :
    move.closes uri = true ↔ ∃ now, move = .event now (.closed uri) := by
  cases move with
  | event now event => cases event <;> simp [closes]
  | expire place => simp [closes]
  | revalidate => simp [closes]
  | finish place diagnostics? => simp [closes]

end Move

/-- The document is closed, and then gets a text under the version again. -/
def toldAgain (uri : Uri) (version : Int32) (moves : List Move) : Bool :=
  (moves.dropWhile fun move => !move.closes uri).any (·.tells uri version)

/-- Where the timer at a place is after the moves, if it has not run out. -/
def follow : Nat → List Move → Option Nat
  | place, [] => some place
  | place, .expire other :: rest =>
      if other = place then none
      else follow (if other < place then place - 1 else place) rest
  | place, _ :: rest => follow place rest

theorem follow_append (place : Nat) (moves later : List Move) :
    follow place (moves ++ later) = (follow place moves).bind (follow · later) := by
  induction moves generalizing place with
  | nil => rfl
  | cons move rest ih =>
      cases move with
      | event now event => exact ih place
      | expire other =>
          simp only [List.cons_append, follow]
          split
          · rfl
          · exact ih _
      | revalidate => exact ih place
      | finish other diagnostics? => exact ih place

/-! ## One timer -/

namespace Desk

variable {desk : Desk}

theorem expire_timers (desk : Desk) (place : Nat) :
    (desk.expire place).timers = desk.timers.eraseIdx place := by
  simp only [expire]
  split
  next absent => rw [List.eraseIdx_of_length_le (List.getElem?_eq_none_iff.1 absent)]
  next => split <;> rfl

theorem finish_timers (desk : Desk) (place : Nat) (diagnostics? : Option (List Diagnostic)) :
    (desk.finish place diagnostics?).1.timers = desk.timers := by
  simp only [finish]
  split <;> rfl

theorem note_timers (desk : Desk) (now : Nat) (event : DocumentEvent) :
    (desk.note now event).1.timers = desk.timers ∨
      ∃ uri version texts text, event = .changed uri version texts ∧ texts.getLast? = some text ∧
        (desk.note now event).1.timers =
          desk.timers ++ [⟨now + restTime, ⟨uri, text, version⟩⟩] := by
  cases event with
  | opened uri text version => exact .inl rfl
  | changed uri version texts =>
      cases last : texts.getLast? with
      | none => simp [note, Documents.apply, last]
      | some text => exact .inr ⟨uri, version, texts, text, rfl, last, by
          simp [note, Documents.apply, last]⟩
  | saved uri text? =>
      left
      cases text? with
      | none =>
          cases there : desk.documents.find? uri <;> simp [note, Documents.apply, there, start]
      | some text =>
          cases there : desk.documents.find? uri <;> simp [note, Documents.apply, there, start]
  | closed uri => exact .inl rfl

/-- A validation that a timer starts is that of its edit, which is then current. -/
theorem eq_validation_of_expire {place : Nat} {timer : Timer}
    (waits : desk.timers[place]? = some timer) {v : Validation}
    (starts : (desk.expire place).running = desk.running ++ [v]) :
    v = timer.edit.validation ∧ desk.documents.isAt timer.edit.uri timer.edit.version = true := by
  simp only [expire, waits] at starts
  split at starts
  next current =>
    simp only [start, List.append_cancel_left_eq, List.cons.injEq, and_true] at starts
    exact ⟨starts.symm, current⟩
  next =>
    have shorter := congrArg List.length starts
    simp at shorter

theorem timer_follow {moves : List Move} {place last : Nat} {timer : Timer}
    (waits : desk.timers[place]? = some timer) (followed : follow place moves = some last) :
    (desk.run moves).1.timers[last]? = some timer := by
  induction moves generalizing desk place with
  | nil =>
      simp only [follow, Option.some.injEq] at followed
      subst followed
      exact waits
  | cons move rest ih =>
      cases move with
      | event now event =>
          have inside := (List.getElem?_eq_some_iff.1 waits).1
          refine ih ?_ followed
          simp only [step]
          rcases desk.note_timers now event with same | ⟨_, _, _, _, -, -, same⟩
          · rw [same, waits]
          · rw [same, List.getElem?_append_left inside, waits]
      | expire other =>
          simp only [follow] at followed
          split at followed
          · cases followed
          next apart =>
            refine ih ?_ followed
            simp only [step]
            rw [expire_timers, List.getElem?_eraseIdx]
            by_cases before : other < place
            · have later : ¬ place - 1 < other := by omega
              have back : place - 1 + 1 = place := by omega
              rw [if_pos before, if_neg later, back]
              exact waits
            · have earlier : place < other := by omega
              rw [if_neg before, if_pos earlier]
              exact waits
      | revalidate => exact ih waits followed
      | finish other diagnostics? =>
          refine ih ?_ followed
          simp only [step]
          rw [finish_timers]
          exact waits

end Desk

/-! ## One document -/

namespace Documents

/-- The document is open, with the text under the version or with a later version. -/
def Edited (docs : Documents) (told : Told) (uri : Uri) (text : String) (version : Int32) : Prop :=
  ∃ doc held, told uri = some doc ∧ docs.find? uri = some held ∧
    (held.version = version ∧ held.text = text ∨ version < held.version)

variable {docs : Documents} {told : Told} {uri : Uri} {text : String} {version : Int32}

theorem isAt_iff :
    docs.isAt uri version = true ↔ ∃ held, docs.find? uri = some held ∧ held.version = version := by
  simp only [isAt]
  cases docs.find? uri <;> simp

theorem Edited.eq_text (edited : docs.Edited told uri text version)
    (current : docs.isAt uri version = true) :
    docs.find? uri = some ⟨text, version⟩ := by
  obtain ⟨-, held, -, there, kept⟩ := edited
  obtain ⟨same, found, atVersion⟩ := isAt_iff.1 current
  cases there.symm.trans found
  rcases kept with ⟨-, rfl⟩ | later
  · rw [there, ← atVersion]
  · exact absurd atVersion.symm (Int32.ne_of_lt later)

theorem Edited.apply (edited : docs.Edited told uri text version) (follows : docs.Follows told)
    {event : DocumentEvent} (permitted : told.permits event = true)
    (stays : event ≠ .closed uri) :
    (docs.apply event).1.Edited (told.after event) uri text version := by
  obtain ⟨doc, held, known, there, kept⟩ := edited
  by_cases elsewhere : event.uri ≠ uri
  · refine ⟨doc, held, ?_, ?_, kept⟩
    · rw [told.after_other elsewhere, known]
    · rw [docs.find?_apply_other elsewhere, there]
  · have here : event.uri = uri := Decidable.not_not.1 elsewhere
    subst here
    obtain ⟨same, found, sameText, older⟩ := follows.opened event.uri doc known
    cases there.symm.trans found
    cases event with
    | opened other newText newVersion =>
        have known : told other = some doc := known
        simp [Told.permits, known] at permitted
    | changed other newVersion texts =>
        have known : told other = some doc := known
        simp only [Told.permits, known, Option.any_some, decide_eq_true_eq] at permitted
        have grows : held.version < newVersion := Int32.lt_of_le_of_lt older permitted
        refine ⟨⟨texts.getLast?.getD doc.text, newVersion⟩, ?_⟩
        simp only [Documents.apply, Told.after, known, Option.map_some]
        cases texts.getLast? with
        | none => exact ⟨held, told.put_self other _, there, kept⟩
        | some newText =>
            refine ⟨_, told.put_self other _, docs.find?_put_self other _, .inr ?_⟩
            rcases kept with ⟨rfl, -⟩ | later
            · exact grows
            · exact Int32.lt_trans later grows
    | saved other text? =>
        cases text? with
        | none =>
            have there : docs.find? other = some held := there
            refine ⟨doc, held, known, ?_, kept⟩
            simp only [Documents.apply, there]
            exact there
        | some newText =>
            have known : told other = some doc := known
            have there : docs.find? other = some held := there
            simp only [Told.permits, known, Option.all_some, decide_eq_true_eq] at permitted
            have again : newText = held.text := permitted.symm.trans sameText.symm
            refine ⟨doc, held, known, ?_, kept⟩
            simp only [Documents.apply, there, again]
            exact docs.find?_put_self other held
    | closed other => exact absurd rfl stays

theorem isAt_apply (lacks : docs.isAt uri version = false) {now : Nat} {event : DocumentEvent}
    (silent : Move.tells uri version (.event now event) = false) :
    (docs.apply event).1.isAt uri version = false := by
  by_cases elsewhere : event.uri ≠ uri
  · rw [isAt, docs.find?_apply_other elsewhere]
    exact lacks
  · have here : event.uri = uri := Decidable.not_not.1 elsewhere
    cases event with
    | opened other text told =>
        cases here
        have differs : told ≠ version := by simpa [Move.tells, DocumentEvent.uri] using silent
        simpa [Documents.apply, isAt, DocumentEvent.uri, find?_put_self] using differs
    | changed other told texts =>
        cases here
        simp only [Documents.apply]
        cases last : texts.getLast? with
        | none => exact lacks
        | some text =>
            have some_text : texts ≠ [] := by
              rintro rfl
              cases last
            have differs : told ≠ version := by
              simpa [Move.tells, DocumentEvent.uri, some_text] using silent
            simpa [isAt, DocumentEvent.uri, find?_put_self] using differs
    | saved other text? =>
        cases here
        cases text? with
        | none =>
            simp only [Documents.apply]
            split <;> exact lacks
        | some text =>
            simp only [Documents.apply]
            split
            next doc there =>
              simpa [isAt, DocumentEvent.uri, find?_put_self, there] using lacks
            next => exact lacks
    | closed other =>
        cases here
        simp [Documents.apply, isAt, DocumentEvent.uri, find?_drop_self]

theorem isAt_drop : (docs.drop uri).isAt uri version = false := by
  simp [isAt, find?_drop_self]

end Documents

/-! ## A whole session -/

namespace Desk

variable {desk : Desk} {told : Told} {uri : Uri} {text : String} {version : Int32}
  {moves : List Move}

theorem isAt_step (lacks : desk.documents.isAt uri version = false) {move : Move}
    (silent : move.tells uri version = false) :
    (desk.step move).1.documents.isAt uri version = false := by
  cases move with
  | event now event => simpa using Documents.isAt_apply lacks silent
  | expire place => simpa using lacks
  | revalidate => exact lacks
  | finish place diagnostics? => simpa using lacks

theorem isAt_run (lacks : desk.documents.isAt uri version = false)
    (silent : moves.any (·.tells uri version) = false) :
    (desk.run moves).1.documents.isAt uri version = false := by
  induction moves generalizing desk with
  | nil => exact lacks
  | cons move rest ih =>
      rw [List.any_cons, Bool.or_eq_false_iff] at silent
      exact ih (isAt_step lacks silent.1) silent.2

theorem edited_step (edited : desk.documents.Edited told uri text version)
    (follows : desk.documents.Follows told) {move : Move} (allowed : told.allows move = true)
    (stays : move.closes uri = false) :
    (desk.step move).1.documents.Edited (told.next move) uri text version := by
  cases move with
  | event now event =>
      have other : event ≠ .closed uri := by
        rintro rfl
        simp [Move.closes] at stays
      simpa [Told.next] using edited.apply follows allowed other
  | expire place => simpa [Told.next] using edited
  | revalidate => exact edited
  | finish place diagnostics? => simpa [Told.next] using edited

theorem toldAgain_cons_of_closes {move : Move} (closing : move.closes uri = true) :
    toldAgain uri version (move :: moves) = (move :: moves).any (·.tells uri version) := by
  rw [toldAgain, List.dropWhile_cons_of_neg (by simp [closing])]

theorem toldAgain_cons {move : Move} (stays : move.closes uri = false) :
    toldAgain uri version (move :: moves) = toldAgain uri version moves := by
  rw [toldAgain, List.dropWhile_cons_of_pos (by simp [stays]), toldAgain]

/-- Without a close the document stays as edited, and after one its version is gone. -/
theorem edited_run (edited : desk.documents.Edited told uri text version)
    (follows : desk.documents.Follows told) (conforming : conforms told moves = true)
    (once : toldAgain uri version moves = false) :
    (desk.run moves).1.documents.Edited (told.afterAll moves) uri text version ∧
        (∀ move ∈ moves, move.closes uri = false) ∨
      (desk.run moves).1.documents.isAt uri version = false := by
  induction moves generalizing desk told with
  | nil => exact .inl ⟨edited, fun _ absent => absurd absent List.not_mem_nil⟩
  | cons move rest ih =>
      cases closing : move.closes uri with
      | true =>
          right
          rw [toldAgain_cons_of_closes closing, List.any_cons, Bool.or_eq_false_iff] at once
          have gone : (desk.step move).1.documents.isAt uri version = false := by
            obtain ⟨now, rfl⟩ := Move.closes_iff.1 closing
            rw [step_event_documents]
            exact Documents.isAt_drop
          have silent := isAt_run gone once.2
          exact silent
      | false =>
          rw [toldAgain_cons closing] at once
          rw [conforms, Bool.and_eq_true] at conforming
          rcases ih (edited_step edited follows conforming.1 closing)
            (step_follows follows conforming.1) conforming.2 once with ⟨kept, apart⟩ | lacks
          · exact .inl ⟨kept, List.forall_mem_cons.2 ⟨closing, apart⟩⟩
          · exact .inr lacks

/-- The timer of a change starts the validation of that change only, and only while its text
is the document's and the document has stayed open; except where the document was closed and
then got the version again. -/
theorem postponed_validation_current {before after : List Move} {now : Nat} {uri : Uri}
    {version : Int32} {texts : List String} {text : String} {place : Nat} {v : Validation}
    (conforming : conforms .nothing (before ++ .event now (.changed uri version texts) :: after))
    (last : texts.getLast? = some text)
    (waits : follow (empty.run before).1.timers.length after = some place)
    (once : toldAgain uri version after = false) :
    let desk := (empty.run (before ++ .event now (.changed uri version texts) :: after)).1
    (desk.expire place).running = desk.running ++ [v] →
      v = ⟨uri, text, some version⟩ ∧ desk.documents.find? uri = some ⟨text, version⟩ ∧
        ∀ move ∈ after, move.closes uri = false := by
  intro desk starts
  let change : Move := .event now (.changed uri version texts)
  let start := (empty.run before).1
  let told := Told.nothing.afterAll before
  rw [conforms_append, conforms, Bool.and_eq_true, Bool.and_eq_true] at conforming
  obtain ⟨conformingBefore, allowed, conformingAfter⟩ := conforming
  have desk_eq : desk = ((start.step change).1.run after).1 := run_append empty before _
  have followsBefore : start.documents.Follows told :=
    run_follows Documents.follows_empty conformingBefore
  -- the change has set its timer at the end, and put its text into the document
  have set : (start.step change).1.timers[start.timers.length]? =
      some ⟨now + restTime, ⟨uri, text, version⟩⟩ := by
    simp [change, step, note, Documents.apply, last]
  have edited : (start.step change).1.documents.Edited (told.next change) uri text version := by
    obtain ⟨doc, known, -⟩ : ∃ doc, told uri = some doc ∧ doc.version < version := by
      simpa [change, told, Told.allows, Told.permits, Option.any_eq_true] using allowed
    refine ⟨⟨text, version⟩, ⟨text, version⟩, ?_, ?_, .inl ⟨rfl, rfl⟩⟩
    · simp [change, Told.next, Told.after, Told.put_self, known, last]
    · simp [change, Documents.apply, last, Documents.find?_put_self]
  have waiting := timer_follow set waits
  rw [← desk_eq] at waiting
  obtain ⟨rfl, current⟩ := eq_validation_of_expire waiting starts
  refine ⟨rfl, ?_⟩
  rcases edited_run edited (step_follows followsBefore allowed) conformingAfter once with
    ⟨kept, apart⟩ | lacks
  · rw [← desk_eq] at kept
    exact ⟨kept.eq_text current, apart⟩
  · rw [← desk_eq, current] at lacks
    cases lacks

/-- Another document is opened and a text is saved while the timer waits. -/
theorem latest_change_validated :
    let page : Uri := ⟨"file", none, none, "/a.coffee", none, none⟩
    let other : Uri := ⟨"file", none, none, "/b.coffee", none, none⟩
    let before := [.event 0 (.opened page "a" 1), .event 5 (.changed page 2 ["b"]),
      .event 9 (.opened other "o" 7)]
    let after := [.expire 0, .event 40 (.saved page (some "c")), .finish 0 none, .revalidate]
    let moves := before ++ .event 30 (.changed page 4 ["", "c"]) :: after
    let desk := (empty.run moves).1
    conforms .nothing moves = true ∧ follow (empty.run before).1.timers.length after = some 0 ∧
      toldAgain page 4 after = false ∧ desk.documents.find? page = some ⟨"c", 4⟩ ∧
        (desk.expire 0).running = desk.running ++ [⟨page, "c", some 4⟩] := by
  intro page other before after moves desk
  have conforming : conforms .nothing moves = true := by decide
  have waits : follow (empty.run before).1.timers.length after = some 0 := by decide
  have once : toldAgain page 4 after = false := by decide
  have starts : (desk.expire 0).running = desk.running ++ [⟨page, "c", some 4⟩] := by decide
  obtain ⟨-, there, -⟩ := postponed_validation_current conforming rfl waits once starts
  exact ⟨conforming, waits, once, there, starts⟩

/-- The document is closed and opened again while the timer waits. -/
theorem reopened_validation_stale :
    let page : Uri := ⟨"file", none, none, "/a.coffee", none, none⟩
    let before := [.event 0 (.opened page "a" 1)]
    let after := [.event 40 (.closed page), .event 60 (.opened page "c" 2)]
    let moves := before ++ .event 20 (.changed page 2 ["b"]) :: after
    let desk := (empty.run moves).1
    conforms .nothing moves = true ∧ follow (empty.run before).1.timers.length after = some 0 ∧
      desk.documents.find? page = some ⟨"c", 2⟩ ∧
        (desk.expire 0).running = desk.running ++ [⟨page, "b", some 2⟩] := by
  decide

end Desk

end LintBridge.Editor
