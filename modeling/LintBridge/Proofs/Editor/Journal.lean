import Mathlib.Data.List.InsertIdx
import LintBridge.Proofs.Editor.Postponed

/-!
# The order of publications

A validation may finish long after it was started, and other moves come in between.  The
journal of a run has, for each publication, the place of the move that made it and the place
of the move that started its validation.  Nothing looks at a document again when a
validation finishes: what is published is as old as the start.  The starts themselves are in
order, as long as the versions of a document grow while it is open.
-/

set_option autoImplicit false

namespace LintBridge.Editor

namespace Move

/-- The version under which the document gets a text. -/
def told? (uri : Uri) : Move → Option Int32
  | .event _ (.opened other _ version) => if other = uri then some version else none
  | .event _ (.changed other version texts) =>
      if other = uri && !texts.isEmpty then some version else none
  | _ => none

/-- The version of the document after the move, if it is known then. -/
def latest? (uri : Uri) (before? : Option Int32) (move : Move) : Option Int32 :=
  if move.closes uri then none else (move.told? uri).or before?

def remaining {α : Type} (list : List α) : Move → List α
  | .finish place _ => list.eraseIdx place
  | _ => list

end Move

/-- The version of the document after moves, if it is known then. -/
def versionAfter (uri : Uri) (before? : Option Int32) (moves : List Move) : Option Int32 :=
  moves.foldl (fun known? move => move.latest? uri known?) before?

/-- The versions of the document grow until it is closed. -/
def grows (uri : Uri) : Option Int32 → List Move → Bool
  | _, [] => true
  | before?, move :: rest =>
      (move.told? uri).all (fun version => before?.all (· < version))
        && grows uri (move.latest? uri before?) rest

/-- The moves behind one place, up to another one. -/
def span (moves : List Move) (first last : Nat) : List Move :=
  (moves.take (last + 1)).drop (first + 1)

/-- A publication, the place of the move that started its validation, and the place of the
move that made it.  The clearing of a document is made at once. -/
structure Entry where
  since : Nat
  made : Nat
  publication : Publication
  deriving DecidableEq, Repr

/-- A validation that is under way, and the place of the move that started it. -/
structure Begun where
  since : Nat
  validation : Validation
  deriving DecidableEq, Repr

namespace Move

/-- What a move at a place adds to the journal. -/
def entries (place : Nat) (begun : List Begun) : Move → List Entry
  | .finish at_ (some diagnostics) =>
      begun[at_]?.toList.map fun b =>
        ⟨b.since, place, ⟨b.validation.uri, b.validation.version?, diagnostics⟩⟩
  | .event _ (.closed uri) => [⟨place, place, ⟨uri, none, []⟩⟩]
  | _ => []

end Move

namespace Desk

def starting (desk : Desk) : Move → List Validation
  | .event _ event =>
      match (desk.documents.apply event).2 with
      | .validate v => [v]
      | _ => []
  | .expire place =>
      match desk.timers[place]? with
      | some timer => if desk.isCurrent timer.edit then [timer.edit.validation] else []
      | none => []
  | .revalidate => desk.documents.validations
  | .finish _ _ => []

def begunAfter (desk : Desk) (place : Nat) (begun : List Begun) (move : Move) : List Begun :=
  move.remaining begun ++ (desk.starting move).map fun v => ⟨place, v⟩

def journalFrom (desk : Desk) (place : Nat) (begun : List Begun) : List Move → List Entry
  | [] => []
  | move :: rest =>
      move.entries place begun
        ++ journalFrom (desk.step move).1 (place + 1) (desk.begunAfter place begun move) rest

def journal (moves : List Move) : List Entry :=
  empty.journalFrom 0 [] moves

/-! ## The journal is of the run -/

theorem step_running (desk : Desk) (move : Move) :
    (desk.step move).1.running = move.remaining desk.running ++ desk.starting move := by
  cases move with
  | event now event =>
      simp only [step, note, starting, Move.remaining]
      split <;> simp_all [start]
  | expire place =>
      simp only [step, expire, starting, Move.remaining]
      cases desk.timers[place]? with
      | none => simp
      | some timer =>
          cases current : desk.isCurrent timer.edit <;>
            simp_all [isCurrent, start]
  | revalidate => rfl
  | finish place diagnostics? =>
      simp only [step, finish, starting, Move.remaining, List.append_nil]
      split
      next absent => rw [List.eraseIdx_of_length_le (List.getElem?_eq_none_iff.1 absent)]
      next => rfl

theorem note_publications (desk : Desk) (now : Nat) (event : DocumentEvent) :
    (desk.note now event).2 =
      match event with
      | .closed uri => [⟨uri, none, []⟩]
      | _ => [] := by
  cases event with
  | opened uri text version => rfl
  | changed uri version texts =>
      cases last : texts.getLast? <;> simp [note, Documents.apply, last]
  | saved uri text? =>
      cases text? <;> cases found : desk.documents.find? uri <;>
        simp [note, Documents.apply, found]
  | closed uri => rfl

theorem step_publications (desk : Desk) (move : Move) (place : Nat) {begun : List Begun}
    (known : begun.map (·.validation) = desk.running) :
    (move.entries place begun).map (·.publication) = (desk.step move).2 := by
  cases move with
  | event now event =>
      rw [step, note_publications]
      cases event <;> rfl
  | expire at_ => rfl
  | revalidate => rfl
  | finish at_ diagnostics? =>
      simp only [step, finish, ← known, List.getElem?_map]
      cases diagnostics? <;> cases found : begun[at_]? <;> simp [Move.entries, found]

theorem begunAfter_validations (desk : Desk) (place : Nat) {begun : List Begun} (move : Move)
    (known : begun.map (·.validation) = desk.running) :
    (desk.begunAfter place begun move).map (·.validation) = (desk.step move).1.running := by
  have stays : (move.remaining begun).map (·.validation) = move.remaining desk.running := by
    cases move with
    | finish at_ diagnostics? =>
        rw [Move.remaining, Move.remaining, ← known, List.eraseIdx_map]
    | event now event => exact known
    | expire at_ => exact known
    | revalidate => exact known
  simp [begunAfter, step_running, stays, Function.comp_def]

theorem journalFrom_publications {desk : Desk} {begun : List Begun} (moves : List Move)
    (place : Nat) (known : begun.map (·.validation) = desk.running) :
    (desk.journalFrom place begun moves).map (·.publication) = (desk.run moves).2 := by
  induction moves generalizing desk place begun with
  | nil => rfl
  | cons move rest ih =>
      rw [journalFrom, List.map_append, step_publications desk move place known,
        ih (place + 1) (begunAfter_validations desk place move known)]
      rfl

theorem journal_publications (moves : List Move) :
    (journal moves).map (·.publication) = (empty.run moves).2 :=
  journalFrom_publications moves 0 rfl

/-! ## Where the entries come from -/

/-- The move at the place starts the validation. -/
def Starts (moves : List Move) (place : Nat) (v : Validation) : Prop :=
  ∃ move, moves[place]? = some move ∧ v ∈ (empty.run (moves.take place)).1.starting move

/-- What is known of an entry of the journal. -/
inductive Arises (moves : List Move) : Entry → Prop where
  | cleared {place now : Nat} {uri : Uri}
      (here : moves[place]? = some (.event now (.closed uri))) :
      Arises moves ⟨place, place, ⟨uri, none, []⟩⟩
  | validated {since made : Nat} {v : Validation} (diagnostics : List Diagnostic)
      (starts : Starts moves since v) (earlier : since < made) :
      Arises moves ⟨since, made, ⟨v.uri, v.version?, diagnostics⟩⟩

/-- All that is under way was started before a place. -/
def Backed (moves : List Move) (place : Nat) (begun : List Begun) : Prop :=
  ∀ b ∈ begun, Starts moves b.since b.validation ∧ b.since < place

theorem mem_of_mem_remaining {α : Type} {list : List α} {move : Move} {a : α}
    (member : a ∈ move.remaining list) : a ∈ list := by
  cases move with
  | finish place diagnostics? => exact List.mem_of_mem_eraseIdx member
  | event now event => exact member
  | expire place => exact member
  | revalidate => exact member

theorem Backed.step {before rest : List Move} {move : Move} {begun : List Begun}
    (backed : Backed (before ++ move :: rest) before.length begun) :
    Backed (before ++ move :: rest) (before.length + 1)
      ((empty.run before).1.begunAfter before.length begun move) := by
  intro b member
  rcases List.mem_append.mp member with stays | comes
  · obtain ⟨starts, earlier⟩ := backed b (mem_of_mem_remaining stays)
    exact ⟨starts, Nat.lt_succ_of_lt earlier⟩
  · obtain ⟨v, starting, rfl⟩ := List.mem_map.mp comes
    refine ⟨⟨move, by simp, ?_⟩, Nat.lt_succ_self _⟩
    simpa using starting

theorem arises_of_mem_entries {before rest : List Move} {move : Move} {begun : List Begun}
    (backed : Backed (before ++ move :: rest) before.length begun) {entry : Entry}
    (member : entry ∈ move.entries before.length begun) :
    Arises (before ++ move :: rest) entry := by
  cases move with
  | event now event =>
      cases event with
      | closed uri =>
          rw [Move.entries, List.mem_singleton] at member
          subst member
          have here : (before ++ .event now (.closed uri) :: rest)[before.length]?
              = some (.event now (.closed uri)) := by simp
          exact .cleared here
      | opened uri text version => cases member
      | changed uri version texts => cases member
      | saved uri text? => cases member
  | expire place => cases member
  | revalidate => cases member
  | finish place diagnostics? =>
      cases diagnostics? with
      | none => cases member
      | some diagnostics =>
          obtain ⟨b, found, rfl⟩ := List.mem_map.mp member
          have there := List.mem_of_getElem? (Option.mem_toList.mp found)
          obtain ⟨starts, earlier⟩ := backed b there
          exact .validated diagnostics starts earlier

theorem arises_of_mem_journalFrom {before : List Move} {begun : List Begun} (moves : List Move)
    (backed : Backed (before ++ moves) before.length begun) {entry : Entry}
    (member : entry ∈ (empty.run before).1.journalFrom before.length begun moves) :
    Arises (before ++ moves) entry := by
  -- Moves go over to `before` one by one, so the places stay those of the whole run.
  induction moves generalizing before begun with
  | nil => cases member
  | cons move rest ih =>
      rcases List.mem_append.mp member with now | later
      · exact arises_of_mem_entries backed now
      · have further := @ih (before ++ [move])
          ((empty.run before).1.begunAfter before.length begun move)
        simp only [List.append_assoc, List.singleton_append, List.length_append,
          List.length_singleton, run_append] at further
        exact further backed.step later

theorem arises_of_mem_journal {moves : List Move} {entry : Entry}
    (member : entry ∈ journal moves) : Arises moves entry := by
  have backed : Backed ([] ++ moves) 0 [] := fun _ absent => absurd absent List.not_mem_nil
  exact arises_of_mem_journalFrom moves backed member

end Desk

/-! ## The versions of a document -/

namespace Documents

def version? (docs : Documents) (uri : Uri) : Option Int32 :=
  (docs.find? uri).map (·.version)

def Distinct (docs : Documents) : Prop :=
  (docs.entries.map (·.1)).Nodup

theorem distinct_empty : empty.Distinct := List.nodup_nil

variable {docs : Documents}

theorem keys_putIn (uri : Uri) (doc : OpenDocument) (entries : List (Uri × OpenDocument)) :
    (putIn uri doc entries).map (·.1) =
      if uri ∈ entries.map (·.1) then entries.map (·.1) else entries.map (·.1) ++ [uri] := by
  induction entries with
  | nil => rfl
  | cons entry rest ih =>
      obtain ⟨key, old⟩ := entry
      by_cases here : key = uri
      · simp [putIn, here]
      · have apart : uri ≠ key := fun same => here same.symm
        rw [putIn, if_neg here, List.map_cons, ih]
        by_cases known : uri ∈ rest.map (·.1) <;> simp_all

theorem Distinct.put (distinct : docs.Distinct) (uri : Uri) (doc : OpenDocument) :
    (docs.put uri doc).Distinct := by
  rw [Distinct, Documents.put, keys_putIn]
  split
  next => exact distinct
  next absent =>
    rw [List.nodup_append]
    refine ⟨distinct, by simp, ?_⟩
    intro key member other alone
    rw [List.mem_singleton] at alone
    subst alone
    exact ne_of_mem_of_not_mem member absent

theorem Distinct.drop (distinct : docs.Distinct) (uri : Uri) : (docs.drop uri).Distinct :=
  distinct.sublist (List.filter_sublist.map _)

theorem Distinct.apply (distinct : docs.Distinct) (event : DocumentEvent) :
    (docs.apply event).1.Distinct := by
  cases event with
  | opened uri text version => exact distinct.put ..
  | changed uri version texts =>
      simp only [Documents.apply]
      split
      · exact distinct
      · exact distinct.put ..
  | saved uri text? =>
      cases text? with
      | none =>
          simp only [Documents.apply]
          split <;> exact distinct
      | some text =>
          simp only [Documents.apply]
          split
          · exact distinct.put ..
          · exact distinct
  | closed uri => exact distinct.drop uri

theorem Distinct.find?_eq_some (distinct : docs.Distinct) {uri : Uri} {doc : OpenDocument}
    (member : (uri, doc) ∈ docs.entries) : docs.find? uri = some doc := by
  obtain ⟨entries⟩ := docs
  simp only [Distinct] at distinct
  simp only [find?]
  induction entries with
  | nil => cases member
  | cons entry rest ih =>
      obtain ⟨key, old⟩ := entry
      rw [List.map_cons, List.nodup_cons] at distinct
      rcases List.mem_cons.mp member with here | later
      · cases here
        simp
      · have apart : key ≠ uri := by
          rintro rfl
          exact distinct.1 (List.mem_map.mpr ⟨_, later, rfl⟩)
        rw [List.find?_cons_of_neg (by simpa using apart)]
        exact ih distinct.2 later

end Documents

namespace Desk

variable {desk : Desk} {uri : Uri}

theorem distinct_step (distinct : desk.documents.Distinct) (move : Move) :
    (desk.step move).1.documents.Distinct := by
  cases move with
  | event now event => simpa using distinct.apply event
  | expire place => simpa using distinct
  | revalidate => exact distinct
  | finish place diagnostics? => simpa using distinct

theorem distinct_run (distinct : desk.documents.Distinct) (moves : List Move) :
    (desk.run moves).1.documents.Distinct := by
  induction moves generalizing desk with
  | nil => exact distinct
  | cons move rest ih => exact ih (distinct_step distinct move)

theorem version?_apply (docs : Documents) (now : Nat) (event : DocumentEvent) (uri : Uri) :
    (docs.apply event).1.version? uri
      = (Move.event now event).latest? uri (docs.version? uri) := by
  cases event with
  | opened other text version =>
      by_cases same : other = uri <;>
        simp [Documents.apply, Documents.version?, Documents.find?_put, Move.latest?, Move.closes,
          Move.told?, same]
  | changed other version texts =>
      cases last : texts.getLast? with
      | none =>
          rw [List.getLast?_eq_none_iff] at last
          simp [Documents.apply, Move.latest?, Move.closes, Move.told?, last]
      | some text =>
          have some_text : texts ≠ [] := by
            rintro rfl
            cases last
          by_cases same : other = uri <;>
            simp [Documents.apply, Documents.version?, Documents.find?_put, Move.latest?,
              Move.closes, Move.told?, last, some_text, same]
  | saved other text? =>
      have silent : (Move.event now (.saved other text?)).latest? uri (docs.version? uri)
          = docs.version? uri := by
        simp [Move.latest?, Move.closes, Move.told?]
      rw [silent]
      cases text? with
      | none => cases found : docs.find? other <;> simp [Documents.apply, found]
      | some text =>
          cases found : docs.find? other with
          | none => simp [Documents.apply, found]
          | some doc =>
              by_cases same : other = uri
              · subst same
                simp [Documents.apply, Documents.version?, Documents.find?_put, found]
              · simp [Documents.apply, Documents.version?, Documents.find?_put, found, same]
  | closed other =>
      by_cases same : other = uri <;>
        simp [Documents.apply, Documents.version?, Documents.find?_drop, Move.latest?,
          Move.closes, Move.told?, same]

theorem step_version? (desk : Desk) (move : Move) (uri : Uri) :
    (desk.step move).1.documents.version? uri = move.latest? uri (desk.documents.version? uri) := by
  cases move with
  | event now event => rw [step_event_documents, version?_apply _ now]
  | expire place => simp [Move.latest?, Move.closes, Move.told?]
  | revalidate => simp [Move.latest?, Move.closes, Move.told?]
  | finish place diagnostics? => simp [Move.latest?, Move.closes, Move.told?]

/-- How a move starts a validation: of a text that it tells, or of a document that is open. -/
inductive Start (desk : Desk) : Move → Validation → Prop where
  | opened (now : Nat) (uri : Uri) (text : String) (version : Int32) :
      Start desk (.event now (.opened uri text version)) ⟨uri, text, some version⟩
  | saved (now : Nat) (uri : Uri) (text : String) :
      Start desk (.event now (.saved uri (some text))) ⟨uri, text, desk.documents.version? uri⟩
  | known {move : Move} {uri : Uri} {version : Int32} (text : String)
      (silent : ∀ before?, move.latest? uri before? = before?)
      (there : desk.documents.version? uri = some version) :
      Start desk move ⟨uri, text, some version⟩

theorem start_of_mem_starting (distinct : desk.documents.Distinct) {move : Move}
    {v : Validation} (starts : v ∈ desk.starting move) : desk.Start move v := by
  cases move with
  | event now event =>
      cases event with
      | opened other text version =>
          obtain rfl : v = ⟨other, text, some version⟩ := by
            simpa [starting, Documents.apply] using starts
          exact .opened now other text version
      | changed other version texts =>
          cases last : texts.getLast? <;> simp [starting, Documents.apply, last] at starts
      | saved other text? =>
          cases text? with
          | none =>
              cases found : desk.documents.find? other <;>
                simp only [starting, Documents.apply, found, List.mem_singleton,
                  List.not_mem_nil] at starts
              subst starts
              exact .known _ (by simp [Move.latest?, Move.closes, Move.told?])
                (by simp [Documents.version?, found])
          | some text =>
              have same : v = ⟨other, text, desk.documents.version? other⟩ := by
                cases found : desk.documents.find? other <;>
                  simpa [starting, Documents.apply, Documents.version?, found] using starts
              subst same
              exact .saved now other text
      | closed other => simp [starting, Documents.apply] at starts
  | expire place =>
      simp only [starting] at starts
      split at starts
      next timer waits =>
        split at starts
        next current =>
          rw [List.mem_singleton] at starts
          subst starts
          obtain ⟨held, there, same⟩ := Documents.isAt_iff.1 current
          exact .known _ (by simp [Move.latest?, Move.closes, Move.told?])
            (by simp [Documents.version?, there, same])
        next => cases starts
      next => cases starts
  | revalidate =>
      obtain ⟨⟨other, doc⟩, member, rfl⟩ := List.mem_map.mp starts
      exact .known _ (by simp [Move.latest?, Move.closes, Move.told?])
        (by simp [Documents.version?, distinct.find?_eq_some member])
  | finish place diagnostics? => cases starts

/-- A validation that is started has the document's version, if it has any. -/
theorem starting_version (distinct : desk.documents.Distinct) {move : Move} {v : Validation}
    (starts : v ∈ desk.starting move) {version : Int32} (given : v.version? = some version) :
    (desk.step move).1.documents.version? v.uri = some version := by
  rw [step_version?]
  cases start_of_mem_starting distinct starts with
  | opened now uri text told => simpa [Move.latest?, Move.closes, Move.told?] using given
  | saved now uri text => simpa [Move.latest?, Move.closes, Move.told?] using given
  | known text silent there => rw [silent, there, ← given]

/-- For a document that is not open only a save with its text starts a validation. -/
theorem starting_unopened (distinct : desk.documents.Distinct) {move : Move} {v : Validation}
    (starts : v ∈ desk.starting move) (unopened : desk.documents.version? v.uri = none)
    (silent : move.told? v.uri = none) :
    ∃ now text, move = .event now (.saved v.uri (some text)) := by
  cases start_of_mem_starting distinct starts with
  | opened now uri text told => simp [Move.told?] at silent
  | saved now uri text => exact ⟨now, text, rfl⟩
  | known text quiet there => cases unopened.symm.trans there

/-! ## Along a run -/

theorem run_version? (desk : Desk) (moves : List Move) (uri : Uri) :
    (desk.run moves).1.documents.version? uri
      = versionAfter uri (desk.documents.version? uri) moves := by
  induction moves generalizing desk with
  | nil => rfl
  | cons move rest ih =>
      rw [versionAfter, List.foldl_cons, ← step_version?]
      exact ih _

end Desk

theorem grows_append (uri : Uri) (before? : Option Int32) (moves later : List Move) :
    grows uri before? (moves ++ later) =
      (grows uri before? moves && grows uri (versionAfter uri before? moves) later) := by
  induction moves generalizing before? with
  | nil => rfl
  | cons move rest ih =>
      rw [List.cons_append, grows, grows, ih, Bool.and_assoc]
      rfl

/-- While the document stays open its version does not fall. -/
theorem version_le {uri : Uri} {moves : List Move} {version : Int32}
    (grow : grows uri (some version) moves = true)
    (stays : ∀ move ∈ moves, move.closes uri = false) :
    ∃ later, versionAfter uri (some version) moves = some later ∧ version ≤ later := by
  induction moves generalizing version with
  | nil => exact ⟨version, rfl, Int32.le_refl version⟩
  | cons move rest ih =>
      rw [List.forall_mem_cons] at stays
      rw [grows, Bool.and_eq_true] at grow
      obtain ⟨rises, grow⟩ := grow
      have open_ : move.latest? uri (some version) = (move.told? uri).or (some version) := by
        simp [Move.latest?, stays.1]
      rw [versionAfter, List.foldl_cons]
      rw [open_] at grow ⊢
      cases told : move.told? uri with
      | none =>
          rw [told] at grow
          exact ih grow stays.2
      | some higher =>
          rw [told] at grow rises
          have above : version < higher := by simpa using rises
          obtain ⟨later, reached, below⟩ := ih grow stays.2
          exact ⟨later, reached, Int32.le_trans (Int32.le_of_lt above) below⟩

/-- A document that is not open stays so until it gets a text. -/
theorem versionAfter_none {uri : Uri} {moves : List Move}
    (silent : ∀ move ∈ moves, move.told? uri = none) : versionAfter uri none moves = none := by
  induction moves with
  | nil => rfl
  | cons move rest ih =>
      rw [List.forall_mem_cons] at silent
      have still : move.latest? uri none = none := by simp [Move.latest?, silent.1]
      rw [versionAfter, List.foldl_cons, still]
      exact ih silent.2

theorem take_append_span (moves : List Move) {first last : Nat} (order : first ≤ last) :
    moves.take (first + 1) ++ span moves first last = moves.take (last + 1) := by
  have shorter : moves.take (first + 1) = (moves.take (last + 1)).take (first + 1) := by
    rw [List.take_take, Nat.min_eq_left (Nat.succ_le_succ order)]
  rw [span, shorter, List.take_append_drop]

theorem mem_span_iff {moves : List Move} {first last : Nat} {move : Move} :
    move ∈ span moves first last ↔
      ∃ place, first < place ∧ place ≤ last ∧ moves[place]? = some move := by
  simp only [span, List.mem_iff_getElem?, List.getElem?_drop, List.getElem?_take]
  constructor
  · rintro ⟨offset, found⟩
    split at found
    next inside => exact ⟨first + 1 + offset, by omega, by omega, found⟩
    next => cases found
  · rintro ⟨place, behind, upTo, found⟩
    refine ⟨place - (first + 1), ?_⟩
    have same : first + 1 + (place - (first + 1)) = place := by omega
    rw [same, if_pos (by omega), found]

namespace Desk

variable {moves : List Move} {place : Nat} {v : Validation} {uri : Uri}

theorem documents_distinct (moves : List Move) : (empty.run moves).1.documents.Distinct :=
  distinct_run Documents.distinct_empty moves

theorem version?_take (moves : List Move) (uri : Uri) {first last : Nat} (order : first ≤ last) :
    (empty.run (moves.take (last + 1))).1.documents.version? uri =
      versionAfter uri ((empty.run (moves.take (first + 1))).1.documents.version? uri)
        (span moves first last) := by
  rw [← take_append_span moves order, run_append, run_version?]

theorem Starts.version (starts : Starts moves place v) {version : Int32}
    (given : v.version? = some version) :
    (empty.run (moves.take (place + 1))).1.documents.version? v.uri = some version := by
  obtain ⟨move, here, starting⟩ := starts
  rw [List.take_add_one, here, Option.toList_some, run_append]
  exact starting_version (documents_distinct _) starting given

theorem Starts.version_le {first last : Nat} {older newer : Validation}
    (started : Starts moves first older) (startedLater : Starts moves last newer)
    (order : first ≤ last) (same : newer.uri = older.uri)
    (grow : grows older.uri none moves = true)
    (stays : ∀ move ∈ span moves first last, move.closes older.uri = false)
    {lower higher : Int32} (low : older.version? = some lower)
    (high : newer.version? = some higher) : lower ≤ higher := by
  have atFirst := started.version low
  have atLast := startedLater.version high
  rw [same, version?_take moves older.uri order, atFirst] at atLast
  have growing : grows older.uri (some lower) (span moves first last) = true := by
    rw [← List.take_append_drop (last + 1) moves, ← take_append_span moves order, grows_append,
      grows_append, Bool.and_eq_true, Bool.and_eq_true] at grow
    have known : versionAfter older.uri none (moves.take (first + 1)) = some lower := by
      rw [← atFirst, run_version?]
      rfl
    rw [← known]
    exact grow.1.2
  obtain ⟨later, reached, below⟩ := Editor.version_le growing stays
  cases atLast.symm.trans reached
  exact below

/-- What is started between a close and the next text is a text that comes with a save. -/
theorem Starts.after_close {closing now : Nat} (starts : Starts moves place v)
    (closed : moves[closing]? = some (.event now (.closed v.uri))) (behind : closing ≤ place)
    (silent : ∀ move ∈ span moves closing place, move.told? v.uri = none) :
    closing < place ∧
      ∃ now text, moves[place]? = some (.event now (.saved v.uri (some text))) := by
  obtain ⟨move, here, starting⟩ := starts
  rcases Nat.eq_or_lt_of_le behind with rfl | later
  · cases closed.symm.trans here
    simp [Desk.starting, Documents.apply] at starting
  · have gone : (empty.run (moves.take (closing + 1))).1.documents.version? v.uri = none := by
      rw [List.take_add_one, closed, Option.toList_some, run_append]
      simp [run, Documents.apply, Documents.version?, Documents.find?_drop_self]
    have unopened : (empty.run (moves.take place)).1.documents.version? v.uri = none := by
      obtain ⟨last, rfl⟩ : ∃ last, place = last + 1 := ⟨place - 1, by omega⟩
      rw [version?_take moves v.uri (Nat.le_of_lt_succ later), gone]
      refine versionAfter_none fun move member => silent move ?_
      obtain ⟨at_, above, below, found⟩ := mem_span_iff.mp member
      exact mem_span_iff.mpr ⟨at_, above, Nat.le_succ_of_le below, found⟩
    have quiet : move.told? v.uri = none :=
      silent move (mem_span_iff.mpr ⟨place, later, Nat.le_refl place, here⟩)
    obtain ⟨now, text, rfl⟩ :=
      starting_unopened (documents_distinct _) starting unopened quiet
    exact ⟨later, now, text, here⟩

/-- Whatever the order in which validations finish: of two that were started while the
document stayed open, the one that was started later has no lower version; and diagnostics
published between a close and the next text are none, or are of a validation that was
started before the close, or of a text that was saved after it. -/
theorem publications_as_old_as_starts (grow : grows uri none moves = true) :
    (journal moves).map (·.publication) = (empty.run moves).2
      ∧ (∀ first ∈ journal moves, ∀ last ∈ journal moves,
          first.publication.uri = uri → last.publication.uri = uri → first.since ≤ last.since →
          (∀ move ∈ span moves first.since last.since, move.closes uri = false) →
          ∀ lower higher, first.publication.version? = some lower →
            last.publication.version? = some higher → lower ≤ higher)
      ∧ (∀ entry ∈ journal moves, entry.publication.uri = uri →
          entry.publication.diagnostics ≠ [] →
          ∀ closing now, moves[closing]? = some (.event now (.closed uri)) →
            closing < entry.made →
            (∀ move ∈ span moves closing entry.made, move.told? uri = none) →
            entry.since < closing ∨ closing < entry.since ∧
              ∃ now text, moves[entry.since]? = some (.event now (.saved uri (some text)))) := by
  refine ⟨journal_publications moves, ?_, ?_⟩
  · intro first firstIn last lastIn firstUri lastUri order stays lower higher low high
    cases arises_of_mem_journal firstIn with
    | cleared here => cases low
    | validated diagnostics started earlier =>
        cases arises_of_mem_journal lastIn with
        | cleared here => cases high
        | validated diagnostics' startedLater earlier' =>
            subst firstUri
            exact started.version_le startedLater order lastUri grow stays low high
  · intro entry entryIn entryUri some_ closing now closed behind silent
    cases arises_of_mem_journal entryIn with
    | cleared here => exact absurd rfl some_
    | validated diagnostics starts earlier =>
        subst entryUri
        refine (Nat.lt_or_ge _ _).imp_right fun notBefore => ?_
        refine starts.after_close closed notBefore fun move member => silent move ?_
        obtain ⟨at_, above, below, found⟩ := mem_span_iff.mp member
        exact mem_span_iff.mpr ⟨at_, above, Nat.le_trans below (Nat.le_of_lt earlier), found⟩

/-- A validation is overtaken by a later one, and a text is saved after the close. -/
theorem overtaken_publications :
    let page : Uri := ⟨"file", none, none, "/a.coffee", none, none⟩
    let d : Diagnostic := ⟨⟨⟨0, 0⟩, ⟨0, 1⟩⟩, .warning, "c", "m"⟩
    let moves := [.event 0 (.opened page "a" 1), .event 5 (.changed page 2 ["b"]), .expire 0,
      .finish 1 (some [d]), .finish 0 (some []), .event 400 (.closed page),
      .event 500 (.saved page (some "c")), .finish 0 (some [d])]
    grows page none moves = true
      ∧ journal moves = [⟨2, 3, ⟨page, some 2, [d]⟩⟩, ⟨0, 4, ⟨page, some 1, []⟩⟩,
          ⟨5, 5, ⟨page, none, []⟩⟩, ⟨6, 7, ⟨page, none, [d]⟩⟩]
      ∧ (1 : Int32) ≤ 2
      ∧ (6 < 5 ∨ 5 < 6 ∧ ∃ now text, moves[6]? = some (.event now (.saved page (some text)))) := by
  intro page d moves
  have grow : grows page none moves = true := by decide
  have entries : journal moves = [⟨2, 3, ⟨page, some 2, [d]⟩⟩, ⟨0, 4, ⟨page, some 1, []⟩⟩,
      ⟨5, 5, ⟨page, none, []⟩⟩, ⟨6, 7, ⟨page, none, [d]⟩⟩] := by decide
  obtain ⟨-, inOrder, afterClose⟩ := publications_as_old_as_starts grow
  rw [entries] at inOrder afterClose
  refine ⟨grow, entries, ?_, ?_⟩
  · exact inOrder ⟨0, 4, ⟨page, some 1, []⟩⟩ (by simp) ⟨2, 3, ⟨page, some 2, [d]⟩⟩ (by simp)
      rfl rfl (by decide) (by decide) 1 2 rfl rfl
  · exact afterClose ⟨6, 7, ⟨page, none, [d]⟩⟩ (by simp) rfl (by simp) 5 400 rfl (by decide)
      (by decide)

/-- Two validations finish in the other order; one finishes after its document was closed and
opened again, one after it was closed; and a text is saved after the close. -/
theorem publications_go_back :
    let page : Uri := ⟨"file", none, none, "/a.coffee", none, none⟩
    let d : Diagnostic := ⟨⟨⟨0, 0⟩, ⟨0, 1⟩⟩, .warning, "c", "m"⟩
    let overtaken := [.event 0 (.opened page "a" 1), .event 5 (.changed page 2 ["b"]), .expire 0,
      .finish 1 (some []), .finish 0 (some [])]
    let reopened := [.event 0 (.opened page "a" 5), .event 5 (.closed page),
      .event 9 (.opened page "b" 1), .finish 0 (some []), .finish 0 (some [])]
    let late := [.event 0 (.opened page "a" 1), .event 5 (.closed page), .finish 0 (some [d])]
    let saved := [.event 0 (.opened page "a" 1), .finish 0 (some []), .event 5 (.closed page),
      .event 9 (.saved page (some "b")), .finish 0 (some [d])]
    (∀ moves ∈ [overtaken, reopened, late, saved],
        conforms .nothing moves = true ∧ grows page none moves = true)
      ∧ (empty.run overtaken).2 = [⟨page, some 2, []⟩, ⟨page, some 1, []⟩]
      ∧ (empty.run reopened).2 = [⟨page, none, []⟩, ⟨page, some 5, []⟩, ⟨page, some 1, []⟩]
      ∧ (empty.run late).2 = [⟨page, none, []⟩, ⟨page, some 1, [d]⟩]
      ∧ (empty.run saved).2 = [⟨page, some 1, []⟩, ⟨page, none, []⟩, ⟨page, none, [d]⟩] := by
  decide

end Desk

end LintBridge.Editor
