import LintBridge.Markup.Reader

/-!
# Elements of a document

A document is read as a series of events, and meant as a tree.  `Spelled` says which
series of events spells a list of elements; what carries no structure may stand
anywhere between.  The reader ends an element only where one is open
(`read_nested`), and a series that leaves no element open spells a list of elements
(`exists_spelled`).
-/

set_option autoImplicit false

namespace LintBridge.Markup

/-- An element with the elements directly inside it. -/
inductive Element where
  | mk (tag : Tag) (children : List Element)

namespace Element

def tag : Element → Tag
  | mk tag _ => tag

def children : Element → List Element
  | mk _ children => children

def name (element : Element) : String :=
  element.tag.name

@[simp] theorem tag_mk (tag : Tag) (children : List Element) : (mk tag children).tag = tag := rfl

@[simp] theorem children_mk (tag : Tag) (children : List Element) :
    (mk tag children).children = children := rfl

@[simp] theorem name_mk (tag : Tag) (children : List Element) :
    (mk tag children).name = tag.name := rfl

end Element

/-- The series of events that spell a list of elements, in order. -/
inductive Spelled : List Element → List Event → Prop where
  | nil : Spelled [] []
  | aside {elements : List Element} {rest : List Event} (later : Spelled elements rest) :
      Spelled elements (.aside :: rest)
  | empty (tag : Tag) {elements : List Element} {rest : List Event}
      (later : Spelled elements rest) :
      Spelled (.mk tag [] :: elements) (.empty tag :: rest)
  | pair (tag : Tag) {children elements : List Element} {inner rest : List Event}
      (within : Spelled children inner) (later : Spelled elements rest) :
      Spelled (.mk tag children :: elements) (.opening tag :: (inner ++ .closing :: rest))

theorem Spelled.append {first second : List Element} {before after : List Event}
    (left : Spelled first before) (right : Spelled second after) :
    Spelled (first ++ second) (before ++ after) := by
  induction left with
  | nil => exact right
  | aside _ ih => exact .aside ih
  | empty tag _ ih => exact .empty tag ih
  | pair tag within _ _ ih =>
      simp only [List.cons_append, List.append_assoc]
      exact .pair tag within ih

/-! ## Open elements -/

/-- How many elements are open behind a series of events; `none` where one is closed
that is not open. -/
def openAfter : Nat → List Event → Option Nat
  | n, [] => some n
  | n, .opening _ :: rest => openAfter (n + 1) rest
  | 0, .closing :: _ => none
  | n + 1, .closing :: rest => openAfter n rest
  | n, .empty _ :: rest => openAfter n rest
  | n, .aside :: rest => openAfter n rest

/-- Every end belongs to the innermost element that is open before it. -/
def Nested (events : List Event) : Prop :=
  (openAfter 0 events).isSome

instance (events : List Event) : Decidable (Nested events) :=
  inferInstanceAs (Decidable (_ = true))

theorem openAfter_append (n : Nat) (before after : List Event) :
    openAfter n (before ++ after) = (openAfter n before).bind (openAfter · after) := by
  induction before generalizing n with
  | nil => rfl
  | cons event rest ih =>
      cases event with
      | opening tag => exact ih (n + 1)
      | empty tag => exact ih n
      | aside => exact ih n
      | closing =>
          cases n with
          | zero => rfl
          | succ n => exact ih n

/-- The series that goes on inside so many open elements and ends them all. -/
inductive Closes : Nat → List Event → Prop where
  | outside {elements : List Element} {rest : List Event} (later : Spelled elements rest) :
      Closes 0 rest
  | within {n : Nat} {elements : List Element} {inner rest : List Event}
      (here : Spelled elements inner) (later : Closes n rest) :
      Closes (n + 1) (inner ++ .closing :: rest)

theorem Closes.prepend {n : Nat} {elements : List Element} {before rest : List Event}
    (first : Spelled elements before) (closes : Closes n rest) : Closes n (before ++ rest) := by
  cases closes with
  | outside later => exact .outside (first.append later)
  | within here later =>
      rw [← List.append_assoc]
      exact .within (first.append here) later

theorem closes_of_openAfter (n : Nat) (events : List Event)
    (closed : openAfter n events = some 0) : Closes n events := by
  induction events generalizing n with
  | nil =>
      cases Option.some.inj closed
      exact .outside .nil
  | cons event rest ih =>
      cases event with
      | aside => exact .prepend (.aside .nil) (ih n closed)
      | empty tag => exact .prepend (.empty tag .nil) (ih n closed)
      | closing =>
          cases n with
          | zero => cases closed
          | succ n => exact .within .nil (ih n closed)
      | opening tag =>
          -- The rest ends this element before those around it.
          cases ih (n + 1) closed with
          | @within _ children inner behind here later =>
              have whole := Closes.prepend (.pair tag here .nil) later
              simpa only [List.cons_append, List.append_assoc, List.nil_append] using whole

theorem exists_spelled {events : List Event} (closed : openAfter 0 events = some 0) :
    ∃ elements, Spelled elements events := by
  cases closes_of_openAfter 0 events closed with
  | @outside elements _ later => exact ⟨elements, later⟩

theorem Spelled.openAfter {elements : List Element} {events : List Event}
    (spelled : Spelled elements events) (n : Nat) : Markup.openAfter n events = some n := by
  induction spelled generalizing n with
  | nil => rfl
  | aside _ ih => exact ih n
  | empty _ _ ih => exact ih n
  | pair tag _ _ ihWithin ihLater =>
      simp only [Markup.openAfter, openAfter_append, ihWithin, Option.bind_some, ihLater]

/-! ## The elements left open -/

/-- An element that is open, with those beside it that ended before it began. -/
structure OpenElement where
  before : List Element
  tag : Tag

/-- The series leaves these elements open, the innermost first, and the others inside the
innermost have ended. -/
inductive LeavesOpen : List OpenElement → List Element → List Event → Prop where
  | outside {ended : List Element} {events : List Event} (spelled : Spelled ended events) :
      LeavesOpen [] ended events
  | inside {outer : List OpenElement} {before ended : List Element} {events inner : List Event}
      (around : LeavesOpen outer before events) (tag : Tag) (within : Spelled ended inner) :
      LeavesOpen (⟨before, tag⟩ :: outer) ended (events ++ .opening tag :: inner)

theorem LeavesOpen.append {opened : List OpenElement} {ended more : List Element}
    {events rest : List Event} (leaves : LeavesOpen opened ended events)
    (later : Spelled more rest) : LeavesOpen opened (ended ++ more) (events ++ rest) := by
  cases leaves with
  | outside spelled => exact .outside (spelled.append later)
  | inside around tag within =>
      rw [List.append_assoc, List.cons_append]
      exact .inside around tag (within.append later)

theorem LeavesOpen.close {innermost : OpenElement} {outer : List OpenElement}
    {ended : List Element} {events : List Event}
    (leaves : LeavesOpen (innermost :: outer) ended events) :
    LeavesOpen outer (innermost.before ++ [.mk innermost.tag ended]) (events ++ [.closing]) := by
  cases leaves with
  | inside around tag within =>
      rw [List.append_assoc, List.cons_append]
      exact around.append (.pair tag within .nil)

/-- The open elements, and those that have ended inside the innermost. -/
structure Trail where
  opened : List OpenElement
  ended : List Element

namespace Trail

def outset : Trail :=
  ⟨[], []⟩

/-- The trail behind one more event; `none` where that closes what is not open. -/
def next (trail : Trail) : Event → Option Trail
  | .opening tag => some ⟨⟨trail.ended, tag⟩ :: trail.opened, []⟩
  | .empty tag => some ⟨trail.opened, trail.ended ++ [.mk tag []]⟩
  | .closing =>
      match trail.opened with
      | [] => none
      | innermost :: outer => some ⟨outer, innermost.before ++ [.mk innermost.tag trail.ended]⟩
  | .aside => some trail

def through : Trail → List Event → Option Trail
  | trail, [] => some trail
  | trail, event :: rest => (trail.next event).bind (·.through rest)

theorem through_append (trail : Trail) (before after : List Event) :
    trail.through (before ++ after) = (trail.through before).bind (·.through after) := by
  induction before generalizing trail with
  | nil => rfl
  | cons event rest ih =>
      simp only [List.cons_append, through]
      cases trail.next event with
      | none => rfl
      | some next => exact ih next

theorem through_spelled {elements : List Element} {events : List Event}
    (spelled : Spelled elements events) (trail : Trail) :
    trail.through events = some ⟨trail.opened, trail.ended ++ elements⟩ := by
  induction spelled generalizing trail with
  | nil => rw [List.append_nil]; rfl
  | aside _ ih => exact ih trail
  | empty tag _ ih =>
      rw [through, next, Option.bind_some, ih, List.append_assoc, List.singleton_append]
  | pair tag _ _ ihWithin ihLater =>
      rw [through, next, Option.bind_some, through_append, ihWithin, Option.bind_some, through,
        next, Option.bind_some, ihLater, List.append_assoc, List.singleton_append,
        List.nil_append]

theorem next_leavesOpen {trail trail' : Trail} {event : Event} {before : List Event}
    (leaves : LeavesOpen trail.opened trail.ended before) (moved : trail.next event = some trail') :
    LeavesOpen trail'.opened trail'.ended (before ++ [event]) := by
  cases event with
  | opening tag =>
      cases moved
      exact .inside leaves tag .nil
  | empty tag =>
      cases moved
      exact leaves.append (.empty tag .nil)
  | aside =>
      cases moved
      rw [← List.append_nil trail.ended]
      exact leaves.append (.aside .nil)
  | closing =>
      obtain ⟨opened, ended⟩ := trail
      cases opened with
      | nil => cases moved
      | cons innermost outer =>
          cases moved
          exact leaves.close

theorem through_leavesOpen {trail last : Trail} {before events : List Event}
    (leaves : LeavesOpen trail.opened trail.ended before)
    (gone : trail.through events = some last) :
    LeavesOpen last.opened last.ended (before ++ events) := by
  induction events generalizing trail before with
  | nil =>
      cases gone
      rw [List.append_nil]
      exact leaves
  | cons event rest ih =>
      obtain ⟨trail', moved, gone⟩ := Option.bind_eq_some_iff.mp gone
      rw [← List.singleton_append, ← List.append_assoc]
      exact ih (next_leavesOpen leaves moved) gone

theorem through_eq_some_iff {events : List Event} {last : Trail} :
    outset.through events = some last ↔ LeavesOpen last.opened last.ended events := by
  constructor
  · exact @through_leavesOpen outset last [] events (.outside .nil)
  · obtain ⟨opened, ended⟩ := last
    intro leaves
    dsimp only at leaves
    induction leaves with
    | outside spelled => exact through_spelled spelled outset
    | inside around tag within ih =>
        rw [through_append, ih, Option.bind_some, through, next, Option.bind_some,
          through_spelled within, List.nil_append]

theorem isSome_through (trail : Trail) (events : List Event) :
    (trail.through events).isSome = (openAfter trail.opened.length events).isSome := by
  induction events generalizing trail with
  | nil => rfl
  | cons event rest ih =>
      obtain ⟨opened, ended⟩ := trail
      cases event with
      | opening tag => exact ih _
      | empty tag => exact ih _
      | aside => exact ih _
      | closing =>
          cases opened with
          | nil => rfl
          | cons innermost outer => exact ih _

end Trail

theorem nested_iff_leavesOpen {events : List Event} :
    Nested events ↔ ∃ opened ended, LeavesOpen opened ended events := by
  have trails : Nested events ↔ ∃ last, Trail.outset.through events = some last := by
    rw [← Option.isSome_iff_exists, Trail.isSome_through]
    rfl
  simp only [trails, Trail.through_eq_some_iff]
  constructor
  · rintro ⟨⟨opened, ended⟩, leaves⟩
    exact ⟨opened, ended, leaves⟩
  · rintro ⟨opened, ended, leaves⟩
    exact ⟨⟨opened, ended⟩, leaves⟩

/-! ## The reader's events are nested -/

namespace Reader

theorem complete_openAfter {names next : List String} {content : List Char} {event : Event}
    (completed : complete names content = .ok (event, next)) :
    openAfter names.length [event] = some next.length := by
  unfold complete at completed
  split at completed
  · cases names with
    | nil => cases completed
    | cons expected outer =>
        dsimp only at completed
        split at completed <;> cases completed
        rfl
  · split at completed <;> cases completed <;> rfl

/-- What a step may complete: nothing, something without structure, or a tag. -/
inductive Yields (r next : Reader) : Option Event → Prop where
  | nothing (same : next.names = r.names) : Yields r next none
  | aside (same : next.names = r.names) : Yields r next (some .aside)
  | tag {event : Event} (content : List Char)
      (completed : complete r.names content = .ok (event, next.names)) :
      Yields r next (some event)

theorem yields_of_move {r next : Reader} {c : Char} {mode : Mode} {event? : Option Event}
    (moved : Except.ok (r.move c mode) = (.ok (event?, next) : Except Misread _)) :
    Yields r next event? := by
  cases moved
  exact .nothing rfl

theorem yields_of_pass {r next : Reader} {c : Char} {event? : Option Event}
    (passed : Except.ok (r.pass c) = (.ok (event?, next) : Except Misread _)) :
    Yields r next event? := by
  cases passed
  exact .aside rfl

theorem yields_of_step {r next : Reader} {c : Char} {event? : Option Event}
    (stepped : r.step c = .ok (event?, next)) : Yields r next event? := by
  unfold step at stepped
  -- Every branch of every mode moves on, passes something, completes a tag, or fails.
  split at stepped <;> (try dsimp only at stepped) <;> repeat' split at stepped
  all_goals first
    | exact yields_of_move stepped
    | exact yields_of_pass stepped
    | cases stepped
  · exact .nothing rfl
  · exact .tag _ (by assumption)
  · exact .tag _ (by assumption)

theorem step_openAfter {r next : Reader} {c : Char} {event? : Option Event}
    (stepped : r.step c = .ok (event?, next)) :
    openAfter r.names.length event?.toList = some next.names.length := by
  cases yields_of_step stepped with
  | nothing same => simp only [Option.toList_none, openAfter, same]
  | aside same => simp only [Option.toList_some, openAfter, same]
  | tag content completed => exact complete_openAfter completed

theorem run_openAfter (r : Reader) (done : List Event) (text : List Char)
    (sofar : openAfter 0 done.reverse = some r.names.length) :
    Nested (r.run done text).1 := by
  induction text generalizing r done with
  | nil => simp only [run, Nested, sofar, Option.isSome_some]
  | cons c rest ih =>
      simp only [run]
      cases stepped : r.step c with
      | error misread => simp only [Nested, sofar, Option.isSome_some]
      | ok result =>
          obtain ⟨event?, next⟩ := result
          apply ih
          have opened := step_openAfter stepped
          cases event? with
          | none =>
              simp only [Option.toList_none, openAfter, Option.some.injEq] at opened
              simp only [Option.toList_none, List.nil_append, sofar, opened]
          | some event =>
              simp only [Option.toList_some, List.singleton_append, List.reverse_cons,
                openAfter_append, sofar, Option.bind_some]
              exact opened

end Reader

theorem read_nested (text : List Char) : Nested (read text).1 := by
  unfold read
  split <;> exact Reader.run_openAfter _ [] _ rfl

end LintBridge.Markup
