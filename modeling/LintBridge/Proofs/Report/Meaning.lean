import LintBridge.Proofs.Markup.Elements
import LintBridge.Proofs.Result
import LintBridge.Report.Collector

/-!
# The meaning of a document

`Means` says of a document, as a tree, which report it is: its one root is named
`checkstyle`, the first `file` among the root's children is the file section, and the
`error` elements directly inside that one are its issues.

The collector goes through the events once and keeps only names, a report and a flag.
Here its walk through the events of each level of the tree is computed, from the
inside out: below a file section, in it, between the sections, and at the root.
-/

set_option autoImplicit false

namespace LintBridge.Report

open Markup Result

/-- The elements directly inside another that are issues. -/
def issueElements (children : List Element) : List Element :=
  children.filter (·.name = "error")

/-- What the first file section, if there is one, says. -/
def SectionMeans : Option Element → Option FileReport → Prop
  | none, none => True
  | some element, some file =>
      element.tag.text "name" = .ok file.name
        ∧ (issueElements element.children).map (·.tag.issue) = file.issues.map .ok
  | none, some _ => False
  | some _, none => False

/-- The report of a document with the given elements at its top. -/
def Means (elements : List Element) (report : Report) : Prop :=
  ∃ root, elements = [root] ∧ root.name = "checkstyle"
    ∧ root.tag.text? "version" = .ok report.version
    ∧ SectionMeans (root.children.find? (·.name = "file")) report.file

namespace Collector

/-! ## The walk through the events -/

def steps : Collector → List Event → Except Malformed Collector
  | c, [] => .ok c
  | c, event :: rest => (c.step event).bind (steps · rest)

theorem steps_append (c : Collector) (before after : List Event) :
    c.steps (before ++ after) = (c.steps before).bind (steps · after) := by
  induction before generalizing c with
  | nil => rfl
  | cons event rest ih =>
      simp only [List.cons_append, steps]
      cases c.step event with
      | error malformed => rfl
      | ok next => exact ih next

/-- The value of a run: what is wrong with an event comes before what broke off the
series. -/
theorem run_value (misread? : Option Misread) (c : Collector) (events : List Event) :
    (c.run misread? events).value
      = (c.steps events).bind fun last =>
          misread?.elim last.finish fun misread => .error (.markup misread) := by
  induction events generalizing c with
  | nil => cases misread? <;> rfl
  | cons event rest ih =>
      have unlogged : (c.run misread? (event :: rest)).value
          = (c.step event).bind fun next => (next.run misread? rest).value := by
        cases stepped : c.step event <;> cases passed : c.passesOver event <;>
          simp only [run, stepped, passed] <;> rfl
      rw [unlogged, steps]
      cases c.step event with
      | error malformed => rfl
      | ok next => exact ih next

theorem steps_pair (c : Collector) (tag : Tag) (inner rest : List Event) :
    c.steps (.opening tag :: (inner ++ .closing :: rest))
      = (c.enter tag).bind fun entered =>
          (steps { entered with names := tag.name :: entered.names } inner).bind fun last =>
            (last.step .closing).bind (steps · rest) := by
  simp only [steps, step]
  cases c.enter tag with
  | error malformed => rfl
  | ok entered => exact steps_append _ inner (.closing :: rest)

theorem steps_empty (c : Collector) (tag : Tag) (rest : List Event) :
    c.steps (.empty tag :: rest) = c.steps (.opening tag :: ([] ++ .closing :: rest)) := by
  simp only [steps, step, List.nil_append]
  cases c.enter tag <;> rfl

theorem beginReport_names {c entered : Collector} {tag : Tag}
    (done : c.beginReport tag = .ok entered) : entered.names = c.names := by
  unfold beginReport at done
  split at done
  · split at done
    · cases done
    · obtain ⟨version, _, same⟩ := bind_eq_ok_iff.mp done
      cases same
      rfl
  · cases done

theorem beginFile_names {c entered : Collector} {tag : Tag}
    (done : c.beginFile tag = .ok entered) : entered.names = c.names := by
  unfold beginFile at done
  split at done
  · obtain ⟨name, _, same⟩ := bind_eq_ok_iff.mp done
    cases same
    rfl
  · cases done
    rfl

@[simp] theorem add_names (c : Collector) (issue : Issue) : (c.add issue).names = c.names := by
  unfold add
  split <;> rfl

@[simp] theorem leave_names (c : Collector) (depth : Nat) (name : String) :
    (c.leave depth name).names = c.names := by
  unfold leave
  split <;> rfl

theorem enter_names {c entered : Collector} {tag : Tag} (done : c.enter tag = .ok entered) :
    entered.names = c.names := by
  unfold enter at done
  split at done
  · exact beginReport_names done
  · split at done
    · exact beginFile_names done
    · cases done
      rfl
  · split at done
    · obtain ⟨issue, _, rfl⟩ := map_eq_ok_iff.mp done
      exact add_names c issue
    · cases done
      rfl
  · cases done
    rfl

theorem step_openAfter {c next : Collector} {event : Event} {n : Nat}
    (done : c.step event = .ok next) (opened : openAfter c.names.length [event] = some n) :
    next.names.length = n := by
  cases event with
  | aside =>
      cases done
      exact Option.some.inj opened
  | opening tag =>
      obtain ⟨entered, begun, rfl⟩ := map_eq_ok_iff.mp done
      rw [List.length_cons, enter_names begun]
      exact Option.some.inj opened
  | empty tag =>
      obtain ⟨entered, begun, rfl⟩ := map_eq_ok_iff.mp done
      rw [leave_names, enter_names begun]
      exact Option.some.inj opened
  | closing =>
      simp only [step] at done
      cases names : c.names with
      | nil => rw [names] at opened; cases opened
      | cons name outer =>
          rw [names] at done opened
          cases done
          rw [leave_names]
          exact Option.some.inj opened

theorem steps_openAfter {c last : Collector} {events : List Event} {n : Nat}
    (done : c.steps events = .ok last) (opened : openAfter c.names.length events = some n) :
    last.names.length = n := by
  induction events generalizing c with
  | nil =>
      cases done
      exact Option.some.inj opened
  | cons event rest ih =>
      rw [← List.singleton_append, openAfter_append] at opened
      obtain ⟨between, first, opened⟩ := Option.bind_eq_some_iff.mp opened
      obtain ⟨next, stepped, done⟩ := bind_eq_ok_iff.mp done
      rw [← step_openAfter stepped first] at opened
      exact ih done opened

/-! ## Inside the elements of a file section -/

/-- A place where no element counts. -/
def Idle (c : Collector) : Prop :=
  2 ≤ c.names.length ∧ (c.names.length = 2 → c.collecting = false)

theorem enter_idle {c : Collector} (idle : c.Idle) (tag : Tag) : c.enter tag = .ok c := by
  obtain ⟨deep, quiet⟩ := idle
  unfold enter
  split
  · omega
  · omega
  · simp only [quiet (by assumption), Bool.false_and, Bool.false_eq_true, if_false]
  · rfl

theorem leave_deep (c : Collector) {depth : Nat} (deep : depth ≠ 1) (name : String) :
    c.leave depth name = c := by
  simp only [leave, deep, decide_false, Bool.false_and, Bool.false_eq_true, if_false]

/-- Where no element counts, one leaves no trace if what is inside it leaves none. -/
theorem steps_pair_idle {c : Collector} (idle : c.Idle) (tag : Tag) {inner : List Event}
    (within : ∀ {c : Collector}, c.Idle → c.steps inner = .ok c) (rest : List Event) :
    c.steps (.opening tag :: (inner ++ .closing :: rest)) = c.steps rest := by
  have deep := idle.1
  have notOne : c.names.length ≠ 1 := by omega
  have inside : Idle { c with names := tag.name :: c.names } := by
    constructor <;> simp only [List.length_cons] <;> omega
  rw [steps_pair, enter_idle idle]
  simp only [Except.bind, within inside, step, leave_deep _ notOne]

theorem steps_idle {elements : List Element} {events : List Event}
    (spelled : Spelled elements events) {c : Collector} (idle : c.Idle) :
    c.steps events = .ok c := by
  induction spelled generalizing c with
  | nil => rfl
  | aside _ ih => exact ih idle
  | empty tag _ ih =>
      rw [steps_empty, steps_pair_idle idle tag fun _ => rfl]
      exact ih idle
  | pair tag _ _ ihWithin ihLater =>
      rw [steps_pair_idle idle tag fun deeper => ihWithin deeper]
      exact ihLater idle

/-- Inside the file section an element is only what it begins with. -/
theorem steps_pair_deep {c : Collector} (deep : 2 ≤ c.names.length) (tag : Tag)
    {children : List Element} {inner : List Event} (within : Spelled children inner)
    (rest : List Event) :
    c.steps (.opening tag :: (inner ++ .closing :: rest))
      = (c.enter tag).bind (·.steps rest) := by
  rw [steps_pair]
  cases entered : c.enter tag with
  | error malformed => rfl
  | ok c' =>
      have depth : 2 ≤ c'.names.length := by rw [enter_names entered]; exact deep
      have notOne : c'.names.length ≠ 1 := by omega
      have inside : Idle { c' with names := tag.name :: c'.names } := by
        constructor <;> simp only [List.length_cons] <;> omega
      simp only [Except.bind, steps_idle within inside, step, leave_deep _ notOne]

/-! ## In a file section -/

/-- The issues that a list of elements tells, up to the first one that is malformed. -/
def readIssues : List Element → Except Malformed (List Issue)
  | [] => .ok []
  | element :: rest =>
      element.tag.issue.bind fun issue => (readIssues rest).map (issue :: ·)

theorem readIssues_eq_ok_iff (elements : List Element) (issues : List Issue) :
    readIssues elements = .ok issues ↔ elements.map (·.tag.issue) = issues.map .ok := by
  induction elements generalizing issues with
  | nil => cases issues <;> simp [readIssues]
  | cons element rest ih =>
      simp only [readIssues, bind_eq_ok_iff, map_eq_ok_iff, ih]
      cases issues with
      | nil => simp
      | cons first later =>
          simp only [List.map_cons, List.cons.injEq]
          constructor
          · rintro ⟨issue, told, others, known, rfl, rfl⟩
            exact ⟨told, known⟩
          · rintro ⟨told, known⟩
            exact ⟨first, told, later, known, rfl, rfl⟩

/-- The collector with more issues in its file section. -/
def withIssues (c : Collector) (version : Option String) (file : FileReport)
    (issues : List Issue) : Collector :=
  { c with report? := some ⟨version, some { file with issues := file.issues ++ issues }⟩ }

theorem enter_section {c : Collector} {version : Option String} {file : FileReport}
    (depth : c.names.length = 2) (counts : c.collecting = true)
    (held : c.report? = some ⟨version, some file⟩) (tag : Tag) :
    c.enter tag = if tag.name = "error"
      then tag.issue.map fun issue => c.withIssues version file [issue] else .ok c := by
  have adds : c.add = fun issue => c.withIssues version file [issue] := by
    funext issue
    simp only [add, held, withIssues]
  unfold enter
  simp only [depth, counts, Bool.true_and, decide_eq_true_eq, adds]

theorem issueElements_cons (tag : Tag) (children elements : List Element) :
    issueElements (.mk tag children :: elements)
      = if tag.name = "error" then .mk tag children :: issueElements elements
        else issueElements elements := by
  by_cases isIssue : tag.name = "error" <;> simp [issueElements, isIssue]

theorem section_cons {c : Collector} {version : Option String} {file : FileReport} {tag : Tag}
    {children elements : List Element} {rest : List Event}
    (depth : c.names.length = 2) (counts : c.collecting = true)
    (held : c.report? = some ⟨version, some file⟩)
    (later : ∀ (c : Collector) (file : FileReport), c.names.length = 2 → c.collecting = true →
      c.report? = some ⟨version, some file⟩ →
      c.steps rest = (readIssues (issueElements elements)).map (c.withIssues version file)) :
    (c.enter tag).bind (·.steps rest)
      = (readIssues (issueElements (.mk tag children :: elements))).map
          (c.withIssues version file) := by
  rw [enter_section depth counts held, issueElements_cons]
  by_cases isIssue : tag.name = "error"
  · simp only [isIssue, if_true, readIssues, Element.tag_mk]
    cases tag.issue with
    | error malformed => rfl
    | ok issue =>
        have added := later (c.withIssues version file [issue])
          { file with issues := file.issues ++ [issue] } depth counts rfl
        simp only [Except.map, Except.bind] at added ⊢
        rw [added]
        cases readIssues (issueElements elements) with
        | error malformed => rfl
        | ok issues =>
            simp only [withIssues, List.append_assoc, List.singleton_append]
  · simp only [isIssue, if_false, Except.bind]
    exact later c file depth counts held

theorem steps_section {elements : List Element} {events : List Event}
    (spelled : Spelled elements events) {c : Collector} {version : Option String}
    {file : FileReport} (depth : c.names.length = 2) (counts : c.collecting = true)
    (held : c.report? = some ⟨version, some file⟩) :
    c.steps events = (readIssues (issueElements elements)).map (c.withIssues version file) := by
  -- Each issue makes the file section longer, so the claim is for every one collected so far.
  induction spelled generalizing c file with
  | nil =>
      obtain ⟨names, report?, collecting⟩ := c
      cases held
      simp [steps, issueElements, readIssues, withIssues, Except.map]
  | aside _ ih => exact ih depth counts held
  | empty tag _ ih =>
      rw [steps_empty, steps_pair_deep (by omega) tag .nil]
      exact section_cons depth counts held fun _ _ depth counts held => ih depth counts held
  | pair tag within _ _ ih =>
      rw [steps_pair_deep (by omega) tag within]
      exact section_cons depth counts held fun _ _ depth counts held => ih depth counts held

/-! ## Between the file sections -/

def firstSection (elements : List Element) : Option Element :=
  elements.find? (·.name = "file")

/-- What the first file section says. -/
def readSection (elements : List Element) : Except Malformed (Option FileReport) :=
  match firstSection elements with
  | none => .ok none
  | some element =>
      (element.tag.text "name").bind fun name =>
        (readIssues (issueElements element.children)).map fun issues => some ⟨name, issues⟩

theorem leave_quiet {c : Collector} (quiet : c.collecting = false) (depth : Nat)
    (name : String) : c.leave depth name = c := by
  obtain ⟨names, report?, collecting⟩ := c
  cases quiet
  unfold leave
  split <;> rfl

theorem enter_root {c : Collector} (depth : c.names.length = 1) (tag : Tag) :
    c.enter tag = if tag.name = "file" then c.beginFile tag else .ok c := by
  simp only [enter, depth]

/-- Under the root an element in which nothing counts leaves no trace. -/
theorem steps_pair_quiet {c : Collector} {tag : Tag} (depth : c.names.length = 1)
    (quiet : c.collecting = false) (entered : c.enter tag = .ok c) {children : List Element}
    {inner : List Event} (within : Spelled children inner) (rest : List Event) :
    c.steps (.opening tag :: (inner ++ .closing :: rest)) = c.steps rest := by
  have inside : Idle { c with names := tag.name :: c.names } :=
    ⟨by simp only [List.length_cons]; omega, fun _ => quiet⟩
  rw [steps_pair, entered]
  simp only [Except.bind, steps_idle within inside, step, leave_quiet quiet]

/-- Behind the first file section nothing under the root counts. -/
theorem steps_behind_section {elements : List Element} {events : List Event}
    (spelled : Spelled elements events) {c : Collector} {version : Option String}
    {file : FileReport} (depth : c.names.length = 1) (quiet : c.collecting = false)
    (held : c.report? = some ⟨version, some file⟩) :
    c.steps events = .ok c := by
  have passed : ∀ tag, c.enter tag = .ok c := by
    intro tag
    rw [enter_root depth]
    simp only [beginFile, held, ite_self]
  induction spelled with
  | nil => rfl
  | aside _ ih => exact ih
  | empty tag _ ih =>
      rw [steps_empty, steps_pair_quiet depth quiet (passed tag) .nil]
      exact ih
  | pair tag within _ _ ih =>
      rw [steps_pair_quiet depth quiet (passed tag) within]
      exact ih

/-- The collector at the beginning of the file section that counts. -/
def openSection (c : Collector) (version : Option String) (name : String) : Collector :=
  { c with report? := some ⟨version, some ⟨name, []⟩⟩, collecting := true }

/-- The collector behind the file section, if there was one. -/
def withSection (c : Collector) (version : Option String) (file? : Option FileReport) :
    Collector :=
  { c with report? := some ⟨version, file?⟩ }

theorem leave_section {c : Collector} (quiet : c.collecting = false) (version : Option String)
    (name : String) (issues : List Issue) :
    ((c.openSection version name).withIssues version ⟨name, []⟩ issues).leave 1 "file"
      = c.withSection version (some ⟨name, issues⟩) := by
  obtain ⟨names, report?, collecting⟩ := c
  cases quiet
  rfl

theorem enter_file {c : Collector} {version : Option String} (depth : c.names.length = 1)
    (held : c.report? = some ⟨version, none⟩) {tag : Tag} (isSection : tag.name = "file") :
    c.enter tag = (tag.text "name").map (c.openSection version) := by
  rw [enter_root depth, if_pos isSection]
  simp only [beginFile, held]
  rfl

theorem readSection_file {tag : Tag} (isSection : tag.name = "file")
    (children elements : List Element) :
    readSection (.mk tag children :: elements)
      = (tag.text "name").bind fun name =>
          (readIssues (issueElements children)).map fun issues => some ⟨name, issues⟩ := by
  simp [readSection, firstSection, isSection]

theorem readSection_other {tag : Tag} (other : tag.name ≠ "file")
    (children elements : List Element) :
    readSection (.mk tag children :: elements) = readSection elements := by
  simp [readSection, firstSection, other]

/-- The first file section: what is inside it is collected, and what is behind it does
not count. -/
theorem steps_pair_file {c : Collector} {version : Option String}
    (depth : c.names.length = 1) (quiet : c.collecting = false)
    (held : c.report? = some ⟨version, none⟩) {tag : Tag} (isSection : tag.name = "file")
    {children elements : List Element} {inner rest : List Event}
    (within : Spelled children inner) (later : Spelled elements rest) :
    c.steps (.opening tag :: (inner ++ .closing :: rest))
      = (readSection (.mk tag children :: elements)).map (c.withSection version) := by
  rw [readSection_file isSection, steps_pair, enter_file depth held isSection]
  cases tag.text "name" with
  | error malformed => rfl
  | ok name =>
      -- Inside, the name of the section lies on top of those around it.
      have inside := @steps_section _ _ within
        { c.openSection version name with names := "file" :: c.names } version ⟨name, []⟩
        (by simp only [List.length_cons, depth]) rfl rfl
      simp only [Except.map, Except.bind, isSection] at inside ⊢
      simp only [show (c.openSection version name).names = c.names from rfl, inside]
      cases readIssues (issueElements children) with
      | error malformed => rfl
      | ok issues =>
          have left : step (withIssues
              { c.openSection version name with names := "file" :: c.names }
              version ⟨name, []⟩ issues) .closing
              = .ok (c.withSection version (some ⟨name, issues⟩)) := by
            rw [← leave_section quiet, ← depth]
            rfl
          have behind := steps_behind_section later
            (c := c.withSection version (some ⟨name, issues⟩)) depth quiet rfl
          simp only [left, behind]

theorem steps_pair_root {c : Collector} {version : Option String}
    (depth : c.names.length = 1) (quiet : c.collecting = false)
    (held : c.report? = some ⟨version, none⟩) (tag : Tag)
    {children elements : List Element} {inner rest : List Event}
    (within : Spelled children inner) (later : Spelled elements rest)
    (behind : c.steps rest = (readSection elements).map (c.withSection version)) :
    c.steps (.opening tag :: (inner ++ .closing :: rest))
      = (readSection (.mk tag children :: elements)).map (c.withSection version) := by
  by_cases isSection : tag.name = "file"
  · exact steps_pair_file depth quiet held isSection within later
  · have passed : c.enter tag = .ok c := by
      rw [enter_root depth, if_neg isSection]
    rw [readSection_other isSection, ← behind]
    exact steps_pair_quiet depth quiet passed within rest

theorem steps_root {elements : List Element} {events : List Event}
    (spelled : Spelled elements events) {c : Collector} {version : Option String}
    (depth : c.names.length = 1) (quiet : c.collecting = false)
    (held : c.report? = some ⟨version, none⟩) :
    c.steps events = (readSection elements).map (c.withSection version) := by
  induction spelled with
  | nil =>
      obtain ⟨names, report?, collecting⟩ := c
      cases held
      rfl
  | aside _ ih => exact ih
  | empty tag later ih =>
      rw [steps_empty]
      exact steps_pair_root depth quiet held tag .nil later ih
  | pair tag within later _ ih => exact steps_pair_root depth quiet held tag within later ih

/-! ## The root -/

def lateFault (name : String) : Malformed :=
  if name = "checkstyle" then .secondRoot else .otherRoot name

/-- Behind the root no element may stand. -/
def endDocument : List Element → Except Malformed Unit
  | [] => .ok ()
  | next :: _ => .error (lateFault next.name)

/-- What a list of elements says where a root is awaited. -/
def readDocument : List Element → Except Malformed (Option Report)
  | [] => .ok none
  | root :: later =>
      if root.name = "checkstyle" then
        (root.tag.text? "version").bind fun version =>
          (readSection root.children).bind fun file? =>
            (endDocument later).map fun _ => some ⟨version, file?⟩
      else .error (.otherRoot root.name)

def atTop (report? : Option Report) : Collector :=
  ⟨[], report?, false⟩

def inRoot (version : Option String) (file? : Option FileReport) : Collector :=
  ⟨["checkstyle"], some ⟨version, file?⟩, false⟩

theorem enter_late (report : Report) (tag : Tag) :
    (atTop (some report)).enter tag = .error (lateFault tag.name) := by
  by_cases isRoot : tag.name = "checkstyle" <;>
    simp [enter, beginReport, atTop, lateFault, isRoot]

theorem enter_first (tag : Tag) :
    (atTop none).enter tag = if tag.name = "checkstyle"
      then (tag.text? "version").map fun version => atTop (some ⟨version, none⟩)
      else .error (.otherRoot tag.name) := by
  by_cases isRoot : tag.name = "checkstyle"
  · simp only [enter, beginReport, atTop, isRoot, if_true, List.length_nil]
    rfl
  · simp [enter, beginReport, atTop, isRoot]

theorem steps_behind_root {elements : List Element} {events : List Event}
    (spelled : Spelled elements events) (report : Report) :
    (atTop (some report)).steps events
      = (endDocument elements).map fun _ => atTop (some report) := by
  induction spelled with
  | nil => rfl
  | aside _ ih => exact ih
  | empty tag _ _ => simp only [steps, step, enter_late]; rfl
  | pair tag _ _ _ _ => rw [steps_pair, enter_late]; rfl

theorem steps_pair_document (tag : Tag) {children elements : List Element}
    {inner rest : List Event} (within : Spelled children inner)
    (later : Spelled elements rest) :
    (atTop none).steps (.opening tag :: (inner ++ .closing :: rest))
      = (readDocument (.mk tag children :: elements)).map atTop := by
  rw [steps_pair, enter_first]
  simp only [readDocument, Element.name_mk]
  by_cases isRoot : tag.name = "checkstyle"
  · simp only [isRoot, if_true, Element.tag_mk, Element.children_mk]
    cases tag.text? "version" with
    | error malformed => rfl
    | ok version =>
        have inside := steps_root within (c := inRoot version none) rfl rfl rfl
        simp only [Except.map, Except.bind] at inside ⊢
        have entered : { atTop (some ⟨version, none⟩) with
            names := "checkstyle" :: (atTop (some ⟨version, none⟩)).names }
            = inRoot version none := rfl
        simp only [entered, inside]
        cases readSection children with
        | error malformed => rfl
        | ok file? =>
            have left : step ((inRoot version none).withSection version file?) .closing
                = .ok (atTop (some ⟨version, file?⟩)) := rfl
            simp only [left, steps_behind_root later]
            cases elements <;> rfl
  · simp only [isRoot, if_false]
    rfl

theorem steps_document {elements : List Element} {events : List Event}
    (spelled : Spelled elements events) :
    initial.steps events = (readDocument elements).map atTop := by
  change (atTop none).steps events = _
  induction spelled with
  | nil => rfl
  | aside _ ih => exact ih
  | empty tag later _ =>
      rw [steps_empty]
      exact steps_pair_document tag .nil later
  | pair tag within later _ _ => exact steps_pair_document tag within later

/-! ## The report of a document -/

theorem readSection_eq_ok_iff (elements : List Element) (file? : Option FileReport) :
    readSection elements = .ok file?
      ↔ SectionMeans (elements.find? (·.name = "file")) file? := by
  unfold readSection firstSection
  cases elements.find? (·.name = "file") with
  | none => cases file? <;> simp [SectionMeans]
  | some element =>
      simp only [bind_eq_ok_iff, map_eq_ok_iff, readIssues_eq_ok_iff]
      cases file? with
      | none => simp [SectionMeans]
      | some file =>
          constructor
          · rintro ⟨name, named, issues, told, same⟩
            cases same
            exact ⟨named, told⟩
          · rintro ⟨named, told⟩
            exact ⟨file.name, named, file.issues, told, rfl⟩

theorem readDocument_eq_ok_iff (elements : List Element) (report : Report) :
    readDocument elements = .ok (some report) ↔ Means elements report := by
  cases elements with
  | nil => simp [readDocument, Means]
  | cons root later =>
      simp only [readDocument, Means, List.cons.injEq]
      by_cases isRoot : root.name = "checkstyle"
      · simp only [isRoot, if_true, bind_eq_ok_iff, map_eq_ok_iff, readSection_eq_ok_iff]
        constructor
        · rintro ⟨version, versioned, file?, means, _, alone, same⟩
          cases same
          cases later with
          | nil => exact ⟨root, ⟨rfl, rfl⟩, isRoot, versioned, means⟩
          | cons next more => cases alone
        · rintro ⟨_, ⟨rfl, rfl⟩, _, versioned, means⟩
          exact ⟨report.version, versioned, report.file, means, (), rfl, rfl⟩
      · simp only [isRoot, if_false, reduceCtorEq, false_iff]
        rintro ⟨_, ⟨rfl, _⟩, named, _⟩
        exact isRoot named

theorem finish_atTop (report? : Option Report) (report : Report) :
    (atTop report?).finish = .ok report ↔ report? = some report := by
  cases report? <;> simp [atTop, finish]

theorem run_document {elements : List Element} {events : List Event}
    (spelled : Spelled elements events) (report : Report) :
    (initial.run none events).value = .ok report ↔ Means elements report := by
  rw [run_value, steps_document spelled, ← readDocument_eq_ok_iff]
  cases readDocument elements with
  | error malformed => simp [Except.map, Except.bind]
  | ok report? => simp [Except.map, Except.bind, finish_atTop]

theorem run_closed {misread? : Option Misread} {events : List Event} {report : Report}
    (nested : Nested events) (done : (initial.run misread? events).value = .ok report) :
    misread? = none ∧ openAfter 0 events = some 0 := by
  rw [run_value] at done
  cases walked : initial.steps events with
  | error malformed => rw [walked] at done; cases done
  | ok last =>
      rw [walked] at done
      cases misread? with
      | some misread => cases done
      | none =>
          obtain ⟨n, opened⟩ := Option.isSome_iff_exists.mp nested
          have depth := steps_openAfter walked opened
          cases names : last.names with
          | nil =>
              rw [names] at depth
              rw [opened, ← depth]
              exact ⟨rfl, rfl⟩
          | cons name outer =>
              simp only [Except.bind, finish, names] at done
              cases done

end Collector

theorem parse_value_eq_ok_iff (text : String) (report : Report) :
    (parse text).value = .ok report ↔
      (Collector.initial.run (Markup.read text.toList).2 (Markup.read text.toList).1).value
        = .ok report := by
  simp only [parse, read, Logged.value_bind, Logged.value_pure, mapError_eq_ok_iff]

/-- Events are read as a report exactly where nothing broke them off and they spell a
document that means this report; so are the events of a text. -/
theorem run_eq_ok_iff_means :
    (∀ (misread? : Option Misread) (events : List Event) (report : Report), Nested events →
      ((Collector.initial.run misread? events).value = .ok report ↔
        misread? = none ∧ ∃ elements, Spelled elements events ∧ Means elements report)) ∧
    ∀ (text : String) (report : Report),
      (parse text).value = .ok report ↔
        (Markup.read text.toList).2 = none ∧
          ∃ elements, Spelled elements (Markup.read text.toList).1 ∧ Means elements report := by
  have events_iff : ∀ (misread? : Option Misread) (events : List Event) (report : Report),
      Nested events → ((Collector.initial.run misread? events).value = .ok report ↔
        misread? = none ∧ ∃ elements, Spelled elements events ∧ Means elements report) := by
    intro misread? events report nested
    constructor
    · intro done
      obtain ⟨rfl, closed⟩ := Collector.run_closed nested done
      obtain ⟨elements, spelled⟩ := exists_spelled closed
      exact ⟨rfl, elements, spelled, (Collector.run_document spelled report).mp done⟩
    · rintro ⟨rfl, elements, spelled, means⟩
      exact (Collector.run_document spelled report).mpr means
  refine ⟨events_iff, fun text report => ?_⟩
  rw [← events_iff _ _ _ (read_nested text.toList)]
  exact parse_value_eq_ok_iff text report

/-- A document with a nested and a second file section, and unreadable attributes where
nothing is looked at. -/
def crowdedEvents : List Event :=
  [.aside, .opening ⟨"checkstyle version='1'".toList⟩, .opening ⟨"note".toList⟩,
   .empty ⟨"error line='x'".toList⟩, .closing, .opening ⟨"file name='a'".toList⟩,
   .opening ⟨"file".toList⟩, .empty ⟨"error line='x'".toList⟩, .closing,
   .opening ⟨"error line='-3' message='&lt;'".toList⟩, .empty ⟨"error".toList⟩, .closing,
   .closing, .opening ⟨"file name='b'".toList⟩, .empty ⟨"error line='x'".toList⟩, .closing,
   .closing, .aside]

def crowdedReport : Report :=
  ⟨some "1", some ⟨"a", [⟨"", -3, 0, .error, "<"⟩]⟩⟩

theorem crowded_means :
    Nested crowdedEvents ∧
      ∃ elements, Spelled elements crowdedEvents ∧ Means elements crowdedReport := by
  have nested : Nested crowdedEvents := by decide
  have done : (Collector.initial.run none crowdedEvents).value = .ok crowdedReport := rfl
  exact ⟨nested, ((run_eq_ok_iff_means.1 none crowdedEvents crowdedReport nested).mp done).2⟩

end LintBridge.Report
