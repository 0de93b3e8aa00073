import LintBridge.Proofs.Report.Meaning

/-!
# The collector's bookkeeping

The collector keeps names and a flag, and no tree.  Yet at every place of a series of events
they are those of the tree: the names are those of the open elements, the one root among them
has begun the report, and the flag is set exactly in the first file section under the root.
So each place where the collector could pass something over in silence is never reached.

The names and the flag change at different moments of an event.  `Keeps` has one case for each
kind of place, outside the root, directly in it and below, and every event leads from one to
another.
-/

set_option autoImplicit false

namespace LintBridge.Report

open Markup Result

/-- One of the elements is a file section. -/
def HasFile (elements : List Element) : Prop :=
  ∃ element ∈ elements, element.name = "file"

/-- A file section, and none before it beside it. -/
def FirstFile (child : OpenElement) : Prop :=
  child.tag.name = "file" ∧ ¬ HasFile child.before

/-- The open element directly inside the root is the first file section there. -/
def FirstFileOpen (opened : List OpenElement) : Prop :=
  ∃ deeper child root, opened = deeper ++ [child, root] ∧ FirstFile child

theorem hasFile_snoc (before : List Element) (tag : Tag) (children : List Element) :
    HasFile (before ++ [.mk tag children]) ↔ HasFile before ∨ tag.name = "file" := by
  simp [HasFile, or_and_right, exists_or]

theorem firstFileOpen_below (deeper : List OpenElement) (child root : OpenElement) :
    FirstFileOpen (deeper ++ [child, root]) ↔ FirstFile child := by
  constructor
  · rintro ⟨deeper', child', root', same, first⟩
    obtain ⟨-, last⟩ := List.append_inj' same rfl
    cases last
    exact first
  · intro first
    exact ⟨deeper, child, root, rfl, first⟩

namespace Collector

/-! ## The three kinds of places -/

/-- What the collector has at the end of a trail. -/
inductive Keeps : Trail → Collector → Prop where
  | outside (ended : List Element) (report? : Option Report) :
      Keeps ⟨[], ended⟩ ⟨[], report?, false⟩
  | inRoot {root : OpenElement} {ended : List Element} {report : Report}
      (isRoot : root.tag.name = "checkstyle") (told : report.file.isSome = true ↔ HasFile ended) :
      Keeps ⟨[root], ended⟩ ⟨[root.tag.name], some report, false⟩
  | below (deeper : List OpenElement) {child root : OpenElement} (ended : List Element)
      {report : Report} {collecting : Bool} (isRoot : root.tag.name = "checkstyle")
      (told : report.file.isSome = true ↔ HasFile child.before ∨ child.tag.name = "file")
      (counts : collecting = true ↔ FirstFile child) :
      Keeps ⟨deeper ++ [child, root], ended⟩
        ⟨(deeper ++ [child, root]).map (·.tag.name), some report, collecting⟩

theorem beginReport_keeps {report? : Option Report} {entered : Collector} {tag : Tag}
    (ended : List Element) (done : (atTop report?).beginReport tag = .ok entered) :
    Keeps ⟨[⟨ended, tag⟩], []⟩ { entered with names := tag.name :: entered.names } := by
  unfold beginReport at done
  split at done
  · rename_i isRoot
    cases report? with
    | some report => cases done
    | none =>
        obtain ⟨version, -, same⟩ := bind_eq_ok_iff.mp done
        cases same
        exact .inRoot isRoot (by simp [HasFile])
  · cases done

theorem beginFile_keeps {root : OpenElement} {ended : List Element} {report : Report}
    {entered : Collector} {tag : Tag} (isRoot : root.tag.name = "checkstyle")
    (told : report.file.isSome = true ↔ HasFile ended) (isFile : tag.name = "file")
    (done : beginFile ⟨[root.tag.name], some report, false⟩ tag = .ok entered) :
    Keeps ⟨[⟨ended, tag⟩, root], []⟩ { entered with names := tag.name :: entered.names } := by
  obtain ⟨version, file?⟩ := report
  cases file? with
  | none =>
      obtain ⟨name, -, same⟩ := bind_eq_ok_iff.mp done
      cases same
      exact .below [] [] isRoot (iff_of_true rfl (.inr isFile))
        (iff_of_true rfl ⟨isFile, fun earlier => nomatch told.mpr earlier⟩)
  | some file =>
      cases done
      exact .below [] [] isRoot (iff_of_true rfl (.inr isFile))
        (iff_of_false Bool.false_ne_true fun first => first.2 (told.mp rfl))

/-- Where at least two elements are open, an element adds an issue or nothing. -/
theorem enter_below {c entered : Collector} {tag : Tag} {report : Report}
    (deep : 2 ≤ c.names.length) (held : c.report? = some report)
    (done : c.enter tag = .ok entered) :
    ∃ report', entered = { c with report? := some report' }
      ∧ report'.file.isSome = report.file.isSome := by
  have unchanged : ∃ report', c = { c with report? := some report' }
      ∧ report'.file.isSome = report.file.isSome := ⟨report, by rw [← held], rfl⟩
  unfold enter at done
  split at done
  · omega
  · omega
  · split at done
    · obtain ⟨issue, -, rfl⟩ := map_eq_ok_iff.mp done
      obtain ⟨version, file?⟩ := report
      cases file? with
      | none =>
          simp only [add, held]
          exact unchanged
      | some file =>
          simp only [add, held]
          exact ⟨_, rfl, rfl⟩
    · cases done
      exact unchanged
  · cases done
    exact unchanged

theorem opening_keeps {trail : Trail} {c next : Collector} {tag : Tag} (kept : Keeps trail c)
    (stepped : c.step (.opening tag) = .ok next) :
    Keeps ⟨⟨trail.ended, tag⟩ :: trail.opened, []⟩ next := by
  obtain ⟨entered, done, rfl⟩ := map_eq_ok_iff.mp stepped
  cases kept with
  | outside ended report? => exact beginReport_keeps ended done
  | @inRoot root ended report isRoot told =>
      rw [enter_root rfl] at done
      split at done
      · exact beginFile_keeps isRoot told (by assumption) done
      · rename_i other
        cases done
        exact .below [] [] isRoot (by simpa only [other, or_false] using told)
          (iff_of_false Bool.false_ne_true fun first => other first.1)
  | @below deeper child root ended report collecting isRoot told counts =>
      obtain ⟨report', rfl, same⟩ := enter_below (by simp) rfl done
      exact .below (⟨ended, tag⟩ :: deeper) [] isRoot (by rw [same]; exact told) counts

theorem closing_keeps {trail trail' : Trail} {c next : Collector} (kept : Keeps trail c)
    (moved : trail.next .closing = some trail') (stepped : c.step .closing = .ok next) :
    Keeps trail' next := by
  cases kept with
  | outside => cases moved
  | inRoot =>
      cases moved
      cases stepped
      exact .outside _ _
  | @below deeper child root ended report collecting isRoot told counts =>
      cases deeper with
      | nil =>
          cases moved
          cases stepped
          -- The section that counts is left, or the flag was not set.
          have left : leave ⟨[root.tag.name], some report, collecting⟩ 1 child.tag.name
              = ⟨[root.tag.name], some report, false⟩ := by
            by_cases isFile : child.tag.name = "file"
            · simp [leave, isFile]
            · have quiet : collecting = false :=
                Bool.eq_false_iff.mpr fun set => isFile (counts.mp set).1
              rw [quiet]
              exact leave_quiet rfl 1 _
          exact left ▸ .inRoot isRoot (told.trans (hasFile_snoc _ _ _).symm)
      | cons innermost deeper =>
          cases moved
          cases stepped
          rw [leave_deep _ (by simp)]
          exact .below deeper _ isRoot told counts

theorem step_keeps {trail trail' : Trail} {c next : Collector} {event : Event}
    (kept : Keeps trail c) (moved : trail.next event = some trail')
    (stepped : c.step event = .ok next) : Keeps trail' next := by
  cases event with
  | aside =>
      cases moved
      cases stepped
      exact kept
  | opening tag =>
      cases moved
      exact opening_keeps kept stepped
  | closing => exact closing_keeps kept moved stepped
  | empty tag =>
      cases moved
      have both : c.steps [.empty tag] = c.steps [.opening tag, .closing] := steps_empty c tag []
      have gone : c.steps [.empty tag] = .ok next := by simp only [steps, stepped]; rfl
      rw [both] at gone
      obtain ⟨inside, opened, gone⟩ := bind_eq_ok_iff.mp gone
      obtain ⟨left, closed, gone⟩ := bind_eq_ok_iff.mp gone
      cases gone
      exact closing_keeps (opening_keeps kept opened) rfl closed

theorem steps_keeps {trail trail' : Trail} {c last : Collector} {events : List Event}
    (kept : Keeps trail c) (gone : trail.through events = some trail')
    (done : c.steps events = .ok last) : Keeps trail' last := by
  induction events generalizing trail c with
  | nil =>
      cases gone
      cases done
      exact kept
  | cons event rest ih =>
      obtain ⟨between, moved, gone⟩ := Option.bind_eq_some_iff.mp gone
      obtain ⟨next, stepped, done⟩ := bind_eq_ok_iff.mp done
      exact ih (step_keeps kept moved stepped) gone done

/-! ## What is kept -/

/-- What the collector has where these elements are open. -/
structure Bookkeeping (opened : List OpenElement) (c : Collector) : Prop where
  names : c.names = opened.map (·.tag.name)
  rooted : opened ≠ [] → c.report?.isSome = true ∧ c.names.getLast? = some "checkstyle"
  collecting : c.collecting = true ↔ FirstFileOpen opened
  held : c.collecting = true → ∃ version file, c.report? = some ⟨version, some file⟩

theorem Keeps.bookkeeping {trail : Trail} {c : Collector} (kept : Keeps trail c) :
    Bookkeeping trail.opened c := by
  cases kept with
  | outside ended report? =>
      exact ⟨rfl, (absurd rfl ·), iff_of_false Bool.false_ne_true (by simp [FirstFileOpen]), nofun⟩
  | inRoot isRoot told =>
      refine ⟨rfl, fun _ => ⟨rfl, congrArg some isRoot⟩, iff_of_false Bool.false_ne_true ?_, nofun⟩
      rintro ⟨deeper, child, root, alone, -⟩
      have depth := congrArg List.length alone
      simp at depth
  | @below deeper child root ended report collecting isRoot told counts =>
      refine ⟨rfl, fun _ => ⟨rfl, ?_⟩, counts.trans (firstFileOpen_below deeper child root).symm, ?_⟩
      · simp [isRoot]
      · intro set
        obtain ⟨version, file?⟩ := report
        obtain ⟨file, rfl⟩ := Option.isSome_iff_exists.mp (told.mpr (.inr (counts.mp set).1))
        exact ⟨version, file, rfl⟩

/-- The event begins an element. -/
def Begins (tag : Tag) (event : Event) : Prop :=
  event = .opening tag ∨ event = .empty tag

theorem step_begins {c entered : Collector} {tag : Tag} {event : Event} (begins : Begins tag event)
    (done : c.enter tag = .ok entered) :
    ∃ next, c.step event = .ok next ∧ next.report? = entered.report? := by
  have left : ∀ depth name, (entered.leave depth name).report? = entered.report? := by
    intro depth name
    unfold leave
    split <;> rfl
  rcases begins with rfl | rfl
  · exact ⟨_, congrArg (Except.map _) done, rfl⟩
  · exact ⟨_, congrArg (Except.map _) done, left _ _⟩

namespace Bookkeeping

variable {opened : List OpenElement} {c : Collector} {tag : Tag} {event : Event}

theorem depth (books : Bookkeeping opened c) : c.names.length = opened.length := by
  rw [books.names, List.length_map]

/-- A file section under the root finds a report: it is the report's, or the log tells of it. -/
theorem file_begins (books : Bookkeeping opened c) (depth : opened.length = 1)
    (isFile : tag.name = "file") (begins : Begins tag event) :
    ∃ report, c.report? = some report
      ∧ (c.passesOver event = true ↔ report.file.isSome = true)
      ∧ ∀ name, tag.text "name" = .ok name → report.file = none →
        ∃ next, c.step event = .ok next
          ∧ next.report? = some { report with file := some ⟨name, []⟩ } := by
  have inside : opened ≠ [] := List.ne_nil_of_length_eq_add_one depth
  have one : c.names.length = 1 := books.depth.trans depth
  obtain ⟨⟨version, file?⟩, held⟩ := Option.isSome_iff_exists.mp (books.rooted inside).1
  refine ⟨_, held, ?_, ?_⟩
  · rcases begins with rfl | rfl <;> simp [passesOver, one, isFile, held]
  · rintro name named rfl
    have entered : c.enter tag = .ok (c.openSection version name) := by
      rw [enter_file one held isFile, named]
      rfl
    exact step_begins begins entered

/-- An issue that is told in the section that counts goes behind the others there. -/
theorem issue_begins (books : Bookkeeping opened c) (depth : opened.length = 2)
    (first : FirstFileOpen opened) (isIssue : tag.name = "error") {issue : Issue}
    (told : tag.issue = .ok issue) (begins : Begins tag event) :
    ∃ version file next, c.report? = some ⟨version, some file⟩ ∧ c.step event = .ok next
      ∧ next.report? = some ⟨version, some { file with issues := file.issues ++ [issue] }⟩ := by
  have counts := books.collecting.mpr first
  obtain ⟨version, file, held⟩ := books.held counts
  have entered : c.enter tag = .ok (c.withIssues version file [issue]) := by
    rw [enter_section (books.depth.trans depth) counts held, if_pos isIssue, told]
    rfl
  obtain ⟨next, stepped, same⟩ := step_begins begins entered
  exact ⟨version, file, next, held, stepped, same⟩

theorem finish_unclosed_iff (books : Bookkeeping opened c) (name : String) :
    c.finish = .error (.unclosed name)
      ↔ ∃ innermost outer, opened = innermost :: outer ∧ innermost.tag.name = name := by
  unfold finish
  rw [books.names]
  cases opened with
  | nil => cases c.report? <;> simp
  | cons innermost outer => simp

end Bookkeeping

/-! ## Faults of single events -/

/-- The fault is one of the end of the document. -/
def AtEnd : Malformed → Prop
  | .unclosed _ | .noRoot => True
  | _ => False

/-- What can go wrong here is no fault of the end. -/
def Early {α : Type} (x : Except Malformed α) : Prop :=
  ∀ malformed, x = .error malformed → ¬ AtEnd malformed

theorem early_ok {α : Type} (a : α) : Early (.ok a) :=
  nofun

theorem early_error {α : Type} {malformed : Malformed} (early : ¬ AtEnd malformed) :
    Early (.error malformed : Except Malformed α) := by
  intro _ same
  cases same
  exact early

theorem Early.bind {α β : Type} {x : Except Malformed α} {f : α → Except Malformed β}
    (first : Early x) (later : ∀ a, Early (f a)) : Early (x.bind f) := by
  cases x with
  | error malformed => exact early_error (first malformed rfl)
  | ok a => exact later a

theorem Early.map {α β : Type} {x : Except Malformed α} (first : Early x) (f : α → β) :
    Early (x.map f) := by
  cases x with
  | error malformed => exact early_error (first malformed rfl)
  | ok a => exact early_ok (f a)

theorem early_text? (tag : Tag) (key : String) : Early (tag.text? key) := by
  unfold Tag.text?
  split
  · exact early_error id
  · exact early_ok none
  · split
    · exact early_error id
    · exact early_ok _

theorem early_integer (tag : Tag) (key : String) : Early (tag.integer key) := by
  unfold Tag.integer
  split
  · exact early_error (early_text? tag key _ (by assumption))
  · exact early_ok 0
  · split
    · exact early_ok _
    · exact early_error id

theorem early_issue (tag : Tag) : Early tag.issue :=
  .bind ((early_text? tag _).map _) fun _ =>
    .bind (early_integer tag _) fun _ =>
      .bind (early_integer tag _) fun _ =>
        .bind (early_text? tag _) fun _ =>
          .bind ((early_text? tag _).map _) fun _ => early_ok _

theorem early_enter (c : Collector) (tag : Tag) : Early (c.enter tag) := by
  unfold enter
  split
  · unfold beginReport
    split
    · split
      · exact early_error id
      · exact .bind (early_text? tag _) fun _ => early_ok _
    · exact early_error id
  · split
    · unfold beginFile
      split
      · exact .bind ((early_text? tag _).map _) fun _ => early_ok _
      · exact early_ok c
    · exact early_ok c
  · split
    · exact (early_issue tag).map _
    · exact early_ok c
  · exact early_ok c

theorem early_steps (c : Collector) (events : List Event) : Early (c.steps events) := by
  induction events generalizing c with
  | nil => exact early_ok c
  | cons event rest ih =>
      refine .bind ?_ ih
      cases event with
      | opening tag => exact (early_enter c tag).map _
      | empty tag => exact (early_enter c tag).map _
      | aside => exact early_ok c
      | closing =>
          simp only [step]
          split <;> exact early_ok _

/-! ## Behind every event -/

theorem bookkeeping_of_steps {events : List Event} {c : Collector} {opened : List OpenElement}
    {ended : List Element} (done : initial.steps events = .ok c)
    (leaves : LeavesOpen opened ended events) : Bookkeeping opened c :=
  have gone : Trail.outset.through events = some ⟨opened, ended⟩ :=
    Trail.through_eq_some_iff.mpr leaves
  (steps_keeps (.outside [] none) gone done).bookkeeping

theorem nested_of_prefix {events whole : List Event} (front : events <+: whole)
    (nested : Nested whole) : Nested events := by
  obtain ⟨rest, rfl⟩ := front
  obtain ⟨n, opens⟩ := Option.isSome_iff_exists.mp nested
  rw [openAfter_append] at opens
  obtain ⟨depth, opens, -⟩ := Option.bind_eq_some_iff.mp opens
  exact Option.isSome_iff_exists.mpr ⟨depth, opens⟩

theorem closing_finds_name {events : List Event} {c : Collector} {opened : List OpenElement}
    (done : initial.steps events = .ok c) (books : Bookkeeping opened c)
    (ends : Nested (events ++ [.closing])) : opened ≠ [] := by
  obtain ⟨n, opens⟩ := Option.isSome_iff_exists.mp ends
  rw [openAfter_append] at opens
  obtain ⟨depth, opens, closes⟩ := Option.bind_eq_some_iff.mp opens
  have deep : opened.length = depth := books.depth.symm.trans (steps_openAfter done opens)
  rintro rfl
  cases deep
  cases closes

theorem run_of_steps {events : List Event} {c : Collector} (done : initial.steps events = .ok c)
    (misread? : Option Misread) (rest : List Event) :
    (initial.run misread? (events ++ rest)).value = (c.run misread? rest).value := by
  rw [run_value, run_value, steps_append, done]
  rfl

theorem read_unclosed {text name : String}
    (unclosed : (read text).value = .error (.unclosed name)) :
    ∃ c, initial.steps (Markup.read text.toList).1 = .ok c
      ∧ c.finish = .error (.unclosed name) := by
  have value : (read text).value = _ :=
    run_value (Markup.read text.toList).2 initial (Markup.read text.toList).1
  rw [unclosed] at value
  cases done : initial.steps (Markup.read text.toList).1 with
  | error malformed =>
      rw [done] at value
      cases value
      exact absurd trivial (early_steps _ _ _ done)
  | ok c =>
      rw [done] at value
      cases misread : (Markup.read text.toList).2 with
      | some misread => rw [misread] at value; cases value
      | none => rw [misread] at value; exact ⟨c, rfl, value.symm⟩

end Collector

open Collector

/-- Behind every series of events that the reader can give, as long as no event is malformed, the
names are those of the open elements, the root among them has begun the report, and the flag is
set exactly in the first file section of the root.  So a file section there finds a report, an
issue is added to the section that counts, an end finds a name, and the element in which a
document breaks off is one that is open. -/
theorem events_keep_books :
    (∀ (text : String) (events : List Event), events <+: (Markup.read text.toList).1 →
      Nested events) ∧
    (∀ (events : List Event) (c : Collector), Nested events → initial.steps events = .ok c →
      (∀ misread? rest,
        (initial.run misread? (events ++ rest)).value = (c.run misread? rest).value) ∧
      (∃ opened ended, LeavesOpen opened ended events) ∧
      ∀ opened ended, LeavesOpen opened ended events → Bookkeeping opened c
        ∧ (∀ tag event, opened.length = 1 → tag.name = "file" → Begins tag event →
          ∃ report, c.report? = some report
            ∧ (c.passesOver event = true ↔ report.file.isSome = true)
            ∧ ∀ name, tag.text "name" = .ok name → report.file = none →
              ∃ next, c.step event = .ok next
                ∧ next.report? = some { report with file := some ⟨name, []⟩ })
        ∧ (∀ tag issue event, opened.length = 2 → FirstFileOpen opened → tag.name = "error" →
          tag.issue = .ok issue → Begins tag event →
          ∃ version file next, c.report? = some ⟨version, some file⟩ ∧ c.step event = .ok next
            ∧ next.report? = some ⟨version, some { file with issues := file.issues ++ [issue] }⟩)
        ∧ (Nested (events ++ [.closing]) →
          ∃ innermost outer, opened = innermost :: outer
            ∧ c.names = innermost.tag.name :: outer.map (·.tag.name))
        ∧ ∀ name, c.finish = .error (.unclosed name) ↔
          ∃ innermost outer, opened = innermost :: outer ∧ innermost.tag.name = name) ∧
    ∀ (text name : String), (read text).value = .error (.unclosed name) →
      ∃ innermost outer ended,
        LeavesOpen (innermost :: outer) ended (Markup.read text.toList).1
          ∧ innermost.tag.name = name := by
  refine ⟨fun text events front => nested_of_prefix front (read_nested text.toList), ?_, ?_⟩
  · intro events c nested done
    refine ⟨run_of_steps done, nested_iff_leavesOpen.mp nested, fun opened ended leaves => ?_⟩
    have books := bookkeeping_of_steps done leaves
    refine ⟨books, fun tag event => books.file_begins, ?_, ?_, books.finish_unclosed_iff⟩
    · exact fun tag issue event depth first isIssue told begins =>
        books.issue_begins depth first isIssue told begins
    · intro ends
      obtain ⟨innermost, outer, rfl⟩ :=
        List.exists_cons_of_ne_nil (closing_finds_name done books ends)
      exact ⟨innermost, outer, rfl, books.names⟩
  · intro text name unclosed
    obtain ⟨c, done, finished⟩ := read_unclosed unclosed
    obtain ⟨opened, ended, leaves⟩ := nested_iff_leavesOpen.mp (read_nested text.toList)
    obtain ⟨innermost, outer, rfl, named⟩ :=
      ((bookkeeping_of_steps done leaves).finish_unclosed_iff name).mp finished
    exact ⟨innermost, outer, ended, leaves, named⟩

/-- The crowded document up to its root, and up to the beginning of its first file section. -/
def rootEvents : List Event :=
  crowdedEvents.take 2

def sectionEvents : List Event :=
  crowdedEvents.take 6

def rootTrail : List OpenElement :=
  [⟨[], ⟨"checkstyle version='1'".toList⟩⟩]

def sectionTrail : List OpenElement :=
  ⟨[.mk ⟨"note".toList⟩ [.mk ⟨"error line='x'".toList⟩ []]], ⟨"file name='a'".toList⟩⟩ :: rootTrail

theorem crowded_books :
    Nested sectionEvents ∧ LeavesOpen rootTrail [] rootEvents
      ∧ LeavesOpen sectionTrail [] sectionEvents
      ∧ initial.steps rootEvents = .ok (inRoot (some "1") none)
      ∧ (∃ next, (inRoot (some "1") none).step (.opening ⟨"file name='a'".toList⟩) = .ok next
        ∧ next.report? = some ⟨some "1", some ⟨"a", []⟩⟩)
      ∧ ∃ c, initial.steps sectionEvents = .ok c ∧ c.names = ["file", "checkstyle"]
        ∧ c.collecting = true
        ∧ (∃ next, c.step (.empty ⟨"error line='2'".toList⟩) = .ok next
          ∧ next.report? = some ⟨some "1", some ⟨"a", [⟨"", 2, 0, .error, ""⟩]⟩⟩)
        ∧ c.finish = .error (.unclosed "file")
        ∧ (read "<checkstyle><file>").value = .error (.unclosed "file")
        ∧ ∃ innermost outer ended,
          LeavesOpen (innermost :: outer) ended (Markup.read "<checkstyle><file>".toList).1
            ∧ innermost.tag.name = "file" := by
  have nested : Nested rootEvents := by decide
  have done : initial.steps rootEvents = .ok (inRoot (some "1") none) := rfl
  have leaves : LeavesOpen rootTrail [] rootEvents :=
    (@Trail.through_eq_some_iff rootEvents ⟨rootTrail, []⟩).mp rfl
  have nested' : Nested sectionEvents := by decide
  have done' : initial.steps sectionEvents
      = .ok ⟨["file", "checkstyle"], some ⟨some "1", some ⟨"a", []⟩⟩, true⟩ := rfl
  have leaves' : LeavesOpen sectionTrail [] sectionEvents :=
    (@Trail.through_eq_some_iff sectionEvents ⟨sectionTrail, []⟩).mp rfl
  have broken : (read "<checkstyle><file>").value = .error (.unclosed "file") := rfl
  obtain ⟨-, -, each⟩ := events_keep_books.2.1 rootEvents _ nested done
  obtain ⟨-, files, -⟩ := each rootTrail [] leaves
  obtain ⟨report, held, -, begun⟩ :=
    files ⟨"file name='a'".toList⟩ (.opening ⟨"file name='a'".toList⟩) rfl rfl (.inl rfl)
  cases held
  obtain ⟨-, -, each'⟩ := events_keep_books.2.1 sectionEvents _ nested' done'
  obtain ⟨books, -, issues, -, unclosed⟩ := each' sectionTrail [] leaves'
  obtain ⟨version, file, next, held, stepped, stored⟩ :=
    issues ⟨"error line='2'".toList⟩ ⟨"", 2, 0, .error, ""⟩ (.empty ⟨"error line='2'".toList⟩) rfl
      (books.collecting.mp rfl) rfl rfl (.inr rfl)
  cases held
  exact ⟨nested', leaves, leaves', done, begun "a" rfl rfl, _, done', books.names, rfl,
    ⟨next, stepped, stored⟩, (unclosed "file").mpr ⟨_, _, rfl, rfl⟩, broken,
    events_keep_books.2.2 "<checkstyle><file>" "file" broken⟩

end LintBridge.Report
