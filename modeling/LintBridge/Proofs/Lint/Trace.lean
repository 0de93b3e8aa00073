import LintBridge.Proofs.Host.Files
import LintBridge.Proofs.Lint.Conduct
import LintBridge.Proofs.Machine.Locating
import LintBridge.Proofs.Path.Copies

/-!
# What annotating leaves behind

Nothing: the copy that was made is gone, on whatever way the job ends, and all else is as
the linter left it.  The linter may do anything to the files, as long as the path of the
copy still leads to the copy.
-/

set_option autoImplicit false

namespace LintBridge

namespace Request

/-- The file that was made. -/
def made? : (r : Request) → r.Reply → Option Path
  | .createCopy _ _ _, reply => Except.toOption reply
  | .log _, _ | .currentDirectory, _ | .read _, _ | .kind _, _ | .canonical _, _ => none
  | .write _ _, _ | .remove _, _ | .launch _ _, _ | .clock, _ => none

end Request

section

variable {σ : Type} (host : FileHost σ)

/-- A file is made where nothing stood. -/
def Passage.Makes (p : Passage σ) (copy : Path) (place : Location) : Prop :=
  p.request.made? p.reply = some copy ∧
    (host.tree p.before).IsFree (host.current p.before) copy place

/-- The files as the last process left them, or as they were first. -/
def leftBy (first : FileTree) (course : List (Passage σ)) : FileTree :=
  course.foldl (fun tree p => if p.request.startsProcess then host.tree p.after else tree) first

theorem leftBy_concat (first : FileTree) (course : List (Passage σ)) (p : Passage σ) :
    leftBy host first (course ++ [p]) =
      if p.request.startsProcess then host.tree p.after else leftBy host first course := by
  rw [leftBy, List.foldl_append]
  rfl

end

/-! ## The files while a document is linted -/

section

variable {σ : Type} (host : FileHost σ) (s : σ) (path : Path) (content : String)

/-- No file has been made, and none been changed but by the linter. -/
structure Untouched (past : List (Passage σ)) (s' : σ) : Prop where
  none_ : ∀ p ∈ past, p.request.made? p.reply = none
  tree : host.tree s' = leftBy host (host.tree s) past

/-- One file has been made, at a free place, and none been changed but there or by the
linter. -/
structure Touched (copy : Path) (place : Location) (past : List (Passage σ)) (s' : σ) : Prop where
  free : (host.tree s).IsFree (host.current s) copy place
  made : ∃ p ∈ past, p.request.made? p.reply = some copy
  only : ∀ p ∈ past, ∀ other, p.request.made? p.reply = some other →
    other = copy ∧ p.Makes host copy place
  rest : ∀ location, location ≠ place →
    (host.tree s').get? location = (leftBy host (host.tree s) past).get? location

/-- The path of the copy leads to a file at the place. -/
def HasCopy (copy : Path) (place : Location) (s' : σ) : Prop :=
  ∃ bytes executable,
    (host.tree s').locate false (host.current s) copy = .ok (.found place (.file bytes executable))

/-- The copy is there, and nothing else is new. -/
structure Fresh (copy : Path) (place : Location) (past : List (Passage σ)) (s' : σ) : Prop
    extends Touched host s copy place past s' where
  ending : copy.body.getLast? ≠ some ""
  alike : (host.tree s).Alike (host.tree s')
  there : ∃ bytes executable, (host.tree s').get? place = some (.file bytes executable)

/-- What holds of the files at a stage. -/
def Stage.Holds (past : List (Passage σ)) (s' : σ) : Stage → Prop
  | .unread => Untouched host s past s' ∧ host.tree s' = host.tree s
  | .unsaved =>
      Untouched host s past s' ∧ host.tree s' = host.tree s ∧
        (host.tree s).read (host.current s) path ≠ .ok (Text.encode content)
  | .saved => Untouched host s past s'
  | .created copy => ∃ place, Fresh host s copy place past s'
  | .filled copy | .spoiled copy =>
      ∃ place, Touched host s copy place past s' ∧ HasCopy host s copy place s'
  | .removed =>
      ∃ copy place, Touched host s copy place past s' ∧
        (host.tree s').IsFree (host.current s) copy place

/-- What holds all along. -/
structure Steady (whole : List (Passage σ)) (c : Conduct) (past : List (Passage σ)) (s' : σ) :
    Prop where
  current : host.current s' = host.current s
  inside : ∀ p ∈ past, p ∈ whole
  spare : (host.tree s).read (host.current s) path = .ok (Text.encode content) →
    ∀ p ∈ past, p.request.createsFile = false
  stage : c.stage.Holds host s path content past s'

variable {host : FileHost σ} {s : σ} {path : Path} {content : String}
  {past : List (Passage σ)} {s' : σ} {copy : Path} {place : Location} {p : Passage σ}

theorem Untouched.quiet (untouched : Untouched host s past s')
    (none_ : p.request.made? p.reply = none) (starts : p.request.startsProcess = false)
    (same : host.tree p.after = host.tree s') : Untouched host s (past ++ [p]) p.after where
  none_ := by
    rw [List.forall_mem_append]
    exact ⟨untouched.none_, by simpa using none_⟩
  tree := by
    rw [leftBy_concat, if_neg (by simp [starts]), same, untouched.tree]

theorem Untouched.launched (untouched : Untouched host s past s')
    (none_ : p.request.made? p.reply = none) (starts : p.request.startsProcess = true) :
    Untouched host s (past ++ [p]) p.after where
  none_ := by
    rw [List.forall_mem_append]
    exact ⟨untouched.none_, by simpa using none_⟩
  tree := by
    rw [leftBy_concat, if_pos starts]

theorem Touched.concat (touched : Touched host s copy place past s')
    (none_ : p.request.made? p.reply = none)
    (rest : ∀ location, location ≠ place → (host.tree p.after).get? location
      = (leftBy host (host.tree s) (past ++ [p])).get? location) :
    Touched host s copy place (past ++ [p]) p.after where
  free := touched.free
  made := by
    obtain ⟨q, member, made⟩ := touched.made
    exact ⟨q, List.mem_append_left _ member, made⟩
  only := by
    rw [List.forall_mem_append]
    refine ⟨touched.only, fun q member other made => ?_⟩
    rw [List.mem_singleton] at member
    subst member
    cases none_.symm.trans made
  rest := rest

theorem Touched.quiet (touched : Touched host s copy place past s')
    (none_ : p.request.made? p.reply = none) (starts : p.request.startsProcess = false)
    (same : ∀ location, location ≠ place →
      (host.tree p.after).get? location = (host.tree s').get? location) :
    Touched host s copy place (past ++ [p]) p.after :=
  touched.concat none_ fun location apart => by
    rw [leftBy_concat, if_neg (by simp [starts]), same location apart]
    exact touched.rest location apart

theorem Fresh.found (fresh : Fresh host s copy place past s') (follow : Bool) :
    ∃ bytes executable, (host.tree s').locate follow (host.current s) copy
      = .ok (.found place (.file bytes executable)) := by
  obtain ⟨bytes, executable, there⟩ := fresh.there
  obtain ⟨above, name, rfl, vacant⟩ := fresh.free
  exact ⟨bytes, executable, FileTree.locate_of_filled vacant fresh.alike there fresh.ending⟩

theorem Fresh.concat (fresh : Fresh host s copy place past s')
    (none_ : p.request.made? p.reply = none) (starts : p.request.startsProcess = false)
    {bytes : Bytes} {executable : Bool}
    (puts : (host.tree s').Puts place bytes executable (host.tree p.after)) :
    Fresh host s copy place (past ++ [p]) p.after :=
  ⟨fresh.quiet none_ starts puts.rest, fresh.ending,
    fresh.alike.puts (.inl fresh.free.get?_eq_none) puts, bytes, executable, puts.there⟩

/-! ## One passage -/

theorem Stage.Holds.quiet {stage : Stage} (holds : stage.Holds host s path content past s')
    (none_ : p.request.made? p.reply = none) (starts : p.request.startsProcess = false)
    (same : host.tree p.after = host.tree s') :
    stage.Holds host s path content (past ++ [p]) p.after := by
  have kept {copy : Path} {place : Location} (touched : Touched host s copy place past s') :
      Touched host s copy place (past ++ [p]) p.after :=
    touched.quiet none_ starts fun _ _ => by rw [same]
  cases stage with
  | unread => exact ⟨holds.1.quiet none_ starts same, same.trans holds.2⟩
  | unsaved => exact ⟨holds.1.quiet none_ starts same, same.trans holds.2.1, holds.2.2⟩
  | saved => exact Untouched.quiet holds none_ starts same
  | created copy =>
      obtain ⟨place, fresh⟩ := holds
      obtain ⟨bytes, executable, there⟩ := fresh.there
      rw [← same] at there
      exact ⟨place, fresh.concat none_ starts ⟨there, fun _ _ => by rw [same]⟩⟩
  | filled copy =>
      obtain ⟨place, touched, has⟩ := holds
      exact ⟨place, kept touched, by rw [HasCopy, same]; exact has⟩
  | spoiled copy =>
      obtain ⟨place, touched, has⟩ := holds
      exact ⟨place, kept touched, by rw [HasCopy, same]; exact has⟩
  | removed =>
      obtain ⟨copy, place, touched, gone⟩ := holds
      exact ⟨copy, place, kept touched, by rw [same]; exact gone⟩

theorem holds_created (holds : Stage.unsaved.Holds host s path content past s')
    (current : host.current s' = host.current s) {directory : Path} {before after : String}
    {left : σ} (ending : copy.body.getLast? ≠ some "")
    (created : (host.tree s').create (host.current s) copy = .ok (some (host.tree left))) :
    (Stage.created copy).Holds host s path content
      (past ++ [⟨s', .createCopy directory before after, .ok copy, left⟩]) left := by
  obtain ⟨untouched, same, -⟩ := holds
  obtain ⟨place, free, puts⟩ := FileTree.puts_of_create created
  have first : (host.tree s).IsFree (host.current s) copy place := same ▸ free
  refine ⟨place, ⟨first, ⟨_, List.mem_append_right _ List.mem_cons_self, rfl⟩, ?_, ?_⟩, ending,
    ?_, [], false, puts.there⟩
  · rw [List.forall_mem_append]
    constructor
    · intro p member other made
      cases (untouched.none_ p member).symm.trans made
    · intro p member other made
      rw [List.mem_singleton] at member
      subst member
      cases made
      exact ⟨rfl, rfl, by rw [current]; exact free⟩
  · intro location apart
    rw [leftBy_concat, if_neg (by simp [Request.startsProcess]), puts.rest location apart,
      untouched.tree]
  · have alike : (host.tree s).Alike (host.tree s') := by
      rw [same]
      exact .refl _
    exact alike.puts (.inl first.get?_eq_none) puts

theorem holds_written (holds : (Stage.created copy).Holds host s path content past s')
    {bytes : Bytes} {reply : Except OsError Unit} {left : σ}
    (writes : (host.tree s').Writes (host.current s) copy bytes reply (host.tree left)) :
    (Stage.ofWritten copy reply).Holds host s path content
      (past ++ [⟨s', .write copy bytes, reply, left⟩]) left := by
  obtain ⟨place, fresh⟩ := holds
  obtain ⟨held, executable, found⟩ := fresh.found true
  obtain ⟨part, -, puts⟩ := writes.puts found
  have later : Fresh host s copy place (past ++ [⟨s', .write copy bytes, reply, left⟩]) left :=
    fresh.concat rfl rfl puts
  cases reply with
  | ok _ => exact ⟨place, later.toTouched, later.found false⟩
  | error e => exact ⟨place, later.toTouched, later.found false⟩

theorem holds_removed (touched : Touched host s copy place past s')
    (has : HasCopy host s copy place s') {left : σ}
    (removed : host.tree left = (host.tree s').remove (host.current s) copy) :
    Stage.removed.Holds host s path content (past ++ [⟨s', .remove copy, (), left⟩]) left := by
  obtain ⟨bytes, executable, found⟩ := has
  have below := (FileTree.get?_of_file found).2
  rw [FileTree.remove_of_file found] at removed
  refine ⟨copy, place, touched.quiet rfl rfl fun location apart => ?_, ?_⟩
  · rw [removed, FileTree.get?_clear _ below, if_neg apart]
  · rw [removed]
    exact FileTree.isFree_clear found

/-- The linter may do anything, as long as the copy stays where its path leads. -/
theorem holds_launched (touched : Touched host s copy place past s')
    (has : HasCopy host s copy place s') (none_ : p.request.made? p.reply = none)
    (starts : p.request.startsProcess = true)
    (spared : (host.tree p.after).locate false (host.current s) copy
      = (host.tree s').locate false (host.current s) copy) :
    (Stage.filled copy).Holds host s path content (past ++ [p]) p.after := by
  obtain ⟨bytes, executable, found⟩ := has
  refine ⟨place, touched.concat none_ fun location _ => ?_, bytes, executable, spared.trans found⟩
  rw [leftBy_concat, if_pos starts]

theorem Stage.Holds.ends {stage : Stage} (holds : stage.Holds host s path content past s')
    (gone : stage.copy? = none) :
    Untouched host s past s' ∨ ∃ copy place, Touched host s copy place past s' ∧
      (host.tree s').IsFree (host.current s) copy place := by
  cases stage with
  | unread => exact .inl holds.1
  | unsaved => exact .inl holds.1
  | saved => exact .inl holds
  | removed => exact .inr holds
  | created copy => cases gone
  | filled copy => cases gone
  | spoiled copy => cases gone

theorem Conduct.Aims.stage {a : Annotator} {c : Conduct} {target : String}
    (aims : c.Aims a path target) : c.stage = .saved ∨ ∃ copy, c.stage = .filled copy := by
  obtain ⟨file, holder, -⟩ := aims
  cases stage : c.stage with
  | saved => exact .inl rfl
  | filled copy => exact .inr ⟨copy, rfl⟩
  | _ => simp [Conduct.holder?, stage] at holder

/-- Processes leave a copy, and what its path leads through, as they are. -/
def SpareCopies (host : FileHost σ) (whole : List (Passage σ)) : Prop :=
  ∀ p ∈ whole, p.request.startsProcess = true →
    ∀ q ∈ whole, ∀ copy ∈ q.request.made? q.reply,
      (host.tree p.after).locate false (host.current p.before) copy
        = (host.tree p.before).locate false (host.current p.before) copy

instance (host : FileHost σ) (whole : List (Passage σ)) : Decidable (SpareCopies host whole) :=
  inferInstanceAs (Decidable (∀ p ∈ whole, p.request.startsProcess = true →
    ∀ q ∈ whole, ∀ copy ∈ q.request.made? q.reply,
      (host.tree p.after).locate false (host.current p.before) copy
        = (host.tree p.before).locate false (host.current p.before) copy))

section

variable {a : Annotator} {whole : List (Passage σ)} {c : Conduct} {r : Request}
  {reply : r.Reply} {left : σ}

theorem Steady.holds_after (steady : Steady host s path content whole c past s')
    (spared : SpareCopies host whole) (allowed : c.Allows a path content r)
    (inside : (⟨s', r, reply, left⟩ : Passage σ) ∈ whole)
    (answers : (host.tree s').Answers (host.current s) r reply (host.tree left)) :
    (c.hear content r reply).stage.Holds host s path content
      (past ++ [⟨s', r, reply, left⟩]) left := by
  have holds := steady.stage
  cases r with
  | log entry => exact holds.quiet rfl rfl answers
  | kind file => exact holds.quiet rfl rfl answers
  | clock => exact holds.quiet rfl rfl answers
  | currentDirectory => exact holds.quiet rfl rfl answers.1
  | canonical file =>
      have stage : (c.hear content (.canonical file) reply).stage = c.stage := by
        cases root : c.root? <;> simp only [Conduct.hear, root]
      rw [stage]
      exact holds.quiet rfl rfl answers.1
  | read file =>
      obtain ⟨unread, rfl⟩ := allowed
      rw [unread] at holds
      obtain ⟨same, told⟩ := answers
      have untouched := holds.1.quiet (p := ⟨s', .read file, reply, left⟩) rfl rfl same
      rw [holds.2] at same told
      show (Stage.ofRead content reply).Holds _ _ _ _ _ _
      rcases reply with e | bytes
      · refine ⟨untouched, same, ?_⟩
        rw [← told]
        intro impossible
        cases impossible
      · simp only [Stage.ofRead]
        split
        next => exact untouched
        next differs =>
          refine ⟨untouched, same, ?_⟩
          rw [← told]
          exact fun equal => differs (Except.ok.inj equal)
  | createCopy directory before after =>
      obtain ⟨unsaved, coffee, -, rfl, rfl⟩ := allowed
      rw [unsaved] at holds
      show (c.stage.ofCreated reply).Holds _ _ _ _ _ _
      rcases reply with refused | copy
      · rw [unsaved]
        exact Stage.Holds.quiet holds rfl rfl answers
      · obtain ⟨⟨letters, some_, clean, same⟩, created⟩ := answers
        have ending : copy.body.getLast? ≠ some "" := by
          rw [same]
          exact Copy.getLast?_copy coffee some_ clean
        exact holds_created holds steady.current ending created
  | write file bytes =>
      obtain ⟨created, -⟩ := allowed
      rw [created] at holds
      exact holds_written holds answers
  | remove file =>
      rcases allowed with stage | stage <;> rw [stage] at holds
      · obtain ⟨place, touched, has⟩ := holds
        exact holds_removed touched has answers
      · obtain ⟨place, touched, has⟩ := holds
        exact holds_removed touched has answers
  | launch command budget =>
      obtain ⟨-, target, -, aims⟩ := allowed
      show c.stage.Holds _ _ _ _ _ _
      rcases aims.stage with saved | ⟨copy, filled⟩
      · rw [saved] at holds ⊢
        exact Untouched.launched holds rfl rfl
      · rw [filled] at holds ⊢
        obtain ⟨place, touched, has⟩ := holds
        obtain ⟨q, member, made⟩ := touched.made
        have kept := spared _ inside rfl q (steady.inside q member) copy made
        rw [steady.current] at kept
        exact holds_launched touched has rfl rfl kept

theorem Steady.spare_after (steady : Steady host s path content whole c past s')
    (allowed : c.Allows a path content r)
    (saved : (host.tree s).read (host.current s) path = .ok (Text.encode content)) :
    ∀ p ∈ past ++ [(⟨s', r, reply, left⟩ : Passage σ)], p.request.createsFile = false := by
  rw [List.forall_mem_append]
  refine ⟨steady.spare saved, fun p member => ?_⟩
  rw [List.mem_singleton] at member
  subst member
  have holds := steady.stage
  cases r with
  | createCopy directory before after =>
      rw [allowed.1] at holds
      exact absurd saved holds.2.2
  | _ => rfl

/-- What annotating may ask keeps the files as they should be. -/
theorem Steady.step (steady : Steady host s path content whole c past s')
    (spared : SpareCopies host whole) (allowed : c.Allows a path content r)
    (inside : Job.pass host.serve s' r ∈ whole) :
    Steady host s path content whole (c.hear content r (host.serve r s').1)
      (past ++ [Job.pass host.serve s' r]) (host.serve r s').2 where
  current := (host.stays r s').trans steady.current
  inside := by
    rw [List.forall_mem_append]
    exact ⟨steady.inside, by simpa using inside⟩
  spare := steady.spare_after allowed
  stage := steady.holds_after spared allowed inside (by
    rw [← steady.current]
    exact host.answers r s')

theorem Steady.initial : Steady host s path content whole .initial [] s where
  current := rfl
  inside := by simp
  spare := by simp
  stage := ⟨⟨by simp, rfl⟩, rfl⟩

end

end

namespace Annotator

variable {σ : Type}

/-- Annotating leaves no trace.  On a host with files, whatever it refuses and whatever the
linter does to the files but for the copy, every copy that was made is gone in the end:
its path leads again to the place that was free before.  All other places have what the
linter left there, and where the document holds the text no copy is made at all. -/
theorem annotate_leaves_no_trace (host : FileHost σ) (a : Annotator) (path : Path)
    (content : String) (s : σ)
    (spared : SpareCopies host ((a.annotate path content).course host.serve s)) :
    let course := (a.annotate path content).course host.serve s
    let left := ((a.annotate path content).run host.serve s).2
    (∀ p ∈ course, ∀ copy, p.request.made? p.reply = some copy →
      ∃ place, p.Makes host copy place ∧ (host.tree s).IsFree (host.current s) copy place ∧
        (host.tree left).IsFree (host.current s) copy place) ∧
    (∀ location, (∀ p ∈ course, ∀ copy, ¬ p.Makes host copy location) →
      (host.tree left).get? location = (leftBy host (host.tree s) course).get? location) ∧
    ((host.tree s).read (host.current s) path = .ok (Text.encode content) →
      ∀ p ∈ course, p.request.createsFile = false) := by
  intro course left
  have step : ∀ c past s' r, Steady host s path content course c past s' →
      (a.conduct path content).allows c r → Job.pass host.serve s' r ∈ course →
      Steady host s path content course ((a.conduct path content).after c r (host.serve r s').1)
        (past ++ [Job.pass host.serve s' r]) (host.serve r s').2 :=
    fun _ _ _ _ steady allowed inside => steady.step spared allowed inside
  obtain ⟨c, gone, steady⟩ := (annotate_keeps a path content).run step Steady.initial
    fun p member => member
  rw [List.nil_append] at steady
  rcases steady.stage.ends gone with untouched | ⟨copy, place, touched, free⟩
  · refine ⟨fun p member copy made => ?_, fun location _ => ?_, steady.spare⟩
    · cases (untouched.none_ p member).symm.trans made
    · rw [untouched.tree]
  · refine ⟨fun p member other made => ?_, fun location unmade => ?_, steady.spare⟩
    · obtain ⟨rfl, makes⟩ := touched.only p member other made
      exact ⟨place, makes, touched.free, free⟩
    · obtain ⟨p, member, made⟩ := touched.made
      refine touched.rest location fun here => ?_
      subst here
      exact unmade p member copy (touched.only p member copy made).2

/-- A project with a document and a linter that is only a name. -/
def lintedMachine : Machine :=
  { tree := ⟨[(["p"], .directory), (["p", "lint"], .file [] true),
      (["p", "a.coffee"], .file [120] false)]⟩
    current := [], clock := 0, copies := 0, entries := [] }

/-- A linter that writes the document anew and keeps a file of its own. -/
def scribblingLinter : Machine.Launcher := fun tree _ _ _ =>
  .ok (⟨[⟨.ok (some (.code 0)), false, .closed⟩, ⟨.ok none, false, .nothing⟩], []⟩,
    (tree.set ["p", "a.coffee"] (.file [] false)).set ["p", "cache"] (.file [49] false))

theorem scribbles_stay :
    let host := Machine.host scribblingLinter
    let a := Annotator.new (.ofText "p") ⟨true, "lint", "", "", "", false⟩
    let course := (a.annotate (.ofText "p/a.coffee") "y").course host.serve lintedMachine
    let left := ((a.annotate (.ofText "p/a.coffee") "y").run host.serve lintedMachine).2
    SpareCopies host course ∧ (∃ p ∈ course, p.request.createsFile = true) ∧
      (∃ p ∈ course, p.request.startsProcess = true) ∧
      (∀ p ∈ course, ∀ copy, p.request.made? p.reply = some copy →
        ∃ place, p.Makes host copy place ∧
          (host.tree lintedMachine).IsFree (host.current lintedMachine) copy place ∧
            (host.tree left).IsFree (host.current lintedMachine) copy place) ∧
      (∀ location, (∀ p ∈ course, ∀ copy, ¬ p.Makes host copy location) →
        (host.tree left).get? location
          = (leftBy host (host.tree lintedMachine) course).get? location) := by
  intro host a course left
  have spared : SpareCopies host course := by decide +kernel
  have traceless := annotate_leaves_no_trace host a (.ofText "p/a.coffee") "y" lintedMachine spared
  exact ⟨spared, by decide +kernel, by decide +kernel, traceless.1, traceless.2.1⟩

end Annotator

end LintBridge
