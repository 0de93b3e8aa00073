import LintBridge.Proofs.Host.Files
import LintBridge.Proofs.Lint.Beside
import LintBridge.Proofs.Lint.Trace

/-!
# Files that jobs share

Jobs that annotate documents side by side share the files.  `Shared` says what the files
are then: those of the beginning, and the copies, each of one job.  So a path leads where
it led at the beginning, and what a job starts the linter on is the text of its buffer.
-/

set_option autoImplicit false

namespace LintBridge

open FileTree (pathOf longestPath)

/-- What an editor holds of a document. -/
structure Buffer where
  annotator : Annotator
  path : Path
  content : String

namespace Buffer

def job (b : Buffer) : Job LintOutcome :=
  b.annotator.annotate b.path b.content

/-- A copy of the document may stand there. -/
def HasCopyAt (b : Buffer) (tree : FileTree) (current place : Location) : Prop :=
  ∃ directory name, place = directory ++ [name] ∧
    tree.node current (Copy.directoryFor b.annotator.root b.path) = .ok (directory, .directory) ∧
    ∀ ending, b.path.extension? = some ending → (pathOf place).extension? = some ending

/-- Seen from a directory, the target is a file with the text: the document or a copy of
it. -/
structure Opens (b : Buffer) (tree : FileTree) (current directory : Location) (target : String) :
    Prop where
  reads : tree.read directory (.ofText target) = .ok (Text.encode b.content)
  file : ∃ place node, tree.node directory (.ofText target) = .ok (place, node) ∧
    (tree.node current b.path = .ok (place, node) ∨ b.HasCopyAt tree current place)

end Buffer

/-! ## The jobs of copies -/

section

variable {σ : Type} (host : FileHost σ)

/-- The last file that was made at the place was made by the job. -/
inductive LastMadeBy (place : Location) (job : Nat) : List (Event σ) → Prop where
  | made {past : List (Event σ)} {e : Event σ} {copy : Path} (own : e.place = job)
      (makes : e.passage.Makes host copy place) : LastMadeBy place job (past ++ [e])
  | later {past : List (Event σ)} {e : Event σ} (last : LastMadeBy place job past)
      (idle : ∀ copy, ¬ e.passage.Makes host copy place) : LastMadeBy place job (past ++ [e])

variable {host}

theorem LastMadeBy.unique {place : Location} {job other : Nat} {past : List (Event σ)}
    (last : LastMadeBy host place job past) (last' : LastMadeBy host place other past) :
    job = other := by
  induction last with
  | @made past e copy own makes =>
      generalize whole : past ++ [e] = all at last'
      cases last' with
      | made own' makes' =>
          obtain ⟨-, same⟩ := List.append_inj' whole rfl
          cases same
          exact own.symm.trans own'
      | later last' idle =>
          obtain ⟨-, same⟩ := List.append_inj' whole rfl
          cases same
          exact absurd makes (idle copy)
  | @later past e last idle ih =>
      generalize whole : past ++ [e] = all at last'
      cases last' with
      | made own' makes' =>
          obtain ⟨-, same⟩ := List.append_inj' whole rfl
          cases same
          exact absurd makes' (idle _)
      | later last' idle' =>
          obtain ⟨rfl, -⟩ := List.append_inj' whole rfl
          exact ih last'

end

/-! ## One buffer -/

section

variable {σ : Type} (host : FileHost σ) (s : σ) (buffers : List Buffer)

/-- A copy of the job's document is there. -/
structure Live (past : List (Event σ)) (tree : FileTree) (k : Nat) (b : Buffer) (copy : Path)
    (place : Location) : Prop where
  coffee : b.path.isCoffeeScript = true
  names : Copy.Names (host.current s) b.annotator.root b.path copy
  free : (host.tree s).IsFree (host.current s) copy place
  new : ∀ other ∈ buffers, (host.tree s).locate true (host.current s) other.path
    ≠ (host.tree s).locate false (host.current s) copy
  owner : LastMadeBy host place k past
  there : ∃ bytes executable, tree.get? place = some (.file bytes executable)

/-- What holds of the files at a stage of the job. -/
def Stage.Stays (past : List (Event σ)) (tree : FileTree) (k : Nat) (b : Buffer) : Stage → Prop
  | .unread | .unsaved | .removed => True
  | .saved => (host.tree s).read (host.current s) b.path = .ok (Text.encode b.content)
  | .created copy | .spoiled copy => ∃ place, Live host s buffers past tree k b copy place
  | .filled copy => ∃ place, Live host s buffers past tree k b copy place ∧
      ∃ executable, tree.get? place = some (.file (Text.encode b.content) executable)

/-- The location of the file that holds the text, as a path. -/
def Stage.Seen (tree : FileTree) (current : Location) (path file : Path) : Stage → Prop
  | .saved => ∀ place node, tree.node current path = .ok (place, node) →
      file = pathOf place ∧ Path.weight (pathOf place).pieces ≤ longestPath + 1
  | .filled copy => ∀ place, tree.IsFree current copy place →
      file = pathOf place ∧ Path.weight (pathOf place).pieces ≤ longestPath + 1
  | .removed => True
  | .unread | .unsaved | .created _ | .spoiled _ => False

/-- What the job was told is so. -/
structure Informed (tree : FileTree) (start : Location) (b : Buffer) (c : Conduct) : Prop where
  current : ∀ path, c.current? = some path → path = pathOf start
  root : ∀ path, c.root? = some path → ∀ directory,
    tree.node start b.annotator.root = .ok (directory, .directory) →
      path = pathOf directory ∧ Path.weight (pathOf directory).pieces ≤ longestPath + 1
  file : ∀ path, c.file? = some path → c.stage.Seen tree start b.path path

/-- The files are those of the beginning and the copies of the jobs. -/
structure Shared (states : Nat → Conduct) (past : List (Event σ)) (s' : σ) : Prop where
  current : host.current s' = host.current s
  kept : ∀ location, (host.tree s').get? location = (host.tree s).get? location ∨
    ∃ k b copy, buffers[k]? = some b ∧ (states k).stage.copy? = some copy ∧
      (host.tree s).IsFree (host.current s) copy location
  told : ∀ (k : Nat) (b : Buffer), buffers[k]? = some b →
    Informed (host.tree s) (host.current s) b (states k)
  stays : ∀ (k : Nat) (b : Buffer), buffers[k]? = some b →
    (states k).stage.Stays host s buffers past (host.tree s') k b

/-- Names are texts, and what there is stands in directories. -/
structure IsProject (tree : FileTree) (current : Location) (buffers : List Buffer) : Prop where
  orderly : tree.Orderly
  here : tree.get? current = some .directory
  texts : ∀ b ∈ buffers, b.annotator.root.IsText ∧ b.path.IsText

instance (tree : FileTree) (current : Location) (buffers : List Buffer) :
    Decidable (IsProject tree current buffers) :=
  decidable_of_iff (tree.Orderly ∧ tree.get? current = some .directory ∧
      ∀ b ∈ buffers, b.annotator.root.IsText ∧ b.path.IsText)
    ⟨fun ⟨orderly, here, texts⟩ => ⟨orderly, here, texts⟩,
      fun ⟨orderly, here, texts⟩ => ⟨orderly, here, texts⟩⟩

variable {host s buffers} {states : Nat → Conduct} {past : List (Event σ)} {s' : σ}
  {k : Nat} {b : Buffer} {copy path : Path} {place : Location} {node : Node} {tree : FileTree}
  {stage : Stage}

theorem Stage.Stays.live (stays : stage.Stays host s buffers past tree k b)
    (held : stage.copy? = some copy) : ∃ place, Live host s buffers past tree k b copy place := by
  cases stage with
  | created => cases held; exact stays
  | spoiled => cases held; exact stays
  | filled =>
      cases held
      obtain ⟨place, live, -⟩ := stays
      exact ⟨place, live⟩
  | _ => cases held

theorem Live.locate (live : Live host s buffers past tree k b copy place)
    (alike : (host.tree s).Alike tree) {bytes : Bytes} {executable : Bool}
    (there : tree.get? place = some (.file bytes executable)) (follow : Bool) :
    tree.locate follow (host.current s) copy = .ok (.found place (.file bytes executable)) := by
  obtain ⟨letters, some_, clean, same⟩ := live.names
  have ending : copy.body.getLast? ≠ some "" := by
    rw [same]
    exact Copy.getLast?_copy live.coffee some_ clean
  obtain ⟨above, name, rfl, vacant⟩ := live.free
  exact FileTree.locate_of_filled vacant alike there ending

namespace Shared

variable (shared : Shared host s buffers states past s')

include shared

theorem live (found : buffers[k]? = some b) (held : (states k).stage.copy? = some copy)
    (free : (host.tree s).IsFree (host.current s) copy place) :
    Live host s buffers past (host.tree s') k b copy place := by
  obtain ⟨other, live⟩ := (shared.stays k b found).live held
  rw [free.unique live.free]
  exact live

theorem alike : (host.tree s).Alike (host.tree s') := by
  intro location
  rcases shared.kept location with same | ⟨k, b, copy, found, held, free⟩
  · exact .inl same
  · exact .inr ⟨.inl free.get?_eq_none, .inr (shared.live found held free).there⟩

theorem get?_eq {location : Location} (there : (host.tree s).get? location = some node) :
    (host.tree s').get? location = some node := by
  rcases shared.kept location with same | ⟨k, b, copy, found, held, free⟩
  · rw [same, there]
  · cases there.symm.trans free.get?_eq_none

theorem orderly (project : IsProject (host.tree s) (host.current s) buffers) :
    (host.tree s').Orderly := by
  have stands {above : Location} {name : String}
      (there : ((host.tree s').get? (above ++ [name])).isSome) :
      (host.tree s).get? above = some .directory ∧ FileTree.IsFileName name := by
    rcases shared.kept (above ++ [name]) with same | ⟨k, b, copy, found, held, free⟩
    · rw [same] at there
      exact ⟨project.orderly.inside above name there, project.orderly.named above name there⟩
    · have live := shared.live found held free
      obtain ⟨rootText, fileText⟩ := project.texts b (List.mem_of_getElem? found)
      obtain ⟨above', name', same, vacant⟩ := free
      obtain ⟨rfl, last⟩ := List.append_inj' same rfl
      cases last
      have stands := live.names.stands project.orderly project.here rootText fileText live.coffee
        vacant
      exact ⟨stands.directory, stands.named⟩
  exact ⟨fun _ _ there => shared.get?_eq (stands there).1, fun _ _ there => (stands there).2⟩

theorem node_eq (project : IsProject (host.tree s) (host.current s) buffers)
    (found : (host.tree s).node (host.current s) path = .ok (place, node)) :
    (host.tree s').node (host.current s) path = .ok (place, node) := by
  rw [FileTree.node_eq_ok_iff, FileTree.locate_eq_ok_iff] at found ⊢
  obtain ⟨usable, k, few, leads⟩ := found
  have there : (host.tree s).get? place = some node :=
    project.orderly.shows leads (FileTree.Orderly.start_directory project.here path)
  exact ⟨usable, k, few, leads.alike shared.alike ((shared.get?_eq there).trans there.symm)⟩

theorem directory_eq {directory : Location}
    (found : (host.tree s').node (host.current s) path = .ok (directory, .directory)) :
    (host.tree s).node (host.current s) path = .ok (directory, .directory) := by
  rw [FileTree.node_eq_ok_iff, FileTree.locate_eq_ok_iff] at found ⊢
  obtain ⟨usable, k, few, leads⟩ := found
  exact ⟨usable, k, few, leads.alike_directory shared.alike.symm⟩

theorem document_eq (project : IsProject (host.tree s) (host.current s) buffers)
    (member : b ∈ buffers)
    (found : (host.tree s').node (host.current s) b.path = .ok (place, node)) :
    (host.tree s).node (host.current s) b.path = .ok (place, node) := by
  rw [FileTree.node_eq_ok_iff] at found ⊢
  obtain ⟨usable, k, few, leads⟩ := FileTree.locate_eq_ok_iff.1 found
  rcases shared.kept place with same | ⟨j, other, copy, at_, held, free⟩
  · exact FileTree.locate_eq_ok_iff.2
      ⟨usable, k, few, leads.alike shared.alike.symm same.symm⟩
  · have live := shared.live at_ held free
    obtain ⟨bytes, executable, file⟩ := live.there
    have there : (host.tree s').get? place = some node :=
      (shared.orderly project).shows leads
        (FileTree.Orderly.start_directory (shared.get?_eq project.here) b.path)
    cases there.symm.trans file
    -- At the beginning the document led to the free place of the copy, which is a new name.
    obtain ⟨above, name, here, vacant⟩ :=
      leads.of_absent shared.alike.symm free.get?_eq_none
    obtain ⟨above', name', here', vacant'⟩ := free
    obtain ⟨rfl, last⟩ := List.append_inj' (here.symm.trans here') rfl
    cases last
    have absent := FileTree.locate_eq_ok_iff.2 ⟨usable, k, few, vacant⟩
    exact absurd (absent.trans vacant'.symm) (live.new b member)

/-- What is found where the text is looked for is where it was at the beginning. -/
theorem read_eq (project : IsProject (host.tree s) (host.current s) buffers)
    (member : b ∈ buffers) {bytes : Bytes}
    (read : (host.tree s').read (host.current s) b.path = .ok bytes) :
    (host.tree s).read (host.current s) b.path = .ok bytes := by
  unfold FileTree.read at read
  split at read
  · cases read
  next place node at_ =>
    rw [FileTree.read, shared.document_eq project member at_]
    exact read

theorem isFree_eq (free : (host.tree s').IsFree (host.current s) path place) :
    (host.tree s).IsFree (host.current s) path place := by
  obtain ⟨above, name, rfl, vacant⟩ := id free
  refine ⟨above, name, rfl, ?_⟩
  obtain ⟨usable, j, few, leads⟩ := FileTree.locate_eq_ok_iff.1 vacant
  refine FileTree.locate_eq_ok_iff.2 ⟨usable, j, few, leads.alike shared.alike.symm ?_⟩
  show (host.tree s).get? (above ++ [name]) = (host.tree s').get? (above ++ [name])
  rw [free.get?_eq_none]
  cases there : (host.tree s).get? (above ++ [name]) with
  | none => rfl
  | some node => cases (shared.get?_eq there).symm.trans free.get?_eq_none

/-! ## What the linter is started on -/

theorem holder_found (project : IsProject (host.tree s) (host.current s) buffers)
    (found : buffers[k]? = some b) {file : Path} (holder : (states k).holder? b.path = some file) :
    ∃ place node, (host.tree s').locate true (host.current s) file = .ok (.found place node) ∧
      FileTree.Node.content node = .ok (Text.encode b.content) ∧ file.IsText ∧
      ((host.tree s').node (host.current s) b.path = .ok (place, node) ∨
        (Copy.directoryFor b.annotator.root b.path ≠ Path.empty →
          b.HasCopyAt (host.tree s') (host.current s) place)) ∧
      ∀ path, (states k).file? = some path →
        path = pathOf place ∧ Path.weight (pathOf place).pieces ≤ longestPath + 1 := by
  obtain ⟨rootText, fileText⟩ := project.texts b (List.mem_of_getElem? found)
  have stays := shared.stays k b found
  have seen := (shared.told k b found).file
  unfold Conduct.holder? at holder
  generalize (states k).stage = stage at holder stays seen
  cases stage with
  | saved =>
      cases holder
      rw [Stage.Stays, FileTree.read] at stays
      split at stays
      · cases stays
      next place node at_ =>
        have now := shared.node_eq project at_
        exact ⟨place, node, FileTree.node_eq_ok_iff.1 now, stays, fileText, .inl now,
          fun path told => seen path told place node at_⟩
  | filled copy =>
      cases holder
      obtain ⟨place, live, executable, there⟩ := stays
      have copyText :=
        Copy.names_isText project.orderly project.here rootText fileText live.names
      refine ⟨place, _, live.locate shared.alike there true, rfl, copyText, .inr fun proper => ?_,
        fun path told => seen path told place live.free⟩
      obtain ⟨above, name, rfl, vacant⟩ := live.free
      have stands := live.names.stands project.orderly project.here rootText fileText live.coffee
        vacant
      refine ⟨above, name, rfl, shared.node_eq project (stands.beside proper),
        fun ending ends => ?_⟩
      rw [Path.extension?, Path.fileName?_pathOf stands.named.step]
      exact stands.extension ending ends
  | _ => cases holder

theorem opens (project : IsProject (host.tree s) (host.current s) buffers)
    (found : buffers[k]? = some b) {target : String}
    (aims : (states k).Aims b.annotator b.path target) {directory : Location}
    (root : (host.tree s').node (host.current s) b.annotator.root = .ok (directory, .directory)) :
    b.Opens (host.tree s') (host.current s) directory target := by
  obtain ⟨file, holder, way⟩ := aims
  obtain ⟨place, node, at_, content, fileText, which, seen⟩ :=
    shared.holder_found project found holder
  obtain ⟨rootText, -⟩ := project.texts b (List.mem_of_getElem? found)
  have rootAt := FileTree.node_eq_ok_iff.1 root
  have leaf : node ≠ .directory := by
    rintro rfl
    cases content
  have plain : ∀ target, node ≠ .link target := by
    rintro target rfl
    cases content
  have orderly := shared.orderly project
  have here := shared.get?_eq project.here
  have shows {path : Path} {place : Location} {node : Node}
      (at_ : (host.tree s').locate true (host.current s) path = .ok (.found place node)) :
      (host.tree s').get? place = some node := by
    obtain ⟨-, _, -, leads⟩ := FileTree.locate_eq_ok_iff.1 at_
    exact orderly.shows leads (FileTree.Orderly.start_directory here path)
  have reached : ∃ rest : Path, target = rest.text ∧ rest.IsText ∧
      (host.tree s').locate true directory rest = .ok (.found place node) := by
    have isText {whole rest : Path} (wholeText : whole.IsText)
        (part : rest.pieces.Sublist whole.pieces) (some_ : rest.pieces ≠ []) : rest.IsText :=
      Path.isText_iff.2 ⟨some_, fun piece member =>
        (Path.isText_iff.1 wholeText).2 piece (part.subset member)⟩
    rcases way with ⟨rest, strips, same⟩ | ⟨root', file', rest, rootTold, fileTold, strips, same⟩
    -- The text of the file begins with that of the root.
    · obtain ⟨onward, part, some_⟩ := FileTree.locate_rest rootAt at_ leaf
        (Path.isText_iff.1 rootText).1 strips
      exact ⟨rest, same, isText fileText part some_, onward⟩
    -- Its location begins with that of the root; both are still what the job was told.
    · obtain ⟨rfl, rootShort⟩ := (shared.told k b found).root root' rootTold directory
        (shared.directory_eq root)
      obtain ⟨rfl, fileShort⟩ := seen file' fileTold
      have rootDown : (host.tree s').locate true (host.current s) (pathOf directory)
          = .ok (.found directory .directory) :=
        orderly.locate_pathOf (shows rootAt) FileTree.directory_ne_link rootShort
      have fileDown : (host.tree s').locate true (host.current s) (pathOf place)
          = .ok (.found place node) := orderly.locate_pathOf (shows at_) plain fileShort
      obtain ⟨onward, part, some_⟩ := FileTree.locate_rest rootDown fileDown leaf
        (by rw [FileTree.pieces_pathOf]; simp) strips
      have placeText := FileTree.isText_pathOf orderly (by rw [shows at_]; rfl)
      exact ⟨rest, same, isText placeText part some_, onward⟩
  obtain ⟨rest, rfl, restText, onward⟩ := reached
  have target := FileTree.node_eq_ok_iff.2 onward
  have proper : Copy.directoryFor b.annotator.root b.path ≠ Path.empty := by
    have some_ := (FileTree.locate_eq_ok_iff.1 rootAt).1.some_
    unfold Copy.directoryFor
    split
    · split
      · exact some_
      next differs => exact differs
    · exact some_
  rw [← restText.ofText_text] at target
  refine ⟨?_, place, node, target, which.imp id fun copied => copied proper⟩
  rw [FileTree.read, target]
  exact content

end Shared

end

end LintBridge
