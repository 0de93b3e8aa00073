import LintBridge.Proofs.Machine.Ways

/-!
# Ways while files come and go

A file is the end of every way that meets it.  So where two trees have the same
directories and links, ways differ only in what they end at: a file of the one tree may be
a free place in the other.
-/

set_option autoImplicit false

namespace LintBridge.FileTree

/-! ## One location -/

@[simp] theorem get?_root (tree : FileTree) : tree.get? [] = some .directory := rfl

theorem get?_set (tree : FileTree) {place : Location} (below : place ≠ []) (node : Node)
    (location : Location) :
    (tree.set place node).get? location =
      if location = place then some node else tree.get? location := by
  by_cases root : location = []
  · subst root
    rw [if_neg (Ne.symm below)]
    rfl
  · rw [get?, if_neg root, get?, if_neg root, set]
    by_cases here : location = place
    · subst here
      simp
    · rw [if_neg here, List.find?_cons_of_neg (by simpa using Ne.symm here), List.find?_filter]
      have same : ∀ entry : Location × Node,
          (entry.1 ≠ place ∧ entry.1 = location) ↔ entry.1 = location :=
        fun entry => ⟨And.right, fun found => ⟨fun back => here (found.symm.trans back), found⟩⟩
      simp [same]

theorem get?_clear (tree : FileTree) {place : Location} (below : place ≠ [])
    (location : Location) :
    (tree.clear place).get? location = if location = place then none else tree.get? location := by
  by_cases root : location = []
  · subst root
    rw [if_neg (Ne.symm below)]
    rfl
  · rw [get?, if_neg root, get?, if_neg root, clear, List.find?_filter]
    by_cases here : location = place
    · subst here
      simp
    · have same : ∀ entry : Location × Node,
          (entry.1 ≠ place ∧ entry.1 = location) ↔ entry.1 = location :=
        fun entry => ⟨And.right, fun found => ⟨fun back => here (found.symm.trans back), found⟩⟩
      simp [same, here]

theorem place_ne_root (directory : Location) (name : String) : directory ++ [name] ≠ [] := by
  simp

/-! ## Trees with the same directories and links -/

/-- A file stands there, or nothing. -/
def IsLight (node? : Option Node) : Prop :=
  node? = none ∨ ∃ content executable, node? = some (.file content executable)

/-- The trees differ in files only. -/
def Alike (tree other : FileTree) : Prop :=
  ∀ location, other.get? location = tree.get? location ∨
    IsLight (tree.get? location) ∧ IsLight (other.get? location)

theorem Alike.refl (tree : FileTree) : tree.Alike tree :=
  fun _ => .inl rfl

variable {tree other : FileTree} {follow : Bool} {k : Nat} {directory : Location}
  {pieces : List String} {spot : Spot}

theorem Alike.symm (alike : tree.Alike other) : other.Alike tree :=
  fun location => (alike location).imp Eq.symm And.symm

theorem Alike.get?_eq (alike : tree.Alike other) {location : Location} {node : Node}
    (there : tree.get? location = some node)
    (heavy : ∀ content executable, node ≠ .file content executable) :
    other.get? location = some node := by
  rcases alike location with same | ⟨free | ⟨content, executable, file⟩, -⟩
  · rw [same, there]
  · cases there.symm.trans free
  · cases there.symm.trans file
    exact absurd rfl (heavy content executable)

theorem Alike.get?_directory (alike : tree.Alike other) {location : Location}
    (there : tree.get? location = some .directory) : other.get? location = some .directory :=
  alike.get?_eq there fun _ _ same => nomatch same

theorem Alike.get?_link (alike : tree.Alike other) {location : Location} {target : Path}
    (there : tree.get? location = some (.link target)) :
    other.get? location = some (.link target) :=
  alike.get?_eq there fun _ _ same => nomatch same

/-- The other tree has the file at the place, and nothing else is new. -/
structure Puts (tree : FileTree) (place : Location) (content : Bytes) (executable : Bool)
    (other : FileTree) : Prop where
  there : other.get? place = some (.file content executable)
  rest : ∀ location, location ≠ place → other.get? location = tree.get? location

theorem puts_set (tree : FileTree) {place : Location} (below : place ≠ []) (content : Bytes)
    (executable : Bool) :
    tree.Puts place content executable (tree.set place (.file content executable)) where
  there := by
    rw [get?_set _ below, if_pos rfl]
  rest location apart := by
    rw [get?_set _ below, if_neg apart]

theorem Alike.puts {left : FileTree} (alike : tree.Alike other) {place : Location}
    (light : IsLight (tree.get? place)) {content : Bytes} {executable : Bool}
    (puts : other.Puts place content executable left) : tree.Alike left := by
  intro location
  by_cases here : location = place
  · subst here
    exact .inr ⟨light, .inr ⟨content, executable, puts.there⟩⟩
  · rw [puts.rest location here]
    exact alike location

/-- Where a spot is. -/
def Spot.location : Spot → Location
  | .found location _ => location
  | .vacant directory name => directory ++ [name]

theorem Leads.get?_vacant {above : Location} {name : String}
    (leads : tree.Leads follow k directory pieces (.vacant above name)) :
    tree.get? (above ++ [name]) = none := by
  generalize vacant : Spot.vacant above name = goal at leads
  induction leads with
  | here => cases vacant
  | idle nothing onward ih => exact ih vacant
  | up onward ih => exact ih vacant
  | down step there onward ih => exact ih vacant
  | link step there followed onward ih => exact ih vacant
  | last => cases vacant
  | vacant step absent atEnd =>
      cases vacant
      exact absent

theorem Leads.get?_file {place : Location} {content : Bytes} {executable : Bool}
    (leads : tree.Leads follow k directory pieces (.found place (.file content executable))) :
    tree.get? place = some (.file content executable) ∧ place ≠ [] := by
  generalize found : Spot.found place (.file content executable) = goal at leads
  induction leads with
  | here => cases found
  | idle nothing onward ih => exact ih found
  | up onward ih => exact ih found
  | down step there onward ih => exact ih found
  | link step there followed onward ih => exact ih found
  | last step there leaf unfollowed =>
      cases found
      exact ⟨there, place_ne_root _ _⟩
  | vacant => cases found

theorem Leads.alike (leads : tree.Leads follow k directory pieces spot) (alike : tree.Alike other)
    (same : other.get? spot.location = tree.get? spot.location) :
    other.Leads follow k directory pieces spot := by
  induction leads with
  | here directory => exact .here directory
  | idle nothing onward ih => exact .idle nothing (ih same)
  | up onward ih => exact .up (ih same)
  | down step there onward ih => exact .down step (alike.get?_directory there) (ih same)
  | link step there followed onward ih =>
      exact .link step (alike.get?_link there) followed (ih same)
  | last step there leaf unfollowed => exact .last step (same.trans there) leaf unfollowed
  | vacant step absent atEnd => exact .vacant step (same.trans absent) atEnd

theorem Leads.alike_directory {target : Location}
    (leads : tree.Leads follow k directory pieces (.found target .directory))
    (alike : tree.Alike other) :
    other.Leads follow k directory pieces (.found target .directory) := by
  generalize found : Spot.found target .directory = goal at leads
  induction leads with
  | here directory => exact .here directory
  | idle nothing onward ih => exact .idle nothing (ih found)
  | up onward ih => exact .up (ih found)
  | down step there onward ih => exact .down step (alike.get?_directory there) (ih found)
  | link step there followed onward ih =>
      exact .link step (alike.get?_link there) followed (ih found)
  | last step there leaf unfollowed =>
      cases found
      exact absurd rfl leaf
  | vacant => cases found

/-- Where a file of the one tree is a free place of the other. -/
theorem Leads.of_absent {place : Location} {content : Bytes} {executable : Bool}
    (leads : tree.Leads follow k directory pieces (.found place (.file content executable)))
    (alike : tree.Alike other) (absent : other.get? place = none) :
    ∃ above name, place = above ++ [name] ∧
      other.Leads follow k directory pieces (.vacant above name) := by
  generalize found : Spot.found place (.file content executable) = goal at leads
  induction leads with
  | here directory => cases found
  | idle nothing onward ih =>
      obtain ⟨above, name, same, onward⟩ := ih found
      exact ⟨above, name, same, .idle nothing onward⟩
  | up onward ih =>
      obtain ⟨above, name, same, onward⟩ := ih found
      exact ⟨above, name, same, .up onward⟩
  | down step there onward ih =>
      obtain ⟨above, name, same, onward⟩ := ih found
      exact ⟨above, name, same, .down step (alike.get?_directory there) onward⟩
  | link step there followed onward ih =>
      obtain ⟨above, name, same, onward⟩ := ih found
      exact ⟨above, name, same, .link step (alike.get?_link there) followed onward⟩
  | @last directory piece node step there leaf unfollowed =>
      cases found
      exact ⟨directory, piece, rfl, .vacant step absent (by simp)⟩
  | vacant => cases found

theorem ending_of_cons {piece : String} {rest : List String}
    (ending : (piece :: rest).getLast? ≠ some "") : rest.getLast? ≠ some "" := by
  cases rest with
  | nil => simp
  | cons => simpa using ending

/-- Where a free place of the one tree has a file in the other.  A slash at the end would
keep the path from the file. -/
theorem Leads.of_filled {above : Location} {name : String} {content : Bytes} {executable : Bool}
    (leads : tree.Leads false k directory pieces (.vacant above name)) (alike : tree.Alike other)
    (there : other.get? (above ++ [name]) = some (.file content executable))
    (ending : pieces.getLast? ≠ some "") :
    other.Leads false k directory pieces (.found (above ++ [name]) (.file content executable)) := by
  generalize vacant : Spot.vacant above name = goal at leads
  induction leads with
  | here directory => cases vacant
  | @idle k directory piece rest spot nothing onward ih =>
      exact .idle nothing (ih (ending_of_cons ending) vacant)
  | @up k directory rest spot onward ih =>
      exact .up (ih (ending_of_cons ending) vacant)
  | @down k directory piece rest spot step down onward ih =>
      exact .down step (alike.get?_directory down) (ih (ending_of_cons ending) vacant)
  | @link k directory piece rest spot target step linked followed onward ih =>
      refine .link step (alike.get?_link linked) followed (ih ?_ vacant)
      obtain ⟨second, others, rfl⟩ := List.exists_cons_of_ne_nil (by simpa using followed)
      simpa [List.getLast?_append, List.getLast?_cons] using ending
  | last => cases vacant
  | @vacant directory piece rest step absent atEnd =>
      cases vacant
      cases rest with
      | nil => exact .last step there (fun same => nomatch same) fun _ same => nomatch same
      | cons second others =>
          have member := List.getLast_mem (List.cons_ne_nil second others)
          have last := List.getLast?_eq_some_getLast (List.cons_ne_nil second others)
          rw [atEnd _ member] at last
          exact absurd (by simpa using last) ending

theorem Leads.followed {place : Location} {node : Node}
    (leads : tree.Leads false k directory pieces (.found place node))
    (plain : ∀ target, node ≠ .link target) :
    tree.Leads true k directory pieces (.found place node) := by
  generalize found : Spot.found place node = goal at leads
  induction leads with
  | here directory => exact .here directory
  | idle nothing onward ih => exact .idle nothing (ih found)
  | up onward ih => exact .up (ih found)
  | down step there onward ih => exact .down step there (ih found)
  | link step there followed onward ih => exact .link step there (.inr rfl) (ih found)
  | last step there leaf unfollowed =>
      cases found
      exact .last step there leaf fun target same => absurd same (plain target)
  | vacant => cases found

end LintBridge.FileTree
