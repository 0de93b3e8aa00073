import Mathlib.Data.List.Induction
import LintBridge.Proofs.Machine.Ways
import LintBridge.Proofs.Path.Texts

/-!
# Orderly trees

In an orderly tree everything stands in a directory, under a name that is a text and that
a path can have.  There every location is a path to what stands at it, and the place in
which a new file is made is a directory.
-/

set_option autoImplicit false

namespace LintBridge.FileTree

/-- A name that a file can have. -/
structure IsFileName (name : String) : Prop where
  step : IsStep name
  isName : Path.IsName name
  noNul : '\x00' ∉ name.toList

structure Orderly (tree : FileTree) : Prop where
  inside : ∀ directory name, (tree.get? (directory ++ [name])).isSome →
    tree.get? directory = some .directory
  named : ∀ directory name, (tree.get? (directory ++ [name])).isSome → IsFileName name

instance (name : String) : Decidable (IsFileName name) :=
  decidable_of_iff ((Path.isIdle name = false ∧ name ≠ ".." ∧
      (Text.Stray.bytes name).length ≤ longestName) ∧ Path.IsName name ∧ '\x00' ∉ name.toList)
    ⟨fun ⟨⟨counts, notUp, short⟩, isName, noNul⟩ => ⟨⟨counts, notUp, short⟩, isName, noNul⟩,
      fun ⟨⟨counts, notUp, short⟩, isName, noNul⟩ => ⟨⟨counts, notUp, short⟩, isName, noNul⟩⟩

theorem isSome_get?_iff {tree : FileTree} {directory : Location} {name : String} :
    (tree.get? (directory ++ [name])).isSome ↔
      ∃ entry ∈ tree.entries, entry.1 = directory ++ [name] := by
  rw [get?, if_neg (by simp), Option.isSome_map, List.find?_isSome]
  simp

theorem orderly_iff {tree : FileTree} :
    tree.Orderly ↔ ∀ entry ∈ tree.entries, entry.1 ≠ [] →
      tree.get? entry.1.dropLast = some .directory ∧
        ∀ name ∈ entry.1.getLast?, IsFileName name := by
  constructor
  · intro orderly entry member below
    have whole := List.dropLast_concat_getLast below
    have there := isSome_get?_iff.2 ⟨entry, member, whole.symm⟩
    refine ⟨orderly.inside _ _ there, fun name last => ?_⟩
    rw [List.getLast?_eq_some_getLast below] at last
    cases last
    exact orderly.named _ _ there
  · intro good
    have found {directory : Location} {name : String}
        (there : (tree.get? (directory ++ [name])).isSome) :
        tree.get? directory = some .directory ∧ IsFileName name := by
      obtain ⟨entry, member, same⟩ := isSome_get?_iff.1 there
      obtain ⟨inside, named⟩ := good entry member (by rw [same]; simp)
      rw [same] at inside named
      exact ⟨by simpa using inside, named name (by simp)⟩
    exact ⟨fun _ _ there => (found there).1, fun _ _ there => (found there).2⟩

instance (tree : FileTree) : Decidable tree.Orderly :=
  decidable_of_iff _ orderly_iff.symm

theorem directory_ne_link (target : Path) : Node.directory ≠ .link target := by
  intro same
  cases same

/-- The tree has what is said of the spot. -/
def Shows (tree : FileTree) : Spot → Prop
  | .found location node => tree.get? location = some node
  | .vacant above name =>
      tree.get? above = some .directory ∧ tree.get? (above ++ [name]) = none

namespace Orderly

variable {tree : FileTree} {follow : Bool} {k : Nat} {directory : Location}
  {pieces : List String} {spot : Spot}

theorem above (orderly : tree.Orderly) {top below : Location}
    (there : (tree.get? (top ++ below)).isSome) (some_ : below ≠ []) :
    tree.get? top = some .directory := by
  induction below using List.reverseRecOn with
  | nil => exact absurd rfl some_
  | append_singleton others name ih =>
      rw [← List.append_assoc] at there
      have next := orderly.inside _ _ there
      by_cases direct : others = []
      · subst direct
        simpa using next
      · exact ih (by rw [next]; rfl) direct

theorem leads (orderly : tree.Orderly) {below : Location} {node : Node}
    (start : tree.get? directory = some .directory)
    (there : tree.get? (directory ++ below) = some node) (plain : ∀ target, node ≠ .link target) :
    tree.Leads follow 0 directory below (.found (directory ++ below) node) := by
  induction below generalizing directory with
  | nil =>
      rw [List.append_nil, start] at there
      cases there
      rw [List.append_nil]
      exact .here directory
  | cons name rest ih =>
      have whole : directory ++ name :: rest = directory ++ [name] ++ rest := by simp
      rw [whole] at there ⊢
      by_cases deeper : ∃ inner, tree.get? (directory ++ [name]) = some inner ∧ inner = .directory
      · obtain ⟨_, down, rfl⟩ := deeper
        have step := (orderly.named directory name (by rw [down]; rfl)).step
        exact .down step down (ih down there)
      · have direct : rest = [] := by
          by_cases some_ : rest = []
          · exact some_
          · have down := orderly.above (by rw [there]; rfl) some_
            exact absurd ⟨_, down, rfl⟩ deeper
        subst direct
        rw [List.append_nil] at there ⊢
        have step := (orderly.named directory name (by rw [there]; rfl)).step
        exact .last step there (fun same => deeper ⟨node, there, same⟩)
          fun target same => absurd same (plain target)

theorem parent (orderly : tree.Orderly) (there : tree.get? directory = some .directory) :
    tree.get? directory.dropLast = some .directory := by
  induction directory using List.reverseRecOn with
  | nil => exact there
  | append_singleton above name ih =>
      rw [List.dropLast_concat]
      exact orderly.inside above name (by rw [there]; rfl)

theorem start_directory (there : tree.get? directory = some .directory) (target : Path) :
    tree.get? (linkStart directory target) = some .directory := by
  unfold linkStart
  split
  · rfl
  · exact there

theorem shows (orderly : tree.Orderly) (leads : tree.Leads follow k directory pieces spot)
    (start : tree.get? directory = some .directory) : tree.Shows spot := by
  induction leads with
  | here directory => exact start
  | idle nothing onward ih => exact ih start
  | up onward ih => exact ih (orderly.parent start)
  | down step there onward ih => exact ih there
  | link step there followed onward ih => exact ih (start_directory start _)
  | last step there leaf unfollowed => exact there
  | vacant step absent atEnd => exact ⟨start, absent⟩

end Orderly

theorem Leads.isStep_of_vacant {tree : FileTree} {follow : Bool} {k : Nat}
    {directory above : Location} {pieces : List String} {name : String}
    (leads : tree.Leads follow k directory pieces (.vacant above name)) : IsStep name := by
  generalize vacant : Spot.vacant above name = goal at leads
  induction leads with
  | here => cases vacant
  | idle nothing onward ih => exact ih vacant
  | up onward ih => exact ih vacant
  | down step there onward ih => exact ih vacant
  | link step there followed onward ih => exact ih vacant
  | last => cases vacant
  | vacant step absent atEnd =>
      cases vacant
      exact step

theorem Leads.init_of_vacant {tree : FileTree} {k : Nat} {directory above : Location}
    {pieces : List String} {name last : String}
    (leads : tree.Leads false k directory (pieces ++ [last]) (.vacant above name))
    (counts : Path.isIdle last = false) (notUp : last ≠ "..") :
    name = last ∧ tree.Leads true k directory pieces (.found above .directory) := by
  generalize whole : pieces ++ [last] = all at leads
  generalize vacant : Spot.vacant above name = goal at leads
  induction leads generalizing pieces with
  | here directory => cases vacant
  | idle nothing onward ih =>
      rcases List.append_eq_cons_iff.1 whole with ⟨rfl, same⟩ | ⟨others, rfl, same⟩
      · cases same
        exact absurd nothing (by simp [counts])
      · obtain ⟨named, onward⟩ := ih same.symm vacant
        exact ⟨named, .idle nothing onward⟩
  | up onward ih =>
      rcases List.append_eq_cons_iff.1 whole with ⟨rfl, same⟩ | ⟨others, rfl, same⟩
      · cases same
        exact absurd rfl notUp
      · obtain ⟨named, onward⟩ := ih same.symm vacant
        exact ⟨named, .up onward⟩
  | down step there onward ih =>
      rcases List.append_eq_cons_iff.1 whole with ⟨rfl, same⟩ | ⟨others, rfl, same⟩
      · cases same
        subst vacant
        cases onward
      · obtain ⟨named, onward⟩ := ih same.symm vacant
        exact ⟨named, .down step there onward⟩
  | @link k directory piece rest spot target step there followed onward ih =>
      rcases List.append_eq_cons_iff.1 whole with ⟨rfl, same⟩ | ⟨others, rfl, same⟩
      · cases same
        simp at followed
      · obtain ⟨named, onward⟩ := ih (by rw [List.append_assoc, same]) vacant
        exact ⟨named, .link step there (.inr rfl) onward⟩
  | last => cases vacant
  | @vacant directory piece rest step absent atEnd =>
      cases vacant
      rcases List.append_eq_cons_iff.1 whole with ⟨rfl, same⟩ | ⟨others, rfl, same⟩
      · cases same
        exact ⟨rfl, .here above⟩
      · have blank : last = "" := atEnd last (by rw [same]; simp)
        subst blank
        cases counts

end LintBridge.FileTree
