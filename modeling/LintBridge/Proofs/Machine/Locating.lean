import LintBridge.Proofs.Machine.Changes
import LintBridge.Proofs.Machine.Orderly

/-!
# Where paths lead

A path leads to a file in three ways that agree: as it is written, by the location that
it leads to, and behind a directory that its text or its location begins with.
-/

set_option autoImplicit false

namespace LintBridge

namespace Path

/-- The system takes the path. -/
structure IsUsable (path : Path) : Prop where
  noNul : ∀ piece ∈ path.pieces, '\x00' ∉ piece.toList
  some_ : path ≠ empty
  short : weight path.pieces ≤ FileTree.longestPath + 1

theorem length_bytes_le_iff (path : Path) (bound : Nat) :
    path.bytes.length ≤ bound ↔ weight path.pieces ≤ bound + 1 := by
  by_cases none_ : path.pieces = []
  · obtain ⟨pieces⟩ := path
    dsimp only at none_
    subst none_
    have blank : (Path.mk []).bytes.length = 0 := by decide +kernel
    rw [blank]
    simp [weight]
  · have same := path.length_bytes none_
    omega

end Path

namespace FileTree

open LintBridge.Path (IsUsable)

variable {tree : FileTree} {follow : Bool} {current location : Location} {path : Path}
  {spot : Spot} {node : Node}

theorem locate_eq_ok_iff :
    tree.locate follow current path = .ok spot ↔ path.IsUsable ∧
      ∃ k ≤ mostLinks, tree.Leads follow k (linkStart current path) path.body spot := by
  have nul : path.kept.toList.any (· = '\x00') = true ↔
      ¬ ∀ piece ∈ path.pieces, '\x00' ∉ piece.toList := by
    rw [List.any_eq_true]
    simp only [decide_eq_true_eq]
    have member := Path.mem_kept (show '\x00' ≠ '/' by decide) path
    constructor
    · rintro ⟨c, inside, rfl⟩ clean
      obtain ⟨piece, there, found⟩ := member.1 inside
      exact clean piece there found
    · intro dirty
      refine ⟨'\x00', member.2 ?_, rfl⟩
      simpa using dirty
  have long := path.length_bytes_le_iff longestPath
  rw [← walk_eq_ok_iff, locate]
  constructor
  · intro located
    split at located
    · cases located
    next clean =>
      split at located
      · cases located
      next some_ =>
        split at located
        · cases located
        next short =>
          refine ⟨⟨?_, some_, long.1 (Nat.le_of_not_lt short)⟩, located⟩
          exact Decidable.not_not.1 fun dirty => clean (nul.2 dirty)
  · rintro ⟨usable, walked⟩
    rw [if_neg fun dirty => nul.1 dirty usable.noNul, if_neg usable.some_,
      if_neg (Nat.not_lt_of_le (long.2 usable.short))]
    exact walked

theorem node_eq_ok_iff :
    tree.node current path = .ok (location, node) ↔
      tree.locate true current path = .ok (.found location node) := by
  unfold FileTree.node
  split
  next failed => simp [failed]
  next found => simp [found]
  next vacant => simp [vacant]

theorem canonical_eq_ok_iff {canonical : Path} :
    tree.canonical current path = .ok canonical ↔
      ∃ location node, tree.node current path = .ok (location, node) ∧
        Path.weight (pathOf location).pieces ≤ longestPath + 1 ∧ canonical = pathOf location := by
  unfold FileTree.canonical
  split
  next failed => simp [failed]
  next location node found =>
    have long := (pathOf location).length_bytes_le_iff longestPath
    rw [found]
    split
    next tooLong =>
      constructor
      · intro impossible
        cases impossible
      · rintro ⟨_, _, same, short, -⟩
        cases same
        exact absurd (long.2 short) (Nat.not_le_of_lt tooLong)
    next fits =>
      constructor
      · intro same
        cases same
        exact ⟨location, node, rfl, long.1 (Nat.le_of_not_lt fits), rfl⟩
      · rintro ⟨_, _, same, -, rfl⟩
        cases same
        rfl

/-! ## Behind a directory -/

theorem Leads.ne_nil {k : Nat} {directory place : Location} {pieces : List String}
    (leads : tree.Leads follow k directory pieces (.found place node))
    (leaf : node ≠ .directory) : pieces ≠ [] := by
  rintro rfl
  cases leads
  exact leaf rfl

/-- A path to a file leads there too from a directory that the path begins with. -/
theorem locate_rest {root rest : Path} {directory place : Location}
    (rootThere : tree.locate true current root = .ok (.found directory .directory))
    (placed : tree.locate true current path = .ok (.found place node))
    (leaf : node ≠ .directory) (proper : root.pieces ≠ [])
    (strips : path.stripPrefix? root = some rest) :
    tree.locate true directory rest = .ok (.found place node) ∧
      rest.pieces.Sublist path.pieces ∧ rest.pieces ≠ [] := by
  obtain ⟨rootUsable, _, -, rootLeads⟩ := locate_eq_ok_iff.1 rootThere
  obtain ⟨usable, k, few, leads⟩ := locate_eq_ok_iff.1 placed
  obtain ⟨front, middle, tail, cut, rfl⟩ := Path.exists_cut proper rootUsable.some_ strips
  have start : linkStart current root = linkStart current path := by
    unfold linkStart
    rw [cut.absolute]
  rw [cut.whole] at leads
  have onward := leads.of_append_idle cut.idle
  rw [start] at rootLeads
  have frontLeads := rootLeads.of_counting cut.same
  obtain ⟨later, rfl, behind⟩ := (leads_append_iff frontLeads (.inr rfl)).1 onward
  have some_ := behind.ne_nil leaf
  obtain ⟨first, others, split⟩ := List.exists_cons_of_ne_nil some_
  have counts : Path.isIdle first = false := cut.begins first (by rw [split]; rfl)
  have named : first ≠ "" := by
    rintro rfl
    cases counts
  have rebuilt : Path.rebuild false middle = ⟨middle⟩ := by
    rw [split]
    rfl
  have relative : (Path.mk middle).isAbsolute = false := by
    rw [split]
    unfold Path.isAbsolute
    split
    next blank => exact absurd (List.cons.inj blank).1 named
    next => rfl
  have body : (Path.mk middle).body = middle := if_neg (by simp [relative])
  have inBody : middle.Sublist path.body := by
    rw [cut.whole]
    exact (List.sublist_append_right front middle).trans (List.sublist_append_left _ tail)
  have part : middle.Sublist path.pieces := by
    refine inBody.trans ?_
    unfold Path.body
    split
    · exact List.tail_sublist _
    · exact List.Sublist.refl _
  rw [rebuilt]
  refine ⟨locate_eq_ok_iff.2 ⟨⟨?_, ?_, ?_⟩, later, by omega, ?_⟩, part, some_⟩
  · exact fun piece member => usable.noNul piece (part.subset member)
  · intro blank
    have same : middle = [""] := congrArg Path.pieces blank
    rw [split] at same
    exact named (List.cons.inj same).1
  · exact Nat.le_trans (Path.weight_le_of_sublist part) usable.short
  · rw [body, linkStart, relative]
    exact behind

/-! ## Locations as paths -/

theorem pieces_pathOf (location : Location) :
    (pathOf location).pieces = "" :: if location = [] then [""] else location := by
  cases location <;> rfl

theorem isAbsolute_pathOf (location : Location) : (pathOf location).isAbsolute = true := by
  cases location with
  | nil => rfl
  | cons name rest => rfl

theorem body_pathOf (location : Location) :
    (pathOf location).body = if location = [] then [""] else location := by
  rw [Path.body, if_pos (isAbsolute_pathOf location), pieces_pathOf]
  rfl

theorem Orderly.names (orderly : tree.Orderly) (there : (tree.get? location).isSome) :
    ∀ name ∈ location, IsFileName name := by
  induction location using List.reverseRecOn with
  | nil => simp
  | append_singleton directory name ih =>
      intro other member
      rcases List.mem_append.1 member with inside | last
      · exact ih (by rw [orderly.inside _ _ there]; rfl) other inside
      · rw [List.mem_singleton] at last
        exact last ▸ orderly.named _ _ there

theorem Orderly.leads_pathOf (orderly : tree.Orderly) (there : tree.get? location = some node)
    (plain : ∀ target, node ≠ .link target) :
    tree.Leads follow 0 [] (pathOf location).body (.found location node) := by
  rw [body_pathOf]
  split
  next root =>
    subst root
    cases there
    exact .idle rfl (.here [])
  next => exact orderly.leads rfl there plain

theorem isUsable_pathOf (orderly : tree.Orderly) (there : (tree.get? location).isSome)
    (short : Path.weight (pathOf location).pieces ≤ longestPath + 1) :
    (pathOf location).IsUsable where
  noNul := by
    rw [pieces_pathOf]
    split
    · simp
    · rw [List.forall_mem_cons]
      exact ⟨by simp, fun name member => (orderly.names there name member).noNul⟩
  some_ := by
    intro blank
    have absolute := isAbsolute_pathOf location
    rw [blank] at absolute
    cases absolute
  short := short

theorem Orderly.locate_pathOf (orderly : tree.Orderly) (there : tree.get? location = some node)
    (plain : ∀ target, node ≠ .link target)
    (short : Path.weight (pathOf location).pieces ≤ longestPath + 1) :
    tree.locate follow current (pathOf location) = .ok (.found location node) := by
  have usable := isUsable_pathOf orderly (by rw [there]; rfl) short
  refine locate_eq_ok_iff.2 ⟨usable, 0, Nat.zero_le _, ?_⟩
  rw [linkStart, if_pos (isAbsolute_pathOf location)]
  exact orderly.leads_pathOf there plain

theorem isText_pathOf (orderly : tree.Orderly) (there : (tree.get? location).isSome) :
    (pathOf location).IsText := by
  have blank : Path.IsName "" := ⟨"", by simp, rfl⟩
  rw [Path.isText_iff, pieces_pathOf]
  refine ⟨by simp, ?_⟩
  rw [List.forall_mem_cons]
  refine ⟨blank, ?_⟩
  split
  · simpa using blank
  · exact fun name member => (orderly.names there name member).isName

/-! ## Making, filling and removing a file -/

section

variable {other left : FileTree} {above : Location} {name : String} {place : Location}
  {content : Bytes} {executable : Bool}

/-- The path leads to a place where nothing stands. -/
def IsFree (tree : FileTree) (current : Location) (path : Path) (place : Location) : Prop :=
  ∃ above name, place = above ++ [name] ∧
    tree.locate false current path = .ok (.vacant above name)

theorem puts_of_create (created : tree.create current path = .ok (some left)) :
    ∃ place, tree.IsFree current path place ∧ tree.Puts place [] false left := by
  unfold create at created
  split at created
  · cases created
  · cases created
  next above name vacant =>
    cases created
    exact ⟨above ++ [name], ⟨above, name, rfl, vacant⟩,
      puts_set tree (place_ne_root above name) [] false⟩

theorem puts_of_write {bytes : Bytes} (there : tree.locate true current path
      = .ok (.found place (.file content executable)))
    (written : tree.write current path bytes = .ok left) :
    tree.Puts place bytes executable left := by
  obtain ⟨-, _, -, leads⟩ := locate_eq_ok_iff.1 there
  have below := leads.get?_file.2
  simp only [FileTree.write, there] at written
  cases written
  exact puts_set tree below bytes executable

theorem remove_of_file (there : tree.locate false current path
      = .ok (.found place (.file content executable))) :
    tree.remove current path = tree.clear place := by
  simp only [FileTree.remove, there]

theorem isFree_clear (there : tree.locate false current path
      = .ok (.found place (.file content executable))) :
    (tree.clear place).IsFree current path place := by
  obtain ⟨usable, k, few, leads⟩ := locate_eq_ok_iff.1 there
  obtain ⟨file, below⟩ := leads.get?_file
  have alike : tree.Alike (tree.clear place) := by
    intro location
    rw [get?_clear _ below]
    split
    next here =>
      subst here
      exact .inr ⟨.inr ⟨content, executable, file⟩, .inl rfl⟩
    next => exact .inl rfl
  have absent : (tree.clear place).get? place = none := by
    rw [get?_clear _ below, if_pos rfl]
  obtain ⟨above, name, same, vacant⟩ := leads.of_absent alike absent
  exact ⟨above, name, same, locate_eq_ok_iff.2 ⟨usable, k, few, vacant⟩⟩

theorem IsFree.unique (free : tree.IsFree current path place) {other : Location}
    (free' : tree.IsFree current path other) : place = other := by
  obtain ⟨above, name, rfl, vacant⟩ := free
  obtain ⟨above', name', rfl, vacant'⟩ := free'
  cases vacant.symm.trans vacant'
  rfl

theorem IsFree.get?_eq_none (free : tree.IsFree current path place) : tree.get? place = none := by
  obtain ⟨above, name, rfl, vacant⟩ := free
  obtain ⟨-, _, -, leads⟩ := locate_eq_ok_iff.1 vacant
  exact leads.get?_vacant

theorem IsFree.ne_root (free : tree.IsFree current path place) : place ≠ [] := by
  obtain ⟨above, name, rfl, -⟩ := free
  exact place_ne_root above name

theorem locate_of_filled
    (vacant : tree.locate false current path = .ok (.vacant above name)) (alike : tree.Alike other)
    (there : other.get? (above ++ [name]) = some (.file content executable))
    (ending : path.body.getLast? ≠ some "") :
    other.locate follow current path
      = .ok (.found (above ++ [name]) (.file content executable)) := by
  obtain ⟨usable, k, few, leads⟩ := locate_eq_ok_iff.1 vacant
  have found := leads.of_filled alike there ending
  refine locate_eq_ok_iff.2 ⟨usable, k, few, ?_⟩
  cases follow with
  | false => exact found
  | true => exact found.followed fun _ same => nomatch same

theorem get?_of_file
    (there : tree.locate follow current path = .ok (.found place (.file content executable))) :
    tree.get? place = some (.file content executable) ∧ place ≠ [] := by
  obtain ⟨-, _, -, leads⟩ := locate_eq_ok_iff.1 there
  exact leads.get?_file

end

end FileTree

end LintBridge
