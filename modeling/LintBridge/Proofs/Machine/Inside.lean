import LintBridge.Proofs.Machine.Locating

/-!
# Inside a directory

A path that the text of a directory begins with leads into the directory, as long as what is
behind the directory does not go up and does not go through a link.  The locations that
paths lead to can be compared without such a condition.
-/

set_option autoImplicit false

namespace LintBridge

namespace Path

theorem counting_counting (pieces : List String) :
    counting (counting pieces) = counting pieces := by
  simp [counting]

theorem counting_eq_self {pieces : List String}
    (counts : ∀ piece ∈ pieces, isIdle piece = false) :
    counting pieces = pieces := by
  simpa [counting, List.filter_eq_self] using counts

theorem exists_cons_of_sublist {piece : String} {rest others : List String}
    (part : others.Sublist (piece :: rest)) (counts : isIdle piece = false)
    (same : counting others = piece :: counting rest) :
    ∃ more, others = piece :: more ∧ more.Sublist rest ∧ counting more = counting rest := by
  cases part with
  | cons _ part =>
      have fewer := (part.filter (!isIdle ·)).length_le
      have longer := congrArg List.length same
      simp only [counting, List.length_cons] at fewer longer
      omega
  | cons_cons _ part =>
      rw [counting_cons counts] at same
      exact ⟨_, rfl, part, (List.cons.inj same).2⟩

theorem pieces_rebuild {first : String} {others : List String} :
    rebuild false (first :: others) = ⟨first :: others⟩ := rfl

theorem body_of_named {first : String} {others : List String} (counts : isIdle first = false) :
    (Path.mk (first :: others)).body = first :: others := by
  have named : first ≠ "" := by
    rintro rfl
    cases counts
  have relative : (Path.mk (first :: others)).isAbsolute = false := by
    unfold isAbsolute
    split
    next blank => exact absurd (List.cons.inj blank).1 named
    next => rfl
  exact if_neg (by simp [relative])

end Path

namespace FileTree

open LintBridge.Path (counting counting_cons counting_cons_idle counting_append
  counting_counting exists_cons_of_sublist)

section

variable {tree : FileTree} {follow : Bool} {k : Nat} {directory place : Location}
  {pieces : List String} {node : Node}

/-! ## Ways with fewer pieces -/

theorem Leads.of_sublist (leads : tree.Leads true k directory pieces (.found place node))
    {others : List String} (part : others.Sublist pieces)
    (same : counting others = counting pieces) :
    tree.Leads true k directory others (.found place node) := by
  generalize found : Spot.found place node = spot at leads
  induction leads generalizing others with
  | here directory =>
      obtain rfl := List.sublist_nil.1 part
      exact .here directory
  | idle nothing onward ih =>
      rw [counting_cons_idle nothing] at same
      cases part with
      | cons _ part => exact ih part same found
      | cons_cons _ part =>
          rw [counting_cons_idle nothing] at same
          exact .idle nothing (ih part same found)
  | up onward ih =>
      rw [counting_cons (by decide)] at same
      obtain ⟨more, rfl, part, same⟩ := exists_cons_of_sublist part (by decide) same
      exact .up (ih part same found)
  | down step there onward ih =>
      rw [counting_cons step.counts] at same
      obtain ⟨more, rfl, part, same⟩ := exists_cons_of_sublist part step.counts same
      exact .down step there (ih part same found)
  | link step there followed onward ih =>
      rw [counting_cons step.counts] at same
      obtain ⟨more, rfl, part, same⟩ := exists_cons_of_sublist part step.counts same
      refine .link step there (.inr rfl) (ih (part.append_left _) ?_ found)
      rw [counting_append, counting_append, same]
  | last step there leaf unfollowed =>
      rw [counting_cons step.counts] at same
      obtain ⟨more, rfl, part, -⟩ := exists_cons_of_sublist part step.counts same
      obtain rfl := List.sublist_nil.1 part
      exact .last step there leaf unfollowed
  | vacant => cases found

/-- Pieces that differ in what stands for nothing lead to one place. -/
theorem Leads.same_end (leads : tree.Leads true k directory pieces (.found place node))
    {other : Nat} {others : List String} {place' : Location} {node' : Node}
    (leads' : tree.Leads true other directory others (.found place' node'))
    (same : counting others = counting pieces) : place' = place ∧ node' = node := by
  have first := leads.of_sublist List.filter_sublist (counting_counting pieces)
  have second := leads'.of_sublist List.filter_sublist (counting_counting others)
  rw [show List.filter (fun piece => !Path.isIdle piece) others = counting others from rfl,
    same] at second
  cases first.unique second
  exact ⟨rfl, rfl⟩

theorem Leads.through {before after : List String}
    (leads : tree.Leads follow k directory (before ++ after) (.found place node))
    (more : counting after ≠ []) :
    ∃ first middle, tree.Leads true first directory before (.found middle .directory) := by
  generalize whole : before ++ after = pieces at leads
  generalize found : Spot.found place node = spot at leads
  induction leads generalizing before with
  | here directory =>
      obtain ⟨-, rfl⟩ := List.append_eq_nil_iff.1 whole
      exact absurd rfl more
  | @idle k directory piece rest spot nothing onward ih =>
      cases before with
      | nil => exact ⟨0, directory, .here directory⟩
      | cons first others =>
          rw [List.cons_append, List.cons.injEq] at whole
          obtain ⟨rfl, whole⟩ := whole
          obtain ⟨count, middle, onward⟩ := ih whole found
          exact ⟨count, middle, .idle nothing onward⟩
  | @up k directory rest spot onward ih =>
      cases before with
      | nil => exact ⟨0, directory, .here directory⟩
      | cons first others =>
          rw [List.cons_append, List.cons.injEq] at whole
          obtain ⟨rfl, whole⟩ := whole
          obtain ⟨count, middle, onward⟩ := ih whole found
          exact ⟨count, middle, .up onward⟩
  | @down k directory piece rest spot step there onward ih =>
      cases before with
      | nil => exact ⟨0, directory, .here directory⟩
      | cons first others =>
          rw [List.cons_append, List.cons.injEq] at whole
          obtain ⟨rfl, whole⟩ := whole
          obtain ⟨count, middle, onward⟩ := ih whole found
          exact ⟨count, middle, .down step there onward⟩
  | @link k directory piece rest spot target step there followed onward ih =>
      cases before with
      | nil => exact ⟨0, directory, .here directory⟩
      | cons first others =>
          rw [List.cons_append, List.cons.injEq] at whole
          obtain ⟨rfl, whole⟩ := whole
          have regrouped : target.body ++ others ++ after = target.body ++ rest := by
            rw [List.append_assoc, whole]
          obtain ⟨count, middle, onward⟩ := ih regrouped found
          exact ⟨count + 1, middle, .link step there (.inr rfl) onward⟩
  | @last directory piece node step there leaf unfollowed =>
      cases before with
      | nil => exact ⟨0, directory, .here directory⟩
      | cons first others =>
          rw [List.cons_append, List.cons.injEq] at whole
          obtain ⟨-, rfl⟩ := List.append_eq_nil_iff.1 whole.2
          exact absurd rfl more
  | vacant => cases found

theorem Leads.straight (leads : tree.Leads follow 0 directory pieces (.found place node))
    (level : ".." ∉ pieces) : place = directory ++ counting pieces := by
  generalize none_ : 0 = k at leads
  generalize found : Spot.found place node = spot at leads
  induction leads with
  | here directory =>
      cases found
      exact (List.append_nil _).symm
  | idle nothing onward ih =>
      rw [counting_cons_idle nothing]
      exact ih (fun up => level (List.mem_cons_of_mem _ up)) none_ found
  | up => exact absurd List.mem_cons_self level
  | down step there onward ih =>
      rw [counting_cons step.counts, ih (fun up => level (List.mem_cons_of_mem _ up)) none_ found,
        List.append_assoc, List.singleton_append]
  | link => cases none_
  | last step =>
      cases found
      rw [counting_cons step.counts]
      rfl
  | vacant => cases found

theorem Leads.names (leads : tree.Leads follow k directory pieces (.found place node))
    (named : ∀ name ∈ directory, Path.isIdle name = false) :
    ∀ name ∈ place, Path.isIdle name = false := by
  have further {directory : Location} {piece : String} (step : IsStep piece)
      (named : ∀ name ∈ directory, Path.isIdle name = false) :
      ∀ name ∈ directory ++ [piece], Path.isIdle name = false := by
    rw [List.forall_mem_append]
    exact ⟨named, by simpa using step.counts⟩
  generalize found : Spot.found place node = spot at leads
  induction leads with
  | here directory =>
      cases found
      exact named
  | idle nothing onward ih => exact ih named found
  | up onward ih =>
      exact ih (fun name member => named name ((List.dropLast_sublist _).subset member)) found
  | down step there onward ih => exact ih (further step named) found
  | @link k directory piece rest spot target step there followed onward ih =>
      refine ih ?_ found
      unfold linkStart
      split
      · simp
      · exact named
  | last step =>
      cases found
      exact further step named
  | vacant => cases found

end

/-! ## One path inside another -/

/-- What is behind a directory goes up, or through a link. -/
def Strays (tree : FileTree) (directory : Location) (rest : Path) : Prop :=
  ".." ∈ rest.pieces ∨ ∃ links spot, tree.Leads true (links + 1) directory rest.body spot

variable {tree : FileTree} {current directory place : Location} {root path rest : Path}
  {node node' : Node}

/-- A path leads into a directory that its text begins with. -/
theorem inside_of_strip (rootThere : tree.node current root = .ok (directory, node))
    (placed : tree.node current path = .ok (place, node')) (proper : root.pieces ≠ [])
    (strips : path.stripPrefix? root = some rest) (plain : ¬ tree.Strays directory rest) :
    directory <+: place := by
  obtain ⟨rootUsable, _, -, rootLeads⟩ := locate_eq_ok_iff.1 (node_eq_ok_iff.1 rootThere)
  obtain ⟨-, _, -, leads⟩ := locate_eq_ok_iff.1 (node_eq_ok_iff.1 placed)
  obtain ⟨front, middle, tail, cut, rfl⟩ := Path.exists_cut proper rootUsable.some_ strips
  have start : linkStart current path = linkStart current root := by
    unfold linkStart
    rw [cut.absolute]
  rw [cut.whole, start] at leads
  have onward := leads.of_append_idle cut.idle
  cases middle with
  | nil =>
      rw [List.append_nil] at onward
      exact (rootLeads.same_end onward cut.same).1 ▸ List.prefix_refl _
  | cons first others =>
      have counts : Path.isIdle first = false := cut.begins first rfl
      obtain ⟨_, below, frontLeads⟩ := onward.through (by simp [counting_cons counts])
      -- the root has something below it, so it is a directory
      obtain ⟨rfl, rfl⟩ := rootLeads.same_end frontLeads cut.same
      obtain ⟨later, -, behind⟩ := (leads_append_iff frontLeads (.inr rfl)).1 onward
      rw [Strays, Path.pieces_rebuild, Path.body_of_named counts] at plain
      obtain ⟨level, unlinked⟩ := not_or.1 plain
      cases later with
      | zero => exact ⟨counting (first :: others), (behind.straight level).symm⟩
      | succ links => exact absurd ⟨links, _, behind⟩ unlinked

theorem components_pathOf {location : Location}
    (named : ∀ name ∈ location, Path.isIdle name = false) :
    (pathOf location).components = .root :: location.map Path.componentOf := by
  have counted : counting (pathOf location).body = location := by
    rw [body_pathOf]
    split
    next blank =>
      subst blank
      rfl
    next => exact Path.counting_eq_self named
  rw [Path.components_eq, counted, Path.opening, if_pos (isAbsolute_pathOf location)]
  rfl

/-- Of two locations one is above the other if its path begins the other's. -/
theorem isSome_stripPrefix?_pathOf (named : ∀ name ∈ directory, Path.isIdle name = false)
    (named' : ∀ name ∈ place, Path.isIdle name = false) :
    ((pathOf place).stripPrefix? (pathOf directory)).isSome ↔ directory <+: place := by
  have begins : ((pathOf place).stripPrefix? (pathOf directory)).isSome ↔
      directory.map Path.componentOf <+: place.map Path.componentOf := by
    rw [Path.stripPrefix?, components_pathOf named, components_pathOf named']
    split
    next holds =>
      rw [List.isPrefixOf_iff_prefix, List.cons_prefix_cons] at holds
      simpa using holds.2
    next fails =>
      rw [List.isPrefixOf_iff_prefix, List.cons_prefix_cons, not_and] at fails
      simpa using fails rfl
  rw [begins]
  constructor
  · intro holds
    rw [Path.take_of_map_begins named named' holds]
    exact List.take_prefix _ _
  · exact fun holds => holds.map _

end FileTree

end LintBridge
