import LintBridge.Machine.FileTree
import LintBridge.Proofs.Path.Parts

/-!
# Ways through a file tree

`Leads` says where the pieces of a path lead from a directory, and through how many
links.  It has one rule for each kind of piece, so the ways of paths can be put together,
taken apart and compared between trees.
-/

set_option autoImplicit false

namespace LintBridge.FileTree

open LintBridge.Path (counting counting_cons counting_cons_idle counting_append)

/-- The piece names something. -/
structure IsStep (piece : String) : Prop where
  counts : Path.isIdle piece = false
  notUp : piece ≠ ".."
  short : (Text.Stray.bytes piece).length ≤ longestName

/-- Where a link leads on from. -/
def linkStart (directory : Location) (target : Path) : Location :=
  if target.isAbsolute then [] else directory

/-- The pieces lead from a directory to a spot, through so many links. -/
inductive Leads (tree : FileTree) (follow : Bool) : Nat → Location → List String → Spot → Prop where
  | here (directory : Location) : Leads tree follow 0 directory [] (.found directory .directory)
  | idle {k : Nat} {directory : Location} {piece : String} {rest : List String} {spot : Spot}
      (nothing : Path.isIdle piece = true) (onward : Leads tree follow k directory rest spot) :
      Leads tree follow k directory (piece :: rest) spot
  | up {k : Nat} {directory : Location} {rest : List String} {spot : Spot}
      (onward : Leads tree follow k directory.dropLast rest spot) :
      Leads tree follow k directory (".." :: rest) spot
  | down {k : Nat} {directory : Location} {piece : String} {rest : List String} {spot : Spot}
      (step : IsStep piece) (there : tree.get? (directory ++ [piece]) = some .directory)
      (onward : Leads tree follow k (directory ++ [piece]) rest spot) :
      Leads tree follow k directory (piece :: rest) spot
  | link {k : Nat} {directory : Location} {piece : String} {rest : List String} {spot : Spot}
      {target : Path} (step : IsStep piece)
      (there : tree.get? (directory ++ [piece]) = some (.link target))
      (followed : rest ≠ [] ∨ follow = true)
      (onward : Leads tree follow k (linkStart directory target) (target.body ++ rest) spot) :
      Leads tree follow (k + 1) directory (piece :: rest) spot
  | last {directory : Location} {piece : String} {node : Node} (step : IsStep piece)
      (there : tree.get? (directory ++ [piece]) = some node) (leaf : node ≠ .directory)
      (unfollowed : ∀ target, node = .link target → follow = false) :
      Leads tree follow 0 directory [piece] (.found (directory ++ [piece]) node)
  | vacant {directory : Location} {piece : String} {rest : List String} (step : IsStep piece)
      (absent : tree.get? (directory ++ [piece]) = none) (atEnd : ∀ other ∈ rest, other = "") :
      Leads tree follow 0 directory (piece :: rest) (.vacant directory piece)

section

variable {tree : FileTree} {follow : Bool} {directory : Location} {pieces : List String}
  {spot : Spot}

theorem leads_of_scan (ends : tree.scan follow directory pieces = .ends spot) :
    tree.Leads follow 0 directory pieces spot := by
  induction pieces generalizing directory with
  | nil =>
      cases ends
      exact .here directory
  | cons piece rest ih =>
      rw [scan] at ends
      split at ends
      next nothing => exact .idle nothing (ih ends)
      next counts =>
        split at ends
        next dots =>
          subst dots
          exact .up (ih ends)
        next notUp =>
          split at ends
          · cases ends
          next short =>
            have step : IsStep piece := ⟨by simpa using counts, notUp, Nat.le_of_not_lt short⟩
            dsimp only at ends
            split at ends
            next there => exact .down step there (ih ends)
            next target there =>
              split at ends
              next alone =>
                obtain ⟨rfl, plain⟩ : rest = [] ∧ follow = false := by simpa using alone
                cases ends
                exact .last step there (by simp) fun _ _ => plain
              next => cases ends
            next node notDirectory notLink there =>
              split at ends
              next alone =>
                obtain rfl : rest = [] := by simpa using alone
                cases ends
                exact .last step there notDirectory fun target same => absurd same (notLink target)
              next => cases ends
            next absent =>
              split at ends
              next blank =>
                cases ends
                exact .vacant step absent (by simpa using blank)
              next => cases ends

theorem leads_of_scan_link {start : Location} {target : Path} {rest : List String}
    (stops : tree.scan follow directory pieces = .link start target rest) {k : Nat}
    (onward : tree.Leads follow k (linkStart start target) (target.body ++ rest) spot) :
    tree.Leads follow (k + 1) directory pieces spot := by
  induction pieces generalizing directory with
  | nil => cases stops
  | cons piece others ih =>
      rw [scan] at stops
      split at stops
      next nothing => exact .idle nothing (ih stops)
      next counts =>
        split at stops
        next dots =>
          subst dots
          exact .up (ih stops)
        next notUp =>
          split at stops
          · cases stops
          next short =>
            have step : IsStep piece := ⟨by simpa using counts, notUp, Nat.le_of_not_lt short⟩
            dsimp only at stops
            split at stops
            next there => exact .down step there (ih stops)
            next target there =>
              split at stops
              · cases stops
              next more =>
                cases stops
                have followed : rest ≠ [] ∨ follow = true := by
                  by_cases blank : rest = []
                  · exact .inr (by simpa [blank] using more)
                  · exact .inl blank
                exact .link step there followed onward
            · split at stops <;> cases stops
            · split at stops <;> cases stops

theorem leads_of_walk {links : Nat} (leads : tree.walk follow links directory pieces = .ok spot) :
    ∃ k ≤ links, tree.Leads follow k directory pieces spot := by
  induction links generalizing directory pieces with
  | zero =>
      rw [walk] at leads
      split at leads
      next ends =>
        cases leads
        exact ⟨0, Nat.le_refl 0, leads_of_scan ends⟩
      next => cases leads
      next => cases leads
  | succ links ih =>
      rw [walk] at leads
      split at leads
      next ends =>
        cases leads
        exact ⟨0, Nat.zero_le _, leads_of_scan ends⟩
      next => cases leads
      next stops =>
        obtain ⟨k, few, onward⟩ := ih leads
        exact ⟨k + 1, Nat.succ_le_succ few, leads_of_scan_link stops onward⟩

theorem walk_congr {other : Location} {others : List String}
    (same : tree.scan follow directory pieces = tree.scan follow other others) (links : Nat) :
    tree.walk follow links directory pieces = tree.walk follow links other others := by
  cases links <;> rw [walk, walk, same]

theorem scan_step {piece : String} (step : IsStep piece) (rest : List String) :
    tree.scan follow directory (piece :: rest) =
      match tree.get? (directory ++ [piece]) with
      | some .directory => tree.scan follow (directory ++ [piece]) rest
      | some (.link target) =>
          if rest.isEmpty && !follow then
            .ends (.found (directory ++ [piece]) (.link target))
          else .link directory target rest
      | some node =>
          if rest.isEmpty then .ends (.found (directory ++ [piece]) node)
          else .refused .notADirectory
      | none =>
          if rest.all (· = "") then .ends (.vacant directory piece) else .refused .notFound := by
  rw [scan, if_neg (by simp [step.counts]), if_neg step.notUp]
  exact if_neg (Nat.not_lt_of_le step.short)

theorem Leads.walk {k : Nat} (leads : tree.Leads follow k directory pieces spot) {links : Nat}
    (few : k ≤ links) : tree.walk follow links directory pieces = .ok spot := by
  induction leads generalizing links with
  | here directory => cases links <;> rfl
  | idle nothing onward ih =>
      rw [← ih few]
      exact walk_congr (by rw [scan, if_pos nothing]) links
  | up onward ih =>
      rw [← ih few]
      exact walk_congr (by rw [scan, if_neg (by decide), if_pos rfl]) links
  | down step there onward ih =>
      rw [← ih few]
      exact walk_congr (by rw [scan_step step, there]) links
  | @link k directory piece rest spot target step there followed onward ih =>
      obtain ⟨links, rfl⟩ : ∃ fewer, links = fewer + 1 := ⟨links - 1, by omega⟩
      have more : (rest.isEmpty && !follow) = false := by
        rcases followed with some_ | plain
        · simp [some_]
        · simp [plain]
      rw [FileTree.walk, scan_step step, there]
      dsimp only
      rw [more]
      exact ih (by omega)
  | @last directory piece node step there leaf unfollowed =>
      have ends :
          tree.scan follow directory [piece] = .ends (.found (directory ++ [piece]) node) := by
        rw [scan_step step, there]
        cases node with
        | directory => exact absurd rfl leaf
        | link target => simp [unfollowed target rfl]
        | file content executable => rfl
        | program name => rfl
        | sink => rfl
      cases links <;> rw [FileTree.walk, ends]
  | @vacant directory piece rest step absent atEnd =>
      have ends : tree.scan follow directory (piece :: rest) = .ends (.vacant directory piece) := by
        rw [scan_step step, absent]
        simpa using atEnd
      cases links <;> rw [FileTree.walk, ends]

theorem walk_eq_ok_iff {links : Nat} :
    tree.walk follow links directory pieces = .ok spot ↔
      ∃ k ≤ links, tree.Leads follow k directory pieces spot :=
  ⟨leads_of_walk, fun ⟨_, few, leads⟩ => leads.walk few⟩

theorem Leads.unique {k other : Nat} {spot' : Spot}
    (leads : tree.Leads follow k directory pieces spot)
    (leads' : tree.Leads follow other directory pieces spot') : spot = spot' := by
  have walked := leads.walk (Nat.le_max_left k other)
  rw [leads'.walk (Nat.le_max_right k other)] at walked
  cases walked
  rfl

/-! ## The first piece -/

theorem leads_idle_iff {k : Nat} {piece : String} {rest : List String}
    (nothing : Path.isIdle piece = true) :
    tree.Leads follow k directory (piece :: rest) spot ↔
      tree.Leads follow k directory rest spot := by
  constructor
  · intro leads
    cases leads with
    | idle _ onward => exact onward
    | up => cases nothing
    | down step => exact absurd nothing (by simp [step.counts])
    | link step => exact absurd nothing (by simp [step.counts])
    | last step => exact absurd nothing (by simp [step.counts])
    | vacant step => exact absurd nothing (by simp [step.counts])
  · exact .idle nothing

theorem leads_up_iff {k : Nat} {rest : List String} :
    tree.Leads follow k directory (".." :: rest) spot ↔
      tree.Leads follow k directory.dropLast rest spot := by
  constructor
  · intro leads
    cases leads with
    | idle nothing => cases nothing
    | up onward => exact onward
    | down step => exact absurd rfl step.notUp
    | link step => exact absurd rfl step.notUp
    | last step => exact absurd rfl step.notUp
    | vacant step => exact absurd rfl step.notUp
  · exact .up

theorem leads_down_iff {k : Nat} {piece : String} {rest : List String} (step : IsStep piece)
    (there : tree.get? (directory ++ [piece]) = some .directory) :
    tree.Leads follow k directory (piece :: rest) spot ↔
      tree.Leads follow k (directory ++ [piece]) rest spot := by
  constructor
  · intro leads
    cases leads with
    | idle nothing => exact absurd nothing (by simp [step.counts])
    | up => exact absurd rfl step.notUp
    | down _ _ onward => exact onward
    | link _ other => cases there.symm.trans other
    | last _ other leaf =>
        cases there.symm.trans other
        exact absurd rfl leaf
    | vacant _ absent => cases there.symm.trans absent
  · exact .down step there

theorem leads_link_iff {k : Nat} {piece : String} {rest : List String} {target : Path}
    (step : IsStep piece) (there : tree.get? (directory ++ [piece]) = some (.link target))
    (followed : rest ≠ [] ∨ follow = true) :
    tree.Leads follow k directory (piece :: rest) spot ↔
      ∃ fewer, k = fewer + 1 ∧
        tree.Leads follow fewer (linkStart directory target) (target.body ++ rest) spot := by
  constructor
  · intro leads
    cases leads with
    | idle nothing => exact absurd nothing (by simp [step.counts])
    | up => exact absurd rfl step.notUp
    | down _ other => cases there.symm.trans other
    | link _ other _ onward =>
        cases there.symm.trans other
        exact ⟨_, rfl, onward⟩
    | last _ other _ unfollowed =>
        cases there.symm.trans other
        rcases followed with some_ | plain
        · exact absurd rfl some_
        · exact absurd (unfollowed _ rfl) (by simp [plain])
    | vacant _ absent => cases there.symm.trans absent
  · rintro ⟨fewer, rfl, onward⟩
    exact .link step there followed onward

/-! ## One path behind another -/

theorem leads_append_iff {first k : Nat} {target : Location} {rest : List String}
    (leads : tree.Leads true first directory pieces (.found target .directory))
    (more : rest ≠ [] ∨ follow = true) :
    tree.Leads follow k directory (pieces ++ rest) spot ↔
      ∃ later, k = first + later ∧ tree.Leads follow later target rest spot := by
  generalize found : Spot.found target .directory = goal at leads
  induction leads generalizing k with
  | here directory =>
      cases found
      simp
  | idle nothing onward ih =>
      rw [List.cons_append, leads_idle_iff nothing]
      exact ih found
  | up onward ih =>
      rw [List.cons_append, leads_up_iff]
      exact ih found
  | down step there onward ih =>
      rw [List.cons_append, leads_down_iff step there]
      exact ih found
  | @link count _ piece others _ link step there followed onward ih =>
      have goes : others ++ rest ≠ [] ∨ follow = true := by
        rcases more with some_ | plain
        · left
          simp [some_]
        · exact .inr plain
      rw [List.cons_append, leads_link_iff step there goes]
      simp only [← List.append_assoc, ih found]
      constructor
      · rintro ⟨fewer, rfl, later, rfl, onward⟩
        exact ⟨later, by omega, onward⟩
      · rintro ⟨later, rfl, onward⟩
        exact ⟨count + later, by omega, later, rfl, onward⟩
  | last step there leaf unfollowed =>
      cases found
      exact absurd rfl leaf
  | vacant => cases found

/-! ## Pieces that stand for nothing -/

/-- The pieces up to the first one that counts are no part of the way. -/
theorem exists_counting {first : String} {rest : List String}
    (counted : counting pieces = first :: rest) :
    ∃ others, counting others = rest ∧ ∀ k spot directory,
      tree.Leads follow k directory (first :: others) spot →
        tree.Leads follow k directory pieces spot := by
  induction pieces with
  | nil => cases counted
  | cons piece pieces ih =>
      by_cases nothing : Path.isIdle piece = true
      · rw [counting_cons_idle nothing] at counted
        obtain ⟨others, same, leads⟩ := ih counted
        exact ⟨others, same, fun k spot directory onward =>
          .idle nothing (leads k spot directory onward)⟩
      · rw [counting_cons (by simpa using nothing)] at counted
        cases counted
        exact ⟨pieces, rfl, fun _ _ _ onward => onward⟩

/-- The way to a directory is the same for all paths with the same counting pieces. -/
theorem Leads.of_counting {k : Nat} {target : Location}
    (leads : tree.Leads follow k directory pieces (.found target .directory)) {others : List String}
    (same : counting others = counting pieces) :
    tree.Leads true k directory others (.found target .directory) := by
  generalize found : Spot.found target .directory = goal at leads
  induction leads generalizing others with
  | here directory =>
      induction others with
      | nil => exact .here directory
      | cons piece rest ih =>
          by_cases nothing : Path.isIdle piece = true
          · exact .idle nothing (ih (by rwa [counting_cons_idle nothing] at same))
          · rw [counting_cons (by simpa using nothing)] at same
            cases same
  | idle nothing onward ih =>
      exact ih (by rwa [counting_cons_idle nothing] at same) found
  | up onward ih =>
      rw [counting_cons (by decide)] at same
      obtain ⟨rest, same, leads⟩ := exists_counting same
      exact leads _ _ _ (.up (ih same found))
  | down step there onward ih =>
      rw [counting_cons step.counts] at same
      obtain ⟨rest, same, leads⟩ := exists_counting same
      exact leads _ _ _ (.down step there (ih same found))
  | link step there followed onward ih =>
      rw [counting_cons step.counts] at same
      obtain ⟨rest, same, leads⟩ := exists_counting same
      refine leads _ _ _ (.link step there (.inr rfl) (ih ?_ found))
      rw [counting_append, counting_append, same]
  | last step there leaf unfollowed =>
      cases found
      exact absurd rfl leaf
  | vacant => cases found

theorem exists_cons_of_append {piece : String} {rest before tail : List String}
    (counts : Path.isIdle piece = false) (nothing : ∀ piece ∈ tail, Path.isIdle piece = true)
    (whole : before ++ tail = piece :: rest) :
    ∃ others, before = piece :: others ∧ others ++ tail = rest := by
  rcases List.append_eq_cons_iff.1 whole with ⟨-, same⟩ | ⟨others, same, whole⟩
  · have member : piece ∈ tail := same ▸ List.mem_cons_self
    exact absurd (nothing piece member) (by simp [counts])
  · exact ⟨others, same, whole.symm⟩

/-- A way that is found does not need what stands for nothing at its end. -/
theorem Leads.of_append_idle {k : Nat} {target : Location} {node : Node} {tail : List String}
    (leads : tree.Leads true k directory (pieces ++ tail) (.found target node))
    (nothing : ∀ piece ∈ tail, Path.isIdle piece = true) :
    tree.Leads true k directory pieces (.found target node) := by
  generalize whole : pieces ++ tail = all at leads
  generalize found : Spot.found target node = goal at leads
  induction leads generalizing pieces tail with
  | here directory =>
      obtain ⟨rfl, -⟩ := List.append_eq_nil_iff.1 whole
      exact .here directory
  | idle skipped onward ih =>
      rcases List.append_eq_cons_iff.1 whole with ⟨rfl, same⟩ | ⟨others, rfl, same⟩
      · subst same
        exact ih (fun piece member => nothing piece (List.mem_cons_of_mem _ member)) rfl found
      · exact .idle skipped (ih nothing same.symm found)
  | up onward ih =>
      obtain ⟨others, rfl, same⟩ := exists_cons_of_append (by decide) nothing whole
      exact .up (ih nothing same found)
  | down step there onward ih =>
      obtain ⟨others, rfl, same⟩ := exists_cons_of_append step.counts nothing whole
      exact .down step there (ih nothing same found)
  | link step there followed onward ih =>
      obtain ⟨others, rfl, same⟩ := exists_cons_of_append step.counts nothing whole
      refine .link step there (.inr rfl) (ih nothing ?_ found)
      rw [List.append_assoc, same]
  | last step there leaf unfollowed =>
      obtain ⟨others, rfl, same⟩ := exists_cons_of_append step.counts nothing whole
      obtain ⟨rfl, -⟩ := List.append_eq_nil_iff.1 same
      exact .last step there leaf unfollowed
  | vacant => cases found

end

end LintBridge.FileTree
