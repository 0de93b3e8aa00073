import LintBridge.Proofs.Machine.Locating
import LintBridge.Proofs.Path.Copies

/-!
# Where copies stand

A copy stands in the directory of its document, under a name with the document's
extension.
-/

set_option autoImplicit false

namespace LintBridge

namespace Path

/-! ## Texts -/

theorem isName_empty : IsName "" :=
  ⟨"", by simp, rfl⟩

theorem IsText.join {path other : Path} (first : path.IsText) (second : other.IsText) :
    (path.join other).IsText := by
  obtain ⟨some_, names⟩ := isText_iff.1 first
  obtain ⟨some_', names'⟩ := isText_iff.1 second
  unfold Path.join
  split
  · exact second
  · split
    · refine isText_iff.2 ⟨by simp [some_'], fun piece member => ?_⟩
      rcases List.mem_append.1 member with inside | inside
      · exact names piece ((List.dropLast_sublist _).subset inside)
      · exact names' piece inside
    · refine isText_iff.2 ⟨by simp [some_'], fun piece member => ?_⟩
      rcases List.mem_append.1 member with inside | inside
      · exact names piece inside
      · exact names' piece inside

theorem mem_trimEnd {pieces : List String} {piece : String} (member : piece ∈ trimEnd pieces) :
    piece ∈ pieces := by
  have inside := (List.dropWhile_sublist isIdle).subset (List.mem_reverse.1 member)
  exact List.mem_reverse.1 inside

theorem mem_trim {absolute : Bool} {pieces : List String} {piece : String}
    (member : piece ∈ trim absolute pieces) : piece ∈ pieces := by
  unfold trim at member
  split at member
  next =>
    split at member
    next dot =>
      rw [List.mem_singleton] at member
      simp only [Bool.and_eq_true, decide_eq_true_eq] at dot
      exact member ▸ List.mem_of_mem_head? dot.2
    next => cases member
  next => exact mem_trimEnd member

theorem mem_body {path : Path} {piece : String} (member : piece ∈ path.body) :
    piece ∈ path.pieces := by
  unfold body at member
  split at member
  · exact List.mem_of_mem_tail member
  · exact member

theorem IsText.parent {path parent : Path} (isText : path.IsText)
    (above : path.parent? = some parent) : parent.IsText := by
  obtain ⟨-, names⟩ := isText_iff.1 isText
  unfold parent? at above
  split at above
  · cases above
  next pieces _ =>
    cases above
    have inside : ∀ piece ∈ trim path.isAbsolute (trim path.isAbsolute path.body).dropLast,
        IsName piece := fun piece member =>
      names piece (mem_body (mem_trim ((List.dropLast_sublist _).subset (mem_trim member))))
    generalize trim path.isAbsolute (trim path.isAbsolute path.body).dropLast = kept at inside ⊢
    unfold rebuild
    split
    · refine isText_iff.2 ⟨by simp, ?_⟩
      rw [List.forall_mem_cons]
      refine ⟨isName_empty, ?_⟩
      split
      · simpa using isName_empty
      · exact inside
    · split
      · exact isText_iff.2 ⟨by simp [empty], by simpa [empty] using isName_empty⟩
      next some_ => exact isText_iff.2 ⟨by simpa using some_, inside⟩

/-! ## A name behind a directory -/

theorem ofText_of_clean {name : String} (clean : '/' ∉ name.toList) :
    ofText name = ⟨[Text.Stray.keepText name]⟩ := by
  have cut := split_append clean [] []
  rw [List.append_nil, List.append_nil] at cut
  rw [ofText_eq, cut]
  simp [split]

theorem isAbsolute_cons {more : List String} (some_ : more ≠ []) :
    (Path.mk ("" :: more)).isAbsolute = true := by
  obtain ⟨first, rest, rfl⟩ := List.exists_cons_of_ne_nil some_
  rfl

theorem body_cons {more : List String} (some_ : more ≠ []) :
    (Path.mk ("" :: more)).body = more := by
  rw [body, if_pos (isAbsolute_cons some_)]
  rfl

theorem exists_of_isAbsolute {path : Path} (absolute : path.isAbsolute = true) :
    ∃ more, more ≠ [] ∧ path = ⟨"" :: more⟩ := by
  obtain ⟨pieces⟩ := path
  unfold isAbsolute at absolute
  split at absolute
  next first rest same => exact ⟨first :: rest, by simp, congrArg Path.mk same⟩
  next => cases absolute

theorem join_of_relative {directory other : Path} (some_ : directory ≠ empty)
    (relative : other.isAbsolute = false) :
    directory.join other = if directory.pieces.getLast? = some "" then
      ⟨directory.pieces.dropLast ++ other.pieces⟩ else ⟨directory.pieces ++ other.pieces⟩ := by
  unfold Path.join
  rw [if_neg (by simp [relative, some_])]

/-- The path is the directory with a name behind it. -/
structure Behind (directory path : Path) (name : String) (front tail : List String) : Prop where
  absolute : path.isAbsolute = true
  body : path.body = front ++ [name]
  above : directory.body = front ++ tail
  idle : tail = [] ∨ tail = [""]

theorem exists_behind {directory : Path} (absolute : directory.isAbsolute = true) (name : String) :
    ∃ front tail, Behind directory (directory.join ⟨[name]⟩) name front tail := by
  have some_ : directory ≠ empty := by
    rintro rfl
    cases absolute
  have relative : (Path.mk [name]).isAbsolute = false := by
    unfold Path.isAbsolute
    split
    next same => cases same
    next => rfl
  obtain ⟨more, more_ne, rfl⟩ := exists_of_isAbsolute absolute
  have last : ("" :: more).getLast? = more.getLast? := by
    obtain ⟨first, rest, rfl⟩ := List.exists_cons_of_ne_nil more_ne
    rw [List.getLast?_cons_cons]
  rw [join_of_relative some_ relative, last]
  split
  next slash =>
    have whole := List.dropLast_concat_getLast more_ne
    rw [List.getLast?_eq_some_getLast more_ne] at slash
    rw [Option.some.inj slash] at whole
    rw [List.dropLast_cons_of_ne_nil more_ne, List.cons_append]
    exact ⟨more.dropLast, [""], isAbsolute_cons (by simp), body_cons (by simp),
      (body_cons more_ne).trans whole.symm, .inr rfl⟩
  next =>
    rw [List.cons_append]
    exact ⟨more, [], isAbsolute_cons (by simp), body_cons (by simp),
      (body_cons more_ne).trans (List.append_nil more).symm, .inl rfl⟩

theorem fileName?_pathOf {above : Location} {name : String} (step : FileTree.IsStep name) :
    (FileTree.pathOf (above ++ [name])).fileName? = some name := by
  have dot : name ≠ "." := by
    rintro rfl
    cases step.counts
  have last : componentOf name = .name name := by
    rw [componentOf, if_neg step.notUp, if_neg dot]
  have body : (FileTree.pathOf (above ++ [name])).body = above ++ [name] := by
    rw [FileTree.body_pathOf, if_neg (by simp)]
  rw [fileName?, components, if_pos (FileTree.isAbsolute_pathOf _), body, innerComponents]
  simp [step.counts, last, List.getLast?_cons]

end Path

/-! ## The directory of a copy -/

namespace Copy

open FileTree (pathOf)
open LintBridge.Path (IsText)

/-- The directory of a copy, seen from the root of the tree. -/
def home (current : Location) (root file : Path) : Path :=
  if (directoryFor root file).isAbsolute then directoryFor root file
  else (pathOf current).join (directoryFor root file)

/-- The path may be that of a copy. -/
def Names (current : Location) (root file copy : Path) : Prop :=
  ∃ letters : String, letters ≠ "" ∧ '/' ∉ letters.toList ∧
    copy = (home current root file).join (.ofText (nameStart file ++ letters ++ nameEnd file))

variable {tree : FileTree} {current place : Location} {root file copy : Path}

theorem directoryFor_isText (rootText : root.IsText) (fileText : file.IsText) :
    (directoryFor root file).IsText := by
  unfold directoryFor
  split
  next parent above =>
    split
    · exact rootText
    · exact fileText.parent above
  next => exact rootText

theorem body_home (orderly : tree.Orderly) (here : tree.get? current = some .directory)
    (relative : (directoryFor root file).isAbsolute = false)
    (isText : (directoryFor root file).IsText) :
    (home current root file).isAbsolute = true ∧
      (home current root file).body = current ++ (directoryFor root file).pieces := by
  obtain ⟨some_, -⟩ := Path.isText_iff.1 isText
  have proper : pathOf current ≠ Path.empty := by
    intro same
    have absolute := FileTree.isAbsolute_pathOf current
    rw [same] at absolute
    cases absolute
  rw [home, if_neg (by simp [relative]), Path.join_of_relative proper relative,
    FileTree.pieces_pathOf]
  by_cases root_ : current = []
  · subst root_
    have slash : ["", ""].getLast? = some "" := rfl
    rw [if_pos rfl, if_pos slash]
    exact ⟨Path.isAbsolute_cons some_, Path.body_cons some_⟩
  · have open_ : ("" :: current).getLast? ≠ some "" := by
      intro blank
      obtain ⟨first, rest, rfl⟩ := List.exists_cons_of_ne_nil root_
      rw [List.getLast?_cons_cons] at blank
      have named := orderly.names (by rw [here]; rfl) "" (List.mem_of_getLast? blank)
      cases named.step.counts
    rw [if_neg root_, if_neg open_, List.cons_append]
    exact ⟨Path.isAbsolute_cons (by simp [some_]), Path.body_cons (by simp [some_])⟩

theorem Names.exists_behind (names : Names current root file copy)
    (absolute : (home current root file).isAbsolute = true) (fileText : file.IsText)
    (coffee : file.isCoffeeScript = true) :
    ∃ letters front tail, letters ≠ "" ∧ '/' ∉ letters.toList ∧
      Path.Behind (home current root file) copy
        (Text.Stray.keepText (nameStart file ++ letters ++ nameEnd file)) front tail := by
  obtain ⟨letters, some_, clean, same⟩ := names
  rw [Path.ofText_of_clean (slash_notMem_name fileText coffee clean)] at same
  obtain ⟨front, tail, behind⟩ := Path.exists_behind absolute
    (Text.Stray.keepText (nameStart file ++ letters ++ nameEnd file))
  rw [← same] at behind
  exact ⟨letters, front, tail, some_, clean, behind⟩

theorem counts_name (file : Path) {letters : String} (some_ : letters ≠ "") :
    Path.isIdle (Text.Stray.keepText (nameStart file ++ letters ++ nameEnd file)) = false ∧
      Text.Stray.keepText (nameStart file ++ letters ++ nameEnd file) ≠ ".." := by
  have long : 3 ≤ (nameStart file ++ letters ++ nameEnd file).toList.length := by
    have more : letters.toList.length ≠ 0 := by simpa using some_
    simp only [nameStart, String.toList_append, List.length_append]
    have dot : ".".toList.length = 1 := by decide
    omega
  have shown := Text.Stray.shown_keepText (nameStart file ++ letters ++ nameEnd file)
  generalize nameStart file ++ letters ++ nameEnd file = name at long shown ⊢
  have differs {text : String} (short : (Text.Stray.shown text).toList.length < 3) :
      Text.Stray.keepText name ≠ text := by
    rintro rfl
    rw [shown] at short
    omega
  have blank : Text.Stray.keepText name ≠ "" := differs (by decide +kernel)
  have dot : Text.Stray.keepText name ≠ "." := differs (by decide +kernel)
  exact ⟨by simp [Path.isIdle, blank, dot], differs (by decide +kernel)⟩

theorem extension_name {ending : String} (coffee : file.isCoffeeScript = true)
    (ends : file.extension? = some ending) (letters : String) :
    (Path.cutName (Text.Stray.keepText (nameStart file ++ letters ++ nameEnd file))).2
      = some ending := by
  have cut {stem : List Char} {whole rest : String} (some_ : stem ≠ [])
      (plain : whole.toList.flatMap Text.Stray.keep = '.' :: rest.toList)
      (noDot : '.' ∉ rest.toList) :
      (Path.cutName (String.ofList (stem ++ whole.toList.flatMap Text.Stray.keep))).2
        = some rest := by
    rw [plain, Path.cutName_append some_ noDot, String.ofList_toList]
  have some_ : (nameStart file ++ letters).toList.flatMap Text.Stray.keep ≠ [] := by
    have dot : ".".toList = ['.'] := by decide
    have kept : Text.Stray.keep '.' = ['.'] := by decide
    simp [nameStart, dot, kept]
  rw [Text.Stray.keepText, String.toList_append, List.flatMap_append]
  rcases nameEnd_cases coffee with ⟨none_, -⟩ | ⟨same, name⟩ | ⟨same, name⟩
  · rw [none_] at ends
    cases ends
  · rw [same] at ends
    cases ends
    rw [name]
    exact cut some_ (by decide) (by decide)
  · rw [same] at ends
    cases ends
    rw [name]
    exact cut some_ (by decide) (by decide)

theorem names_isText (orderly : tree.Orderly) (here : tree.get? current = some .directory)
    (rootText : root.IsText) (fileText : file.IsText) (names : Names current root file copy) :
    copy.IsText := by
  obtain ⟨letters, -, -, same⟩ := names
  have besideText := directoryFor_isText rootText fileText
  have homeText : (home current root file).IsText := by
    unfold home
    split
    · exact besideText
    · exact (FileTree.isText_pathOf orderly (by rw [here]; rfl)).join besideText
  rw [same]
  exact homeText.join ⟨_, rfl⟩

/-- What is known of the place of a copy. -/
structure Stands (tree : FileTree) (current : Location) (root file : Path) (above : Location)
    (name : String) : Prop where
  directory : tree.get? above = some .directory
  named : FileTree.IsFileName name
  extension : ∀ ending, file.extension? = some ending → (Path.cutName name).2 = some ending
  beside : directoryFor root file ≠ Path.empty →
    tree.node current (directoryFor root file) = .ok (above, .directory)

theorem isAbsolute_home (orderly : tree.Orderly) (here : tree.get? current = some .directory)
    (isText : (directoryFor root file).IsText) : (home current root file).isAbsolute = true := by
  by_cases absolute : (directoryFor root file).isAbsolute = true
  · rw [home, if_pos absolute]
    exact absolute
  · exact (body_home orderly here (by simpa using absolute) isText).1

/-- Where the home of a copy leads, the directory beside the document leads too. -/
theorem leads_beside (orderly : tree.Orderly) (here : tree.get? current = some .directory)
    (isText : (directoryFor root file).IsText) {k : Nat} {above : Location}
    (leads : tree.Leads true k [] (home current root file).body (.found above .directory)) :
    tree.Leads true k (FileTree.linkStart current (directoryFor root file))
      (directoryFor root file).body (.found above .directory) := by
  by_cases absolute : (directoryFor root file).isAbsolute = true
  · rw [home, if_pos absolute] at leads
    rw [FileTree.linkStart, if_pos absolute]
    exact leads
  · have relative : (directoryFor root file).isAbsolute = false := by simpa using absolute
    rw [(body_home orderly here relative isText).2] at leads
    have down : tree.Leads true 0 [] current (.found current .directory) :=
      orderly.leads rfl here FileTree.directory_ne_link
    obtain ⟨later, rfl, onward⟩ := (FileTree.leads_append_iff down (.inr rfl)).1 leads
    rw [FileTree.linkStart, if_neg absolute, Path.body, if_neg absolute, Nat.zero_add]
    exact onward

theorem sublist_home (orderly : tree.Orderly) (here : tree.get? current = some .directory)
    (isText : (directoryFor root file).IsText) :
    (directoryFor root file).pieces.Sublist (home current root file).pieces := by
  by_cases absolute : (directoryFor root file).isAbsolute = true
  · have same : home current root file = directoryFor root file := if_pos absolute
    exact same ▸ List.Sublist.refl _
  · obtain ⟨homeAbsolute, body⟩ := body_home orderly here (by simpa using absolute) isText
    obtain ⟨more, some_, same⟩ := Path.exists_of_isAbsolute homeAbsolute
    rw [same, Path.body_cons some_] at body
    rw [same, body]
    exact (List.sublist_append_right _ _).trans (List.sublist_cons_self _ _)

theorem isUsable_beside (orderly : tree.Orderly) (here : tree.get? current = some .directory)
    (isText : (directoryFor root file).IsText) (some_ : directoryFor root file ≠ Path.empty)
    {name : String} {front tail : List String}
    (behind : Path.Behind (home current root file) copy name front tail) (usable : copy.IsUsable) :
    (directoryFor root file).IsUsable := by
  have part := sublist_home orderly here isText
  obtain ⟨more, more_ne, same⟩ := Path.exists_of_isAbsolute (isAbsolute_home orderly here isText)
  obtain ⟨others, others_ne, rfl⟩ := Path.exists_of_isAbsolute behind.absolute
  have above := behind.above
  have body := behind.body
  rw [same, Path.body_cons more_ne] at above
  rw [Path.body_cons others_ne] at body
  subst above body
  have noNul := usable.noNul
  have short := usable.short
  dsimp only at noNul short
  rw [same] at part
  refine ⟨fun piece member => ?_, some_, ?_⟩
  · rcases List.mem_cons.1 (part.subset member) with rfl | inside
    · simp
    · rcases List.mem_append.1 inside with first | last
      · exact noNul piece (List.mem_cons_of_mem _ (List.mem_append_left _ first))
      · rcases behind.idle with rfl | rfl
        · cases last
        · rw [List.mem_singleton] at last
          rw [last]
          simp
  · have light := Path.weight_le_of_sublist part
    have blank : (Text.Stray.bytes "").length = 0 := by decide
    have tailLight : Path.weight tail ≤ 1 := by
      rcases behind.idle with rfl | rfl
      · exact Nat.zero_le _
      · rw [Path.weight_cons, blank]
        exact Nat.le_refl _
    simp only [Path.weight_cons, Path.weight_append] at light short
    omega

theorem Names.stands (names : Names current root file copy) (orderly : tree.Orderly)
    (here : tree.get? current = some .directory) (rootText : root.IsText)
    (fileText : file.IsText) (coffee : file.isCoffeeScript = true) {above : Location}
    {name : String} (vacant : tree.locate false current copy = .ok (.vacant above name)) :
    Stands tree current root file above name := by
  have isText := directoryFor_isText rootText fileText
  obtain ⟨letters, front, tail, some_, clean, behind⟩ :=
    names.exists_behind (isAbsolute_home orderly here isText) fileText coffee
  obtain ⟨counts, notUp⟩ := counts_name file some_
  obtain ⟨usable, k, few, leads⟩ := FileTree.locate_eq_ok_iff.1 vacant
  rw [FileTree.linkStart, if_pos behind.absolute, behind.body] at leads
  -- The last piece names the copy, so the pieces before it lead to its directory.
  obtain ⟨rfl, front_leads⟩ := leads.init_of_vacant counts notUp
  have home_leads : tree.Leads true k [] (home current root file).body
      (.found above .directory) := by
    refine front_leads.of_counting ?_
    rw [behind.above]
    rcases behind.idle with rfl | rfl
    · rw [List.append_nil]
    · rw [Path.counting_append]
      simp [Path.counting, Path.isIdle]
  have member : Text.Stray.keepText (nameStart file ++ letters ++ nameEnd file) ∈ copy.pieces := by
    refine Path.mem_body ?_
    rw [behind.body]
    simp
  refine ⟨(orderly.shows front_leads rfl), ⟨leads.isStep_of_vacant,
    ⟨_, slash_notMem_name fileText coffee clean, rfl⟩, usable.noNul _ member⟩,
    fun ending ends => extension_name coffee ends letters, fun proper => ?_⟩
  refine FileTree.node_eq_ok_iff.2 (FileTree.locate_eq_ok_iff.2
    ⟨isUsable_beside orderly here isText proper behind usable, k, few, ?_⟩)
  exact leads_beside orderly here isText home_leads

end Copy

end LintBridge
