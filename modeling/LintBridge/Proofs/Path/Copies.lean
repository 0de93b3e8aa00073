import LintBridge.Lint.Copy
import LintBridge.Proofs.Path.Parts
import LintBridge.Proofs.Path.Texts
import LintBridge.Settings.FileKind

/-!
# Paths of copies

The path of a copy ends with a piece that is a name, whatever stands before it.
-/

set_option autoImplicit false

namespace LintBridge

namespace Path

theorem getLast?_body (path : Path) :
    path.body.getLast? = path.pieces.getLast? := by
  unfold body isAbsolute
  split
  next absolute => simp [absolute]
  next => simp

theorem getLast?_split {reversed chars : List Char} (some_ : reversed.reverse ++ chars ≠ [])
    (ending : (reversed.reverse ++ chars).getLast? ≠ some '/') :
    (split reversed chars).getLast? ≠ some "" := by
  induction chars generalizing reversed with
  | nil =>
      rw [List.append_nil] at some_
      simpa [split] using some_
  | cons c rest ih =>
      rw [split]
      split
      next slash =>
        subst slash
        have more : rest ≠ [] := by
          rintro rfl
          simp at ending
        obtain ⟨second, others, rfl⟩ := List.exists_cons_of_ne_nil more
        obtain ⟨piece, pieces, same⟩ :=
          List.exists_cons_of_ne_nil (split_ne_nil [] (second :: others))
        have later := @ih [] (by simp) (by simpa [List.getLast?_append] using ending)
        rw [same] at later ⊢
        simpa using later
      next => exact ih (by simp) (by simpa using ending)

theorem keepText_eq_empty_iff (text : String) : Text.Stray.keepText text = "" ↔ text = "" := by
  constructor
  · intro blank
    have shown := Text.Stray.shown_keepText text
    rw [blank] at shown
    rw [← shown]
    rfl
  · rintro rfl
    rfl

theorem getLast?_ofText {text : String} (some_ : text.toList ≠ [])
    (ending : text.toList.getLast? ≠ some '/') : (ofText text).pieces.getLast? ≠ some "" := by
  have last := @getLast?_split [] text.toList some_ ending
  rw [pieces_ofText, List.getLast?_map]
  intro blank
  obtain ⟨piece, there, kept⟩ := Option.map_eq_some_iff.1 blank
  rw [keepText_eq_empty_iff] at kept
  exact last (kept ▸ there)

/-! ## Names and their endings -/

theorem cutName_append {stem ending : List Char} (some_ : stem ≠ []) (noDot : '.' ∉ ending) :
    cutName (String.ofList (stem ++ '.' :: ending))
      = (String.ofList stem, some (String.ofList ending)) := by
  obtain ⟨last, others, same⟩ := List.exists_cons_of_ne_nil (List.reverse_ne_nil_iff.2 some_)
  obtain rfl : stem = (last :: others).reverse := by rw [← same, List.reverse_reverse]
  have reversed : (String.ofList ((last :: others).reverse ++ '.' :: ending)).toList.reverse
      = ending.reverse ++ '.' :: last :: others := by
    rw [String.toList_ofList, List.reverse_append, List.reverse_cons, List.reverse_reverse]
    simp
  have taken : (ending.reverse ++ '.' :: last :: others).takeWhile (· ≠ '.') = ending.reverse := by
    rw [List.takeWhile_append_of_pos]
    · simp
    · intro c member
      have differs : c ≠ '.' := by
        rintro rfl
        exact noDot (List.mem_reverse.1 member)
      simpa using differs
  have dropped : (ending.reverse ++ '.' :: last :: others).drop ending.reverse.length
      = '.' :: last :: others := List.drop_left
  simp only [cutName, reversed, taken, dropped, List.reverse_reverse]

theorem drop_length_takeWhile (p : Char → Bool) (chars : List Char) :
    chars.drop (chars.takeWhile p).length = chars.dropWhile p := by
  induction chars with
  | nil => rfl
  | cons c rest ih => by_cases holds : p c = true <;> simp [holds, ih]

/-- A name is whole, or its stem and its ending with a dot between them. -/
theorem cutName_cases (name : String) :
    cutName name = (name, none) ∨ ∃ ending : String,
      name.toList = (cutName name).1.toList ++ '.' :: ending.toList := by
  simp only [cutName]
  split
  · exact .inl rfl
  · exact .inl rfl
  next c stem some_ dropped =>
    right
    rw [drop_length_takeWhile] at dropped
    have dot : c = '.' := by
      have fails := List.head?_dropWhile_not (· ≠ '.') name.toList.reverse
      rw [dropped] at fails
      simpa using fails
    have cut : (name.toList.reverse.takeWhile (· ≠ '.')) ++ name.toList.reverse.dropWhile (· ≠ '.')
        = name.toList.reverse := List.takeWhile_append_dropWhile
    rw [dropped, dot] at cut
    have back := congrArg List.reverse cut
    rw [List.reverse_reverse, List.reverse_append, List.reverse_cons] at back
    refine ⟨String.ofList (name.toList.reverse.takeWhile (· ≠ '.')).reverse, ?_⟩
    rw [String.toList_ofList, String.toList_ofList]
    refine back.symm.trans ?_
    rw [List.append_assoc, List.singleton_append]

theorem dot_notMem_keep {c : Char} (differs : c ≠ '.') : '.' ∉ Text.Stray.keep c := by
  unfold Text.Stray.keep
  split
  next kept =>
    intro member
    obtain ⟨byte, -, same⟩ := List.mem_map.1 member
    have large := Text.Stray.toNat_keeper byte
    rw [same] at large
    have small : '.'.toNat = 46 := rfl
    omega
  next => simpa using Ne.symm differs

theorem exists_of_flatMap_keep {chars before after : List Char}
    (same : chars.flatMap Text.Stray.keep = before ++ '.' :: after) :
    ∃ first second, chars = first ++ '.' :: second ∧
      before = first.flatMap Text.Stray.keep := by
  induction chars generalizing before with
  | nil => simp at same
  | cons c rest ih =>
      rw [List.flatMap_cons] at same
      by_cases dot : c = '.'
      · subst dot
        have plain : Text.Stray.keep '.' = ['.'] := by decide
        rw [plain, List.singleton_append] at same
        cases before with
        | nil => exact ⟨[], rest, rfl, rfl⟩
        | cons first before =>
            obtain ⟨rfl, later⟩ := List.cons_eq_cons.1 same
            obtain ⟨first, second, rfl, rfl⟩ := ih later
            exact ⟨'.' :: first, second, rfl, by rw [List.flatMap_cons, plain]; rfl⟩
      · rcases List.append_eq_append_iff.1 same with ⟨more, rfl, later⟩ | ⟨more, kept, later⟩
        · obtain ⟨first, second, rfl, rfl⟩ := ih later
          exact ⟨c :: first, second, rfl, by rw [List.flatMap_cons]⟩
        · cases more with
          | nil =>
              rw [List.nil_append] at later
              obtain ⟨first, second, rfl, same'⟩ := @ih [] later.symm
              refine ⟨c :: first, second, rfl, ?_⟩
              rw [List.flatMap_cons, ← same', kept]
              simp
          | cons d others =>
              obtain ⟨rfl, -⟩ := List.cons_eq_cons.1 later
              exact absurd (kept ▸ List.mem_append_right before List.mem_cons_self)
                (dot_notMem_keep dot)

theorem IsName.stem {name : String} (isName : IsName name) : IsName (cutName name).1 := by
  rcases cutName_cases name with whole | ⟨ending, cut⟩
  · rw [whole]
    exact isName
  · obtain ⟨text, clean, rfl⟩ := isName
    rw [Text.Stray.keepText, String.toList_ofList] at cut
    obtain ⟨first, second, same, kept⟩ := exists_of_flatMap_keep cut
    refine ⟨String.ofList first, ?_, ?_⟩
    · rw [String.toList_ofList]
      intro member
      exact clean (by rw [same]; exact List.mem_append_left _ member)
    · apply String.toList_inj.1
      rw [Text.Stray.keepText, kept]
      simp [Text.Stray.keepText]

theorem mem_pieces_of_fileName? {path : Path} {name : String} (named : path.fileName? = some name) :
    name ∈ path.pieces ∧ isIdle name = false ∧ name ≠ ".." := by
  unfold fileName? at named
  split at named
  next text last =>
    cases named
    rw [components_eq] at last
    have member := List.mem_of_getLast? last
    rcases List.mem_append.1 member with opens | inside
    · rcases path.opening_cases with ⟨same, -⟩ | ⟨same, -⟩ | ⟨same, -⟩ <;> simp [same] at opens
    · obtain ⟨piece, counted, same⟩ := List.mem_map.1 inside
      have counts := isIdle_of_mem_counting counted
      have there : piece ∈ path.body := (List.mem_filter.1 counted).1
      have inPieces : piece ∈ path.pieces := by
        unfold body at there
        split at there
        · exact List.mem_of_mem_tail there
        · exact there
      unfold componentOf at same
      split at same
      · cases same
      next notUp =>
        split at same
        · cases same
        · cases same
          exact ⟨inPieces, counts, notUp⟩
  next => cases named

end Path

/-! ## The name of a copy -/

namespace Copy

open LintBridge.Path (IsText IsName)

theorem nameEnd_cases {file : Path} (coffee : file.isCoffeeScript = true) :
    file.extension? = none ∧ nameEnd file = "" ∨
      file.extension? = some "coffee" ∧ nameEnd file = ".coffee" ∨
        file.extension? = some "litcoffee" ∧ nameEnd file = ".litcoffee" := by
  simp only [Path.isCoffeeScript, Bool.or_eq_true, decide_eq_true_eq] at coffee
  rcases coffee with (cake | ending) | ending
  · left
    have none_ : file.extension? = none := by
      rw [Path.extension?, cake]
      decide +kernel
    exact ⟨none_, by rw [nameEnd, none_]⟩
  · right
    left
    refine ⟨ending, ?_⟩
    rw [nameEnd, ending]
    decide +kernel
  · right
    right
    refine ⟨ending, ?_⟩
    rw [nameEnd, ending]
    decide +kernel

theorem getLast?_join {directory name : Path} (some_ : name.pieces ≠ []) :
    (directory.join name).body.getLast? = name.pieces.getLast? := by
  rw [Path.getLast?_body]
  have ends := List.getLast?_eq_some_getLast some_
  unfold Path.join
  split
  · rfl
  · split <;> simp [List.getLast?_append, ends]

theorem getLast?_copy {file directory : Path} (coffee : file.isCoffeeScript = true)
    {letters : String} (some_ : letters ≠ "") (clean : '/' ∉ letters.toList) :
    (directory.join (.ofText (nameStart file ++ letters ++ nameEnd file))).body.getLast?
      ≠ some "" := by
  have pieces : (Path.ofText (nameStart file ++ letters ++ nameEnd file)).pieces ≠ [] := by
    rw [Path.pieces_ofText]
    simpa using Path.split_ne_nil [] _
  have chars : letters.toList ≠ [] := by simpa using some_
  rw [getLast?_join pieces]
  apply Path.getLast?_ofText
  · simp [chars]
  · rcases nameEnd_cases coffee with ⟨-, ends⟩ | ⟨-, ends⟩ | ⟨-, ends⟩
    · rw [ends, String.append_empty, String.toList_append, List.getLast?_append,
        List.getLast?_eq_some_getLast chars, Option.some_or]
      intro slash
      exact clean (Option.some.inj slash ▸ List.getLast_mem chars)
    · have last : ".coffee".toList.getLast? = some 'e' := by decide
      rw [ends, String.toList_append, List.getLast?_append, last, Option.some_or]
      decide
    · have last : ".litcoffee".toList.getLast? = some 'e' := by decide
      rw [ends, String.toList_append, List.getLast?_append, last, Option.some_or]
      decide

theorem exists_stem {file : Path} (isText : file.IsText) (coffee : file.isCoffeeScript = true) :
    ∃ stem : String, '/' ∉ stem.toList ∧ nameStart file = "." ++ stem ++ "." := by
  have named : ∃ name, file.fileName? = some name := by
    cases named : file.fileName? with
    | some name => exact ⟨name, rfl⟩
    | none => simp [Path.isCoffeeScript, Path.extension?, named] at coffee
  obtain ⟨name, named⟩ := named
  obtain ⟨-, names⟩ := Path.isText_iff.1 isText
  obtain ⟨stem, clean, same⟩ := (names name (Path.mem_pieces_of_fileName? named).1).stem
  refine ⟨stem, clean, ?_⟩
  rw [nameStart, Path.stem?, named, Option.map_some, Option.getD_some, same,
    Text.Stray.shown_keepText]

theorem slash_notMem_name {file : Path} (isText : file.IsText) (coffee : file.isCoffeeScript = true)
    {letters : String} (clean : '/' ∉ letters.toList) :
    '/' ∉ (nameStart file ++ letters ++ nameEnd file).toList := by
  obtain ⟨stem, cleanStem, starts⟩ := exists_stem isText coffee
  have ends : '/' ∉ (nameEnd file).toList := by
    rcases nameEnd_cases coffee with ⟨-, ends⟩ | ⟨-, ends⟩ | ⟨-, ends⟩ <;> rw [ends] <;> decide
  rw [starts]
  simp only [String.toList_append, List.mem_append, not_or]
  exact ⟨⟨⟨⟨by decide, cleanStem⟩, by decide⟩, clean⟩, ends⟩

end Copy

end LintBridge
