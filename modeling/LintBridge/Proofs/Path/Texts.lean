import LintBridge.Path.Basic
import LintBridge.Proofs.Text.Encoding

/-!
# Paths of texts

A name that is a text comes back from the path that keeps it, private characters
included.  So a path is the same as its text, as long as all its names are texts.
-/

set_option autoImplicit false

namespace LintBridge

/-! ## Texts as they are kept -/

namespace Text.Stray

theorem toNat_keeper (byte : UInt8) : (keeper byte).toNat = 0x10FF00 + byte.toNat := by
  have small := byte.toNat_lt
  have valid : (0x10FF00 + byte.toNat).isValidChar := by
    right
    omega
  rw [keeper, Char.ofNat, dif_pos valid]
  rfl

theorem high_of_isKeeper {c : Char} (kept : isKeeper c = true) {byte : UInt8}
    (member : byte ∈ String.utf8EncodeChar c) : 0x80 ≤ byte.toNat := by
  have large : 0x10FF80 ≤ c.val.toNat := by simpa [isKeeper] using kept
  rw [String.utf8EncodeChar, if_neg (by omega), if_neg (by omega), if_neg (by omega)] at member
  simp only [List.mem_cons, List.not_mem_nil, or_false] at member
  rcases member with rfl | rfl | rfl | rfl <;> rw [Utf8.toNat_byte (by omega)] <;> omega

theorem slash_notMem_keep {c : Char} (differs : c ≠ '/') : '/' ∉ keep c := by
  unfold keep
  split
  next kept =>
    intro member
    obtain ⟨byte, -, same⟩ := List.mem_map.1 member
    have large := toNat_keeper byte
    rw [same] at large
    have small : '/'.toNat = 47 := rfl
    omega
  next => simpa using Ne.symm differs

theorem isKeeper_keeper {byte : UInt8} (high : 0x80 ≤ byte.toNat) :
    isKeeper (keeper byte) = true := by
  rw [isKeeper, toNat_keeper, decide_eq_true_eq]
  omega

theorem bytes_append (first second : List Char) :
    bytes (String.ofList (first ++ second))
      = bytes (String.ofList first) ++ bytes (String.ofList second) := by
  simp [bytes]

theorem bytes_keepers {high : Bytes} (all : ∀ byte ∈ high, 0x80 ≤ byte.toNat) :
    bytes (String.ofList (high.map keeper)) = high := by
  induction high with
  | nil => rfl
  | cons byte rest ih =>
      have one : bytes (String.ofList [keeper byte]) = [byte] := by
        simp [bytes, isKeeper_keeper (all byte List.mem_cons_self), toNat_keeper]
      rw [List.map_cons, ← List.singleton_append, bytes_append, one,
        ih fun byte member => all byte (List.mem_cons_of_mem _ member)]
      rfl

theorem bytes_keep (c : Char) : bytes (String.ofList (keep c)) = encode (String.singleton c) := by
  unfold keep
  split
  next kept =>
    rw [encode_singleton]
    exact bytes_keepers fun byte member => high_of_isKeeper kept member
  next plain => simp [bytes, plain]

@[simp] theorem bytes_keepText (text : String) : bytes (keepText text) = encode text := by
  have chars : ∀ chars : List Char, bytes (String.ofList (chars.flatMap keep))
      = chars.flatMap String.utf8EncodeChar := by
    intro chars
    induction chars with
    | nil => rfl
    | cons c rest ih =>
        rw [List.flatMap_cons, bytes_append, bytes_keep, ih, encode_singleton, List.flatMap_cons]
  rw [keepText, chars, encode_eq]

theorem keepText_of_plain {text : String} (plain : (keepText text).toList.any isKeeper = false) :
    keepText text = text := by
  have chars : ∀ chars : List Char, (chars.flatMap keep).any isKeeper = false →
      chars.flatMap keep = chars := by
    intro chars
    induction chars with
    | nil => exact fun _ => rfl
    | cons c rest ih =>
        intro plain
        rw [List.flatMap_cons, List.any_append, Bool.or_eq_false_iff] at plain
        have same : keep c = [c] := by
          unfold keep at plain ⊢
          split at plain
          next kept =>
            obtain ⟨byte, member⟩ :=
              List.exists_mem_of_ne_nil _ (String.utf8EncodeChar_ne_nil (c := c))
            have high := isKeeper_keeper (high_of_isKeeper kept member)
            have there : keeper byte ∈ (encode (String.singleton c)).map keeper := by
              rw [encode_singleton]
              exact List.mem_map_of_mem member
            have absent := List.any_eq_false.1 plain.1 _ there
            exact absurd high absent
          next other => rw [if_neg other]
        rw [List.flatMap_cons, same, ih plain.2]
        rfl
  have same := chars text.toList (by simpa [keepText] using plain)
  rw [keepText, same, String.ofList_toList]

@[simp] theorem shown_keepText (text : String) : shown (keepText text) = text := by
  unfold shown
  split
  · rw [bytes_keepText, decodeLossy_encode]
  next plain => exact keepText_of_plain (by simpa using plain)

end Text.Stray

/-! ## Pieces between slashes -/

namespace Path

theorem split_ne_nil (reversed chars : List Char) : split reversed chars ≠ [] := by
  cases chars with
  | nil => simp [split]
  | cons c rest =>
      rw [split]
      split
      · simp
      · exact split_ne_nil _ rest

theorem slash_notMem_split {reversed chars : List Char} (clean : '/' ∉ reversed) {piece : String}
    (member : piece ∈ split reversed chars) : '/' ∉ piece.toList := by
  induction chars generalizing reversed with
  | nil =>
      simp only [split, List.mem_singleton] at member
      subst member
      simpa using clean
  | cons c rest ih =>
      rw [split] at member
      split at member
      · rcases List.mem_cons.1 member with rfl | member
        · simpa using clean
        · exact ih List.not_mem_nil member
      next differs =>
        refine ih ?_ member
        rw [List.mem_cons, not_or]
        exact ⟨Ne.symm differs, clean⟩

theorem split_append {piece : List Char} (clean : '/' ∉ piece) (reversed rest : List Char) :
    split reversed (piece ++ rest) = split (piece.reverse ++ reversed) rest := by
  induction piece generalizing reversed with
  | nil => rfl
  | cons c others ih =>
      rw [List.mem_cons, not_or] at clean
      rw [List.cons_append, split, if_neg (Ne.symm clean.1), ih clean.2]
      simp

theorem split_intercalate {pieces : List String} (some_ : pieces ≠ [])
    (clean : ∀ piece ∈ pieces, '/' ∉ piece.toList) :
    split [] (String.intercalate "/" pieces).toList = pieces := by
  induction pieces with
  | nil => exact absurd rfl some_
  | cons piece rest ih =>
      have first := clean piece List.mem_cons_self
      cases rest with
      | nil =>
          have alone := split_append first [] []
          simpa [split] using alone
      | cons next others =>
          have again := ih (by simp) fun piece member => clean piece (List.mem_cons_of_mem _ member)
          rw [String.toList_intercalate] at again ⊢
          rw [List.map_cons, List.map_cons, List.intercalate_cons_cons, ← List.map_cons,
            List.append_assoc, split_append first]
          simpa [split] using again

theorem intercalate_split (reversed chars : List Char) :
    (String.intercalate "/" (split reversed chars)).toList = reversed.reverse ++ chars := by
  induction chars generalizing reversed with
  | nil => simp [split]
  | cons c rest ih =>
      rw [split]
      split
      next slash =>
        subst slash
        have again := ih []
        obtain ⟨next, others, same⟩ := List.exists_cons_of_ne_nil (split_ne_nil [] rest)
        rw [same, String.toList_intercalate] at again ⊢
        rw [List.map_cons, List.map_cons, List.intercalate_cons_cons, ← List.map_cons, again]
        simp
      next => rw [ih, List.reverse_cons, List.append_assoc, List.singleton_append]

/-! ## Paths that are texts -/

/-- Every byte of the path belongs to a character. -/
def IsText (path : Path) : Prop :=
  ∃ text, path = ofText text

/-- The same of a name. -/
def IsName (piece : String) : Prop :=
  ∃ text : String, '/' ∉ text.toList ∧ piece = Text.Stray.keepText text

theorem split_keep (reversed chars : List Char) :
    split (reversed.reverse.flatMap Text.Stray.keep).reverse (chars.flatMap Text.Stray.keep)
      = (split reversed chars).map Text.Stray.keepText := by
  induction chars generalizing reversed with
  | nil => simp [split, Text.Stray.keepText]
  | cons c rest ih =>
      rw [List.flatMap_cons]
      by_cases slash : c = '/'
      · subst slash
        have plain : Text.Stray.keep '/' = ['/'] := by decide
        rw [plain, List.singleton_append, split, if_pos rfl, split, if_pos rfl, List.map_cons]
        have again := ih []
        rw [List.reverse_nil, List.flatMap_nil, List.reverse_nil] at again
        rw [again, List.reverse_reverse, Text.Stray.keepText, String.toList_ofList]
      · rw [split_append (Text.Stray.slash_notMem_keep slash), split, if_neg slash, ← ih]
        simp

theorem ofText_eq (text : String) :
    ofText text = ⟨(split [] text.toList).map Text.Stray.keepText⟩ := by
  have same := split_keep [] text.toList
  rw [List.reverse_nil, List.flatMap_nil, List.reverse_nil] at same
  rw [ofText, Text.Stray.keepText, String.toList_ofList, same]

theorem pieces_ofText (text : String) :
    (ofText text).pieces = (split [] text.toList).map Text.Stray.keepText := by
  rw [ofText_eq]

theorem exists_texts {pieces : List String} (names : ∀ piece ∈ pieces, IsName piece) :
    ∃ texts : List String, (∀ text ∈ texts, '/' ∉ text.toList) ∧
      pieces = texts.map Text.Stray.keepText := by
  induction pieces with
  | nil => exact ⟨[], by simp, rfl⟩
  | cons piece rest ih =>
      obtain ⟨text, clean, same⟩ := names piece List.mem_cons_self
      obtain ⟨texts, cleans, sames⟩ :=
        ih fun piece member => names piece (List.mem_cons_of_mem _ member)
      refine ⟨text :: texts, List.forall_mem_cons.2 ⟨clean, cleans⟩, ?_⟩
      rw [same, sames, List.map_cons]

theorem isText_iff {path : Path} :
    path.IsText ↔ path.pieces ≠ [] ∧ ∀ piece ∈ path.pieces, IsName piece := by
  constructor
  · rintro ⟨text, rfl⟩
    rw [pieces_ofText]
    refine ⟨by simpa using split_ne_nil [] text.toList, fun piece member => ?_⟩
    obtain ⟨part, inside, rfl⟩ := List.mem_map.1 member
    exact ⟨part, slash_notMem_split List.not_mem_nil inside, rfl⟩
  · rintro ⟨some_, names⟩
    obtain ⟨texts, clean, same⟩ := exists_texts names
    refine ⟨String.intercalate "/" texts, ?_⟩
    have some_texts : texts ≠ [] := by
      rintro rfl
      exact some_ same
    rw [ofText_eq, split_intercalate some_texts clean, ← same]

theorem text_ofText (text : String) : (ofText text).text = text := by
  have kept : (ofText text).kept = Text.Stray.keepText text := by
    apply String.toList_inj.1
    rw [Path.kept, ofText, intercalate_split, List.reverse_nil, List.nil_append]
  rw [Path.text, kept, Text.Stray.shown_keepText]

theorem IsText.ofText_text {path : Path} (isText : path.IsText) : ofText path.text = path := by
  obtain ⟨text, rfl⟩ := isText
  rw [text_ofText]

instance (path : Path) : Decidable path.IsText :=
  decidable_of_iff (ofText path.text = path)
    ⟨fun same => ⟨path.text, same.symm⟩, IsText.ofText_text⟩

instance (piece : String) : Decidable (IsName piece) :=
  decidable_of_iff ('/' ∉ (Text.Stray.shown piece).toList ∧
      piece = Text.Stray.keepText (Text.Stray.shown piece)) <| by
    constructor
    · rintro ⟨clean, same⟩
      exact ⟨_, clean, same⟩
    · rintro ⟨text, clean, rfl⟩
      rw [Text.Stray.shown_keepText]
      exact ⟨clean, rfl⟩

end Path

end LintBridge
