import LintBridge.Proofs.Markup.Spelling

/-!
# Reading spelled attributes

The attributes of a spelled tag whose keys differ are read in full and without a fault,
so looking one of them up finds its value.
-/

set_option autoImplicit false

namespace LintBridge.Markup.Attribute

section

variable (seen : Seen) (byte : Nat) (rest : List Char)

theorem run_of_step {place next : Place} {after : Seen} {c : Char}
    (stepped : step place seen byte c = .ok (none, next, after)) :
    run place seen byte (c :: rest) = run next after (byte + c.utf8Size) rest := by
  rw [run, stepped]
  rfl

theorem run_stay {place : Place} {text : List Char}
    (stays : ∀ c ∈ text, ∀ byte, step place seen byte c = .ok (none, place, seen)) :
    ∃ next, run place seen byte (text ++ rest) = run place seen next rest := by
  induction text generalizing byte with
  | nil => exact ⟨byte, rfl⟩
  | cons c text ih =>
      obtain ⟨here, later⟩ := List.forall_mem_cons.mp stays
      obtain ⟨next, same⟩ := ih (byte + c.utf8Size) later
      exact ⟨next, by rw [List.cons_append, run_of_step _ _ _ (here byte), same]⟩

/-! ## The parts of an attribute -/

theorem run_gap {gap : List Char} (isGap : IsGap gap) :
    ∃ next, run .gap seen byte (gap ++ rest) = run .gap seen next rest := by
  refine run_stay seen byte rest fun c member byte => ?_
  simp only [step, isGap c member, if_true]

theorem run_key {key : List Char} (named : ∀ c ∈ key, IsNameChar c) (start : Nat)
    (reversed : List Char) :
    ∃ next, run (.key start reversed) seen byte (key ++ rest)
      = run (.key start (key.reverse ++ reversed)) seen next rest := by
  induction key generalizing byte reversed with
  | nil => exact ⟨byte, rfl⟩
  | cons c key ih =>
      obtain ⟨here, later⟩ := List.forall_mem_cons.mp named
      have notSign : c ≠ '=' := by
        rintro rfl
        exact absurd here (by decide)
      have stepped : step (.key start reversed) seen byte c
          = .ok (none, .key start (c :: reversed), seen) := by
        simp only [step, if_neg notSign, here.1, Bool.false_eq_true, if_false]
      obtain ⟨next, same⟩ := ih (byte + c.utf8Size) later (c :: reversed)
      refine ⟨next, ?_⟩
      rw [List.cons_append, run_of_step _ _ _ stepped, same, List.reverse_cons,
        List.append_assoc]
      rfl

theorem enter_new {seen : Seen} {start : Nat} {key : String}
    (new : ∀ entry ∈ seen, entry.1 ≠ key) :
    enter seen start key = .ok (.equals key, (key, start) :: seen) := by
  have unseen : seen.find? (·.1 = key) = none := by
    simpa [List.find?_eq_none] using new
  rw [enter, unseen]

theorem run_sign {before : List Char} (isGap : IsGap before) (start : Nat)
    (reversed : List Char)
    (new : ∀ entry ∈ seen, entry.1 ≠ String.ofList reversed.reverse) :
    ∃ next, run (.key start reversed) seen byte (before ++ '=' :: rest)
      = run (.equals (String.ofList reversed.reverse))
          ((String.ofList reversed.reverse, start) :: seen) next rest := by
  cases before with
  | nil =>
      refine ⟨byte + '='.utf8Size, run_of_step _ _ _ ?_⟩
      simp only [step, if_true, enter_new new]
      rfl
  | cons c before =>
      obtain ⟨space, spaces⟩ := List.forall_mem_cons.mp isGap
      have notSign : c ≠ '=' := by
        rintro rfl
        exact absurd space (by decide)
      have first : step (.key start reversed) seen byte c
          = .ok (none, .keyEnd start (String.ofList reversed.reverse), seen) := by
        simp only [step, if_neg notSign, space, if_true]
      have stays : ∀ d ∈ before, ∀ byte,
          step (.keyEnd start (String.ofList reversed.reverse)) seen byte d
            = .ok (none, .keyEnd start (String.ofList reversed.reverse), seen) := by
        intro d member byte
        simp only [step, spaces d member, if_true]
      obtain ⟨next, same⟩ := run_stay seen (byte + c.utf8Size) ('=' :: rest) stays
      refine ⟨next + '='.utf8Size, ?_⟩
      rw [List.cons_append, run_of_step _ _ _ first, same]
      refine run_of_step _ _ _ ?_
      have sign : isSpace '=' = false := by decide
      simp only [step, sign, Bool.false_eq_true, if_false, if_true, enter_new new]
      rfl

theorem run_quote {after : List Char} {quote : Char} (isGap : IsGap after)
    (isQuote : IsQuote quote) (key : String) :
    ∃ next, run (.equals key) seen byte (after ++ quote :: rest)
      = run (.value key quote []) seen next rest := by
  have stays : ∀ c ∈ after, ∀ byte,
      step (.equals key) seen byte c = .ok (none, .equals key, seen) := by
    intro c member byte
    simp only [step, isGap c member, if_true]
  obtain ⟨next, same⟩ := run_stay seen byte (quote :: rest) stays
  refine ⟨next + quote.utf8Size, ?_⟩
  rw [same]
  refine run_of_step _ _ _ ?_
  rcases isQuote with rfl | rfl <;> rfl

theorem run_value {quote : Char} {value : List Char} (enclosed : quote ∉ value) (key : String)
    (reversed : List Char) :
    ∃ next, run (.value key quote reversed) seen byte (value ++ quote :: rest)
      = (⟨key, reversed.reverse ++ value⟩ :: (run .gap seen next rest).1,
          (run .gap seen next rest).2) := by
  induction value generalizing byte reversed with
  | nil =>
      refine ⟨byte + quote.utf8Size, ?_⟩
      rw [List.nil_append, run, step, if_pos rfl, List.append_nil]
      rfl
  | cons c value ih =>
      rw [List.mem_cons, not_or] at enclosed
      have stepped : step (.value key quote reversed) seen byte c
          = .ok (none, .value key quote (c :: reversed), seen) := by
        simp only [step, if_neg (Ne.symm enclosed.1)]
      obtain ⟨next, same⟩ := ih (byte + c.utf8Size) enclosed.2 (c :: reversed)
      refine ⟨next, ?_⟩
      rw [List.cons_append, run_of_step _ _ _ stepped, same, List.reverse_cons,
        List.append_assoc]
      rfl

/-! ## All attributes -/

theorem run_spellsAttribute {one : Attribute} {text : List Char}
    (spells : SpellsAttribute one text) (new : ∀ entry ∈ seen, entry.1 ≠ one.key) :
    ∃ start next, run .gap seen byte (text ++ rest)
      = (one :: (run .gap ((one.key, start) :: seen) next rest).1,
          (run .gap ((one.key, start) :: seen) next rest).2) := by
  cases spells with
  | @mk gap key before after value quote _ inFront named beforeSign behindSign isQuote enclosed =>
      obtain ⟨nonempty, plain⟩ := named
      cases key with
      | nil => exact absurd rfl nonempty
      | cons c key =>
          obtain ⟨here, later⟩ := List.forall_mem_cons.mp plain
          have begun : ∀ byte, step .gap seen byte c = .ok (none, .key byte [c], seen) := by
            intro byte
            simp only [step, here.1, Bool.false_eq_true, if_false]
          have whole : String.ofList (key.reverse ++ [c]).reverse = String.ofList (c :: key) := by
            simp
          simp only [List.append_assoc, List.cons_append, List.nil_append]
          -- Gap, key, sign, quote and value, each from where the one before it ended.
          obtain ⟨start, skipped⟩ := run_gap seen byte _ inFront
          obtain ⟨keyEnd, keyRead⟩ := run_key seen (start + c.utf8Size) _ later start [c]
          obtain ⟨sign, signRead⟩ := run_sign seen keyEnd _ beforeSign start
            (key.reverse ++ [c]) (whole ▸ new)
          rw [whole] at signRead
          obtain ⟨opening, quoteRead⟩ := run_quote ((String.ofList (c :: key), start) :: seen)
            sign _ behindSign isQuote (String.ofList (c :: key))
          obtain ⟨next, valueRead⟩ := run_value ((String.ofList (c :: key), start) :: seen)
            opening rest enclosed (String.ofList (c :: key)) []
          refine ⟨start, next, ?_⟩
          rw [skipped, run_of_step _ _ _ (begun start), keyRead, signRead, quoteRead, valueRead]
          rfl

theorem run_spellsAttributes {attributes : List Attribute} {text : List Char}
    (spells : SpellsAttributes attributes text)
    (distinct : (attributes.map Attribute.key).Nodup)
    (new : ∀ entry ∈ seen, ∀ one ∈ attributes, entry.1 ≠ one.key) :
    run .gap seen byte text = (attributes, none) := by
  induction spells generalizing seen byte with
  | nil behind =>
      obtain ⟨next, same⟩ := run_gap seen byte [] behind
      rw [List.append_nil] at same
      rw [same]
      rfl
  | @cons one attributes text rest first _ ih =>
      obtain ⟨fresh, distinct⟩ := List.nodup_cons.mp distinct
      obtain ⟨start, next, same⟩ := run_spellsAttribute seen byte rest first
        fun entry member => new entry member one (List.mem_cons_self ..)
      have later : run .gap ((one.key, start) :: seen) next rest = (attributes, none) := by
        refine ih _ next distinct fun entry member other inside => ?_
        rcases List.mem_cons.mp member with rfl | member
        · rintro (twice : one.key = other.key)
          exact fresh (List.mem_map.mpr ⟨other, inside, twice.symm⟩)
        · exact new entry member other (List.mem_cons_of_mem _ inside)
      rw [same, later]

end

end LintBridge.Markup.Attribute

namespace LintBridge.Markup

theorem SpellsTag.attributes {name : List Char} {attributes : List Attribute} {tag : Tag}
    (spells : SpellsTag name attributes tag) (distinct : (attributes.map Attribute.key).Nodup) :
    tag.attributes = (attributes, none) := by
  cases spells with
  | mk named spells =>
      simp only [Tag.attributes, takeWhile_name named spells, List.drop_left]
      exact Attribute.run_spellsAttributes [] _ spells distinct fun _ member => by cases member

namespace Attribute

theorem find_of_mem {attributes : List Attribute} {one : Attribute}
    (distinct : (attributes.map Attribute.key).Nodup) (member : one ∈ attributes) :
    find one.key (attributes, none) = .ok (some one.value) := by
  have found : attributes.find? (·.key = one.key) = some one := by
    induction attributes with
    | nil => cases member
    | cons other attributes ih =>
        obtain ⟨fresh, distinct⟩ := List.nodup_cons.mp distinct
        rcases List.mem_cons.mp member with rfl | later
        · exact List.find?_cons_of_pos (by simp)
        · have differs : other.key ≠ one.key :=
            fun same => fresh (List.mem_map.mpr ⟨one, later, same.symm⟩)
          rw [List.find?_cons_of_neg (by simpa using differs), ih distinct later]
  rw [find, found]

theorem find_of_lacks {attributes : List Attribute} {key : String}
    (lacks : ∀ one ∈ attributes, one.key ≠ key) : find key (attributes, none) = .ok none := by
  have absent : attributes.find? (·.key = key) = none := by
    simpa [List.find?_eq_none] using lacks
  rw [find, absent]

end Attribute

end LintBridge.Markup
