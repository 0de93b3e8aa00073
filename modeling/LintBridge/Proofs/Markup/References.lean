import LintBridge.Markup.Reference
import LintBridge.Proofs.Text.Basic

/-!
# Spelled attribute values

A character of a value is spelled by itself, by its name, or by its number to either
base.  Every spelling of a value is decoded to that value, whatever it looks like.
-/

set_option autoImplicit false

namespace LintBridge.Markup

open Text

namespace Reference

def Base.mark : Base → List Char
  | ten => []
  | sixteen => ['x']

/-- The names of characters. -/
def entities : List (List Char × Char) :=
  [("lt".toList, '<'), ("gt".toList, '>'), ("amp".toList, '&'), ("apos".toList, '\''),
   ("quot".toList, '"')]

/-- What stands between an ampersand and a semicolon for a character. -/
inductive Refers : Char → List Char → Prop where
  | name {c : Char} {name : List Char} (known : (name, c) ∈ entities) : Refers c name
  | number {c : Char} {base : Base} {digits : List Char} (notNull : c ≠ '\x00')
      (numeral : Numeral base.size c.toNat digits) :
      Refers c ('#' :: (base.mark ++ digits))

end Reference

/-- The texts of one character of a value. -/
inductive SpellsChar : Char → List Char → Prop where
  | raw {c : Char} (plain : c ≠ '&') : SpellsChar c [c]
  | reference {c : Char} {body : List Char} (refers : Reference.Refers c body) :
      SpellsChar c ('&' :: (body ++ [';']))

/-- The texts of a value. -/
inductive SpellsValue : List Char → List Char → Prop where
  | nil : SpellsValue [] []
  | cons {c : Char} {value piece text : List Char} (first : SpellsChar c piece)
      (later : SpellsValue value text) : SpellsValue (c :: value) (piece ++ text)

namespace Reference

/-! ## Numbers -/

theorem Base.digit?_isDigit {base : Base} {d : Nat} {c : Char} (small : d < base.size)
    (written : IsDigit d c) : base.digit? c = some d := by
  cases base with
  | ten => exact Text.digit?_isDigit small written
  | sixteen => exact hexDigit?_isDigit small written

theorem Base.size_le (base : Base) : base.size ≤ 16 := by
  cases base <;> decide

theorem continueDigits_numeral {base : Base} {n : Nat} {digits : List Char}
    (numeral : Numeral base.size n digits) (fits : n < 4294967296) (rest : List Char) :
    continueDigits base 0 (digits ++ rest) = continueDigits base n rest := by
  induction numeral generalizing rest with
  | digit small written =>
      simp only [List.singleton_append, continueDigits, Base.digit?_isDigit small written,
        Nat.zero_mul, Nat.zero_add, if_pos fits]
  | @more n d text c _ small written ih =>
      -- What fits with a further digit fits without it.
      have positive : 0 < base.size := by omega
      have smaller : n ≤ n * base.size := Nat.le_mul_of_pos_right n positive
      rw [List.append_assoc, ih (by omega)]
      simp only [List.singleton_append, continueDigits, Base.digit?_isDigit small written,
        if_pos fits]

theorem readDigits_numeral {base : Base} {n : Nat} {digits : List Char}
    (numeral : Numeral base.size n digits) (fits : n < 4294967296) :
    readDigits base digits = .ok n := by
  have read := continueDigits_numeral numeral fits []
  rw [List.append_nil] at read
  unfold readDigits
  split
  · exact absurd rfl numeral.ne_nil
  · exact absurd rfl (numeral.head?_ne base.size_le (by decide) _)
  · exact absurd rfl (numeral.head?_ne base.size_le (by decide) _)
  · exact read

theorem charOfNumber_toNat {c : Char} (notNull : c ≠ '\x00') : charOfNumber c.toNat = .ok c := by
  have positive : c.toNat ≠ 0 := fun zero => notNull (Char.toNat_inj.mp zero)
  have valid : c.toNat.isValidChar := c.valid
  rw [charOfNumber, if_neg positive, if_pos valid, Char.ofNat_toNat]

theorem readNumber_numeral {base : Base} {c : Char} {digits : List Char} (notNull : c ≠ '\x00')
    (numeral : Numeral base.size c.toNat digits) :
    readNumber (base.mark ++ digits) = .ok c := by
  have fits : c.toNat < 4294967296 := c.val.toNat_lt
  have read : (readDigits base digits >>= charOfNumber) = .ok c := by
    rw [readDigits_numeral numeral fits]
    exact charOfNumber_toNat notNull
  cases base with
  | sixteen => exact read
  | ten =>
      simp only [Base.mark, List.nil_append]
      unfold readNumber
      split
      · exact absurd rfl (numeral.head?_ne (by decide) (by decide) _)
      · exact read

/-! ## References -/

theorem resolve_refers {c : Char} {body : List Char} (refers : Refers c body) (byte : Nat) :
    resolve byte body = .ok c := by
  cases refers with
  | name known =>
      simp only [entities, List.mem_cons, Prod.mk.injEq, List.not_mem_nil, or_false] at known
      rcases known with ⟨rfl, rfl⟩ | ⟨rfl, rfl⟩ | ⟨rfl, rfl⟩ | ⟨rfl, rfl⟩ | ⟨rfl, rfl⟩ <;> rfl
  | number notNull numeral =>
      simp only [resolve, readNumber_numeral notNull numeral]

/-- A reference ends at its semicolon and holds no other ampersand. -/
theorem Refers.notMem {c : Char} {body : List Char} (refers : Refers c body) :
    ';' ∉ body ∧ '&' ∉ body := by
  cases refers with
  | name known =>
      have all : ∀ entry ∈ entities, ';' ∉ entry.1 ∧ '&' ∉ entry.1 := by decide
      exact all _ known
  | @number base digits _ numeral =>
      have clear : ∀ other, hexDigit? other = none → other ∉ '#' :: base.mark →
          other ∉ '#' :: (base.mark ++ digits) := by
        intro other beside unmarked member
        rw [← List.cons_append] at member
        rcases List.mem_append.mp member with marked | digit
        · exact unmarked marked
        · exact numeral.notMem base.size_le beside digit
      constructor
      · exact clear ';' (by decide) (by cases base <;> decide)
      · exact clear '&' (by decide) (by cases base <;> decide)

theorem run_body {body : List Char} (closed : ';' ∉ body ∧ '&' ∉ body)
    (size start byte : Nat) (reversed rest : List Char) :
    run size (some (start, reversed)) byte (body ++ rest)
      = run size (some (start, body.reverse ++ reversed)) (byte + length8 body) rest := by
  induction body generalizing byte reversed with
  | nil => rfl
  | cons c body ih =>
      obtain ⟨noEnd, noStart⟩ := closed
      rw [List.mem_cons, not_or] at noEnd noStart
      rw [List.cons_append, run, if_neg (Ne.symm noEnd.1), if_neg (Ne.symm noStart.1),
        ih ⟨noEnd.2, noStart.2⟩]
      simp [Nat.add_assoc]

theorem run_spellsChar {c : Char} {piece : List Char} (spells : SpellsChar c piece)
    (size byte : Nat) (rest : List Char) :
    ∃ next, run size none byte (piece ++ rest) = (run size none next rest).map (c :: ·) := by
  cases spells with
  | raw plain => exact ⟨byte + c.utf8Size, by rw [List.singleton_append, run, if_neg plain]⟩
  | @reference body refers =>
      refine ⟨byte + 1 + length8 body + 1, ?_⟩
      rw [List.cons_append, List.append_assoc, run, if_pos rfl, run_body refers.notMem,
        List.append_nil, List.singleton_append, run, if_pos rfl, List.reverse_reverse,
        resolve_refers refers]

theorem run_spellsValue {value text : List Char} (spells : SpellsValue value text)
    (size byte : Nat) : run size none byte text = .ok value := by
  induction spells generalizing byte with
  | nil => rfl
  | cons first _ ih =>
      obtain ⟨next, step⟩ := run_spellsChar first size byte _
      rw [step, ih]
      rfl

end Reference

theorem decodeValue_spellsValue {value : String} {text : List Char}
    (spells : SpellsValue value.toList text) : decodeValue text = .ok value := by
  rw [decodeValue, Reference.run_spellsValue spells, Except.map, String.ofList_toList]

/-! ## Usual spellings -/

theorem spellsChar_name {c : Char} {name : List Char} (known : (name, c) ∈ Reference.entities) :
    SpellsChar c ('&' :: (name ++ [';'])) :=
  .reference (.name known)

theorem spellsValue_raw {value : List Char} (plain : '&' ∉ value) : SpellsValue value value := by
  induction value with
  | nil => exact .nil
  | cons c value ih =>
      rw [List.mem_cons, not_or] at plain
      exact .cons (.raw (Ne.symm plain.1)) (ih plain.2)

/-- A character that can stand in double quotes. -/
def escapeChar (c : Char) : List Char :=
  if c = '&' then "&amp;".toList else if c = '"' then "&quot;".toList else [c]

def escape (value : List Char) : List Char :=
  value.flatMap escapeChar

theorem spellsChar_escapeChar (c : Char) : SpellsChar c (escapeChar c) := by
  unfold escapeChar
  split
  · subst c
    exact spellsChar_name (by decide : ("amp".toList, '&') ∈ Reference.entities)
  · split
    · subst c
      exact spellsChar_name (by decide : ("quot".toList, '"') ∈ Reference.entities)
    · exact .raw ‹_›

theorem spellsValue_escape (value : List Char) : SpellsValue value (escape value) := by
  induction value with
  | nil => exact .nil
  | cons c value ih => exact .cons (spellsChar_escapeChar c) ih

theorem quote_notMem_escape (value : List Char) : '"' ∉ escape value := by
  intro member
  obtain ⟨c, _, inside⟩ := List.mem_flatMap.mp member
  unfold escapeChar at inside
  split at inside
  · exact absurd inside (by decide)
  · split at inside
    · exact absurd inside (by decide)
    · exact ‹c ≠ '"'› (List.mem_singleton.mp inside).symm

end LintBridge.Markup
