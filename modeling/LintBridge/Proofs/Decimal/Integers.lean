import LintBridge.Decimal.Signed
import LintBridge.Proofs.Text.Basic

/-!
# Spelled integers

An integer is spelled by a numeral behind a sign, and blanks may stand around them.
Every spelling of an integer of 32 bits is read as that integer, and nothing else is read.
-/

set_option autoImplicit false

namespace LintBridge.Decimal

open Text

/-- The texts that name an integer.  One that is not negative may go without a sign. -/
inductive SignedNumeral : Int → List Char → Prop where
  | plain {n : Nat} {digits : List Char} (numeral : Numeral 10 n digits) :
      SignedNumeral n digits
  | plus {n : Nat} {digits : List Char} (numeral : Numeral 10 n digits) :
      SignedNumeral n ('+' :: digits)
  | minus {n : Nat} {digits : List Char} (numeral : Numeral 10 n digits) :
      SignedNumeral (-n) ('-' :: digits)

/-- The texts that spell an integer. -/
def SpellsInteger (n : Int) (text : List Char) : Prop :=
  ∃ before numeral after, SignedNumeral n numeral ∧ (∀ c ∈ before, isBlank c = true)
    ∧ (∀ c ∈ after, isBlank c = true) ∧ text = before ++ numeral ++ after

/-- The texts that spell an integer of 32 bits. -/
def NamesInt32 (text : List Char) : Prop :=
  ∃ n, FitsInt32 n ∧ SpellsInteger n text

/-! ## Reading -/

theorem continueDigits_numeral {n : Nat} {digits : List Char} (numeral : Numeral 10 n digits)
    (rest : List Char) : continueDigits 0 (digits ++ rest) = continueDigits n rest := by
  induction numeral generalizing rest with
  | digit small written =>
      simp only [List.singleton_append, continueDigits, digit?_isDigit small written,
        Nat.zero_mul, Nat.zero_add]
  | more _ small written ih =>
      rw [List.append_assoc, ih]
      simp only [List.singleton_append, continueDigits, digit?_isDigit small written]

theorem readDigits_numeral {n : Nat} {digits : List Char} (numeral : Numeral 10 n digits) :
    readDigits digits = some n := by
  have read := continueDigits_numeral numeral []
  rw [List.append_nil] at read
  unfold readDigits
  split
  · exact absurd rfl numeral.ne_nil
  · exact read

theorem readSigned_signedNumeral {n : Int} {text : List Char} (named : SignedNumeral n text) :
    readSigned text = some n := by
  cases named with
  | plus numeral => simp only [readSigned, readDigits_numeral numeral]; rfl
  | minus numeral => simp only [readSigned, readDigits_numeral numeral]; rfl
  | plain numeral =>
      unfold readSigned
      split
      · exact absurd rfl (numeral.head?_ne (by decide) (by decide) _)
      · exact absurd rfl (numeral.head?_ne (by decide) (by decide) _)
      · rw [readDigits_numeral numeral]
        rfl

theorem fitsInt32_toInt (n : Int32) : FitsInt32 n.toInt := by
  have low := n.le_toInt
  have high := n.toInt_lt
  constructor <;> omega

theorem isBlank_isDigit {d : Nat} {c : Char} (small : d < 10) (written : IsDigit d c) :
    isBlank c = false :=
  IsDigit.of_forall (p := fun _ c => isBlank c = false) (by decide) (by decide) small written

theorem SignedNumeral.isBlank {n : Int} {text : List Char} (named : SignedNumeral n text) :
    ∀ c ∈ text, isBlank c = false := by
  have plain : ∀ {n digits}, Numeral 10 n digits → ∀ c ∈ digits, Text.isBlank c = false := by
    intro n digits numeral c member
    obtain ⟨d, small, written⟩ := numeral.isDigit_of_mem member
    exact isBlank_isDigit small written
  cases named with
  | plain numeral => exact plain numeral
  | plus numeral => exact List.forall_mem_cons.mpr ⟨by decide, plain numeral⟩
  | minus numeral => exact List.forall_mem_cons.mpr ⟨by decide, plain numeral⟩

theorem readInt32_spelled {n : Int32} {text : List Char} (spelled : SpellsInteger n.toInt text) :
    readInt32 (trimChars text) = some n := by
  obtain ⟨before, numeral, after, named, front, back, rfl⟩ := spelled
  rw [trimChars_around front named.isBlank back, readInt32, readSigned_signedNumeral named,
    Option.bind_some, int32?, if_pos (fitsInt32_toInt n), Int32.ofInt_toInt]

/-! ## What is read is a spelling -/

theorem numeral_continueDigits {m n : Nat} {front rest : List Char}
    (numeral : Numeral 10 m front) (read : continueDigits m rest = some n) :
    Numeral 10 n (front ++ rest) := by
  induction rest generalizing m front with
  | nil =>
      cases Option.some.inj read
      rwa [List.append_nil]
  | cons c rest ih =>
      simp only [continueDigits] at read
      split at read
      · rename_i d digit
        obtain ⟨small, written⟩ := digit?_eq_some_iff.mp digit
        rw [← List.singleton_append, ← List.append_assoc]
        exact ih (numeral.more small written) read
      · cases read

theorem readDigits_eq_some_iff {n : Nat} {text : List Char} :
    readDigits text = some n ↔ Numeral 10 n text := by
  refine ⟨fun read => ?_, readDigits_numeral⟩
  cases text with
  | nil => cases read
  | cons c rest =>
      -- The first digit is a numeral by itself, which the others continue.
      simp only [readDigits, continueDigits] at read
      split at read
      · rename_i d digit
        obtain ⟨small, written⟩ := digit?_eq_some_iff.mp digit
        rw [Nat.zero_mul, Nat.zero_add] at read
        exact numeral_continueDigits (.digit small written) read
      · cases read

theorem readSigned_eq_some_iff {n : Int} {text : List Char} :
    readSigned text = some n ↔ SignedNumeral n text := by
  refine ⟨fun read => ?_, readSigned_signedNumeral⟩
  unfold readSigned at read
  split at read <;> obtain ⟨m, digits, rfl⟩ := Option.map_eq_some_iff.mp read
  · exact .plus (readDigits_eq_some_iff.mp digits)
  · exact .minus (readDigits_eq_some_iff.mp digits)
  · exact .plain (readDigits_eq_some_iff.mp digits)

theorem toInt_ofInt {n : Int} (fits : FitsInt32 n) : (Int32.ofInt n).toInt = n :=
  Int32.toInt_ofInt_of_le fits.1 (Int.lt_of_le_of_lt fits.2 (by decide))

theorem int32?_eq_some_iff {i : Int} {n : Int32} :
    int32? i = some n ↔ FitsInt32 i ∧ n.toInt = i := by
  unfold int32?
  constructor
  · intro given
    split at given
    · rename_i fits
      cases given
      exact ⟨fits, toInt_ofInt fits⟩
    · cases given
  · rintro ⟨fits, rfl⟩
    rw [if_pos fits, Int32.ofInt_toInt]

theorem readInt32_eq_some_iff {n : Int32} {text : List Char} :
    readInt32 (trimChars text) = some n ↔ SpellsInteger n.toInt text := by
  refine ⟨fun read => ?_, readInt32_spelled⟩
  obtain ⟨i, signed, fits⟩ := Option.bind_eq_some_iff.mp read
  obtain ⟨before, after, front, back, whole⟩ := exists_around text
  rw [(int32?_eq_some_iff.mp fits).2]
  exact ⟨before, trimChars text, after, readSigned_eq_some_iff.mp signed, front, back, whole⟩

theorem readInt32_eq_none_iff {text : List Char} :
    readInt32 (trimChars text) = none ↔ ¬ NamesInt32 text := by
  rw [Option.eq_none_iff_forall_ne_some]
  constructor
  · rintro unread ⟨n, fits, spelled⟩
    rw [← toInt_ofInt fits] at spelled
    exact unread _ (readInt32_eq_some_iff.mpr spelled)
  · intro unnamed n read
    exact unnamed ⟨_, fitsInt32_toInt n, readInt32_eq_some_iff.mp read⟩

/-! ## The usual spelling -/

/-- The digits of an integer, behind a sign where it is negative. -/
def write (n : Int) : List Char :=
  if n < 0 then '-' :: Nat.toDigits 10 n.natAbs else Nat.toDigits 10 n.natAbs

theorem spellsInteger_write (n : Int) : SpellsInteger n (write n) := by
  have named : SignedNumeral n (write n) := by
    have numeral := numeral_toDigits n.natAbs
    by_cases negative : n < 0
    · rw [write, if_pos negative]
      have opposite : n = -(n.natAbs : Int) := by omega
      rw [opposite, Int.natAbs_neg, Int.natAbs_natCast]
      exact .minus numeral
    · rw [write, if_neg negative]
      have same : n = (n.natAbs : Int) := by omega
      rw [same, Int.natAbs_natCast]
      exact .plain numeral
  exact ⟨[], write n, [], named, by simp, by simp, by simp⟩

end LintBridge.Decimal
