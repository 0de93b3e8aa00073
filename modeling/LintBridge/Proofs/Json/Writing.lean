import LintBridge.Json.Writer
import LintBridge.Proofs.Decimal.Integers
import LintBridge.Proofs.Json.Members
import LintBridge.Proofs.Json.Reading

/-!
# Reading what was written

The indented text of a value spells it, as long as the value holds no fractions, its
integers fit 64 bits, and its objects keep their members by their keys.  So it is read back.
-/

set_option autoImplicit false

namespace LintBridge.Json

/-! ## Numbers -/

namespace Numeral

/-- The whole number that has been read so far. -/
def whole (negative : Bool) (n : Nat) : Numeral :=
  ⟨negative, n, 0, false, .whole⟩

theorem follow_append {n : Numeral} (front rest : List Char) :
    n.follow (front ++ rest) = (n.follow front).bind (·.follow rest) := by
  induction front generalizing n with
  | nil => rfl
  | cons c front ih =>
      simp only [List.cons_append, follow]
      cases n.turn c with
      | more next => exact ih
      | ends => rfl
      | refused fault => rfl

theorem turn_digit {negative : Bool} {n d : Nat} (small : d < 10) (fits : n * 10 + d < bound64) :
    (whole negative n).turn (Nat.digitChar d) = .more (whole negative (n * 10 + d)) := by
  have digit : ∀ d < 10, (Nat.digitChar d).isDigit = true
      ∧ (Nat.digitChar d).toNat - 48 = d := by decide
  obtain ⟨isDigit, same⟩ := digit d small
  simp [turn, whole, isDigit, same, fits]

/-- The digits of a number other than zero lead from the first one to the number. -/
theorem follow_toDigits {n : Nat} (positive : 0 < n) (fits : n < bound64) (negative : Bool) :
    ∃ d rest, 0 < d ∧ d < 10 ∧ Nat.toDigits 10 n = Nat.digitChar d :: rest
      ∧ (whole negative d).follow rest = some (whole negative n) := by
  induction n using Nat.strongRecOn with
  | ind n ih =>
      by_cases small : n < 10
      · exact ⟨n, [], positive, small, Nat.toDigits_of_lt_base small, rfl⟩
      · obtain ⟨d, rest, nonzero, single, digits, leads⟩ :=
          ih (n / 10) (by omega) (by omega) (by omega)
        have last : n % 10 < 10 := Nat.mod_lt n (by decide)
        have cut : n / 10 * 10 + n % 10 = n := Nat.div_add_mod' n 10
        refine ⟨d, rest ++ [Nat.digitChar (n % 10)], nonzero, single, ?_, ?_⟩
        · rw [Nat.toDigits_of_base_le (by decide) (by omega), digits, List.cons_append]
        · rw [follow_append, leads, Option.bind_some, follow, turn_digit last (by omega), cut]
          rfl

end Numeral

/-- An integer of 64 bits, with or without a sign. -/
def Fits64 (n : Int) : Prop :=
  -9223372036854775808 ≤ n ∧ n < 18446744073709551616

theorem toList_toString (n : Int) : (toString n).toList = Decimal.write n := by
  cases n with
  | ofNat n => simp [toString, Int.repr, Nat.repr, Decimal.write]
  | negSucc n => simp [toString, Int.repr, Nat.repr, Decimal.write]

theorem spellsNumber_write {n : Int} (fits : Fits64 n) :
    SpellsNumber (.integer n) (write (.integer n)) := by
  obtain ⟨low, high⟩ := fits
  have begins : ∀ d < 10, 0 < d → Numeral.begin? (Nat.digitChar d) = some (.whole false d) := by
    decide
  have opens : ∀ d < 10, 0 < d → (⟨true, 0, 0, false, .sign⟩ : Numeral).turn (Nat.digitChar d)
      = .more (.whole true d) := by decide
  rw [write, toList_toString]
  rcases lt_trichotomy n 0 with negative | rfl | positive
  · have opposite : n = -(n.natAbs : Int) := by omega
    obtain ⟨d, rest, nonzero, small, digits, leads⟩ :=
      Numeral.follow_toDigits (n := n.natAbs) (by omega) (by unfold Numeral.bound64; omega) true
    refine ⟨'-', _, _, .whole true n.natAbs, by rw [Decimal.write, if_pos negative, digits], rfl,
      ?_, ?_⟩
    · rw [Numeral.follow, opens d small nonzero]
      exact leads
    · have least : n.natAbs ≤ 9223372036854775808 := by omega
      simp only [Numeral.value, Numeral.whole, if_true, least]
      rw [← opposite]
  · exact ⟨'0', [], _, _, rfl, rfl, rfl, rfl⟩
  · have same : n = (n.natAbs : Int) := by omega
    obtain ⟨d, rest, nonzero, small, digits, leads⟩ :=
      Numeral.follow_toDigits (n := n.natAbs) (by omega) (by unfold Numeral.bound64; omega) false
    refine ⟨_, rest, _, _, by rw [Decimal.write, if_neg (by omega), digits],
      begins d small nonzero, leads, ?_⟩
    simp only [Numeral.value, Numeral.whole, Bool.false_eq_true, if_false]
    rw [← same]

/-! ## Strings -/

theorem spellsChar_escapeChar (c : Char) : SpellsChar c (escapeChar c) := by
  have hidden : ∀ n < 32, Decimal.padLeft 4 (Text.hexDigits n)
      = [Nat.digitChar 0, Nat.digitChar 0, Nat.digitChar (n / 16), Nat.digitChar (n % 16)] := by
    decide
  unfold escapeChar
  split
  case h_8 unquoting unescaping _ _ _ _ _ =>
    split
    case isTrue low =>
      rw [hidden c.toNat low]
      have digits : FourDigits (((0 * 16 + 0) * 16 + c.toNat / 16) * 16 + c.toNat % 16) _ :=
        .mk (by decide) (by decide) (by omega) (by omega) (.inl rfl) (.inl rfl) (.inl rfl)
          (.inl rfl)
      have cut : ((0 * 16 + 0) * 16 + c.toNat / 16) * 16 + c.toNat % 16 = c.toNat := by omega
      rw [cut] at digits
      exact .number digits
    case isFalse shown => exact .plain (Nat.not_lt.mp shown) unquoting unescaping
  all_goals exact .letter rfl

theorem spellsString_write (text : String) : SpellsString text (writeString text) := by
  have all : ∀ chars : List Char, SpellsChars chars (chars.flatMap escapeChar) := by
    intro chars
    induction chars with
    | nil => exact .nil
    | cons c chars ih => exact .cons (spellsChar_escapeChar c) ih
  exact ⟨_, all text.toList, rfl⟩

/-! ## Values -/

/-- A value that has a text of its own: no fractions, integers of 64 bits, members in the
order of their keys, and containers that nest so deep at most. -/
def Plain : Nat → Json → Prop
  | _, .null | _, .bool _ | _, .string _ => True
  | _, .integer n => Fits64 n
  | _, .decimal _ | 0, .array _ | 0, .object _ => False
  | depth + 1, .array items => ∀ item ∈ items, Plain depth item
  | depth + 1, .object members => Members.Ordered members ∧ ∀ m ∈ members, Plain depth m.2

theorem plain_integer {n : Int} (fits : Fits64 n) (depth : Nat) : Plain depth (.integer n) := by
  cases depth <;> exact fits

theorem plain_ofMembers {depth : Nat} {given : List (String × Json)}
    (plain : ∀ m ∈ given, Plain depth m.2) : Plain (depth + 1) (.ofMembers given) :=
  ⟨Members.ordered_ofList given, fun m member => plain m (Members.mem_ofList member)⟩

theorem isGap_lineBreak (level : Nat) : IsGap (lineBreak level) := by
  intro c member
  rcases List.mem_cons.mp member with rfl | indentation
  · rfl
  · rw [List.eq_of_mem_replicate indentation]
    rfl

theorem joined_block {α : Type} {P Q : α → List Char → Prop}
    (wrap : ∀ {a before text after}, IsGap before → Q a text → IsGap after →
      P a (before ++ text ++ after))
    {gap last : List Char} (front : IsGap gap) (back : IsGap last) {parts : List α}
    {texts : List (List Char)} (written : List.Forall₂ Q parts texts) (some' : parts ≠ []) :
    Joined P parts (gap ++ separated (',' :: gap) texts ++ last) := by
  induction written with
  | nil => exact absurd rfl some'
  | @cons a text rest others first later ih =>
      cases later with
      | nil => exact .one (wrap front first back)
      | @cons b text' rest others second later =>
          have whole := Joined.more (wrap front first isGap_nil) (ih (List.cons_ne_nil _ _))
          simpa [separated] using whole

theorem spellsContainer_list {S : Json → List Char → Prop} {items : List Json}
    {texts : List (List Char)} (written : List.Forall₂ S items texts) (level : Nat) :
    SpellsContainer S (.array items) (block level '[' ']' texts) := by
  cases written with
  | nil => exact @SpellsContainer.emptyList S [] isGap_nil
  | cons first later =>
      exact .list (joined_block (fun front written back => .mk front written back)
        (isGap_lineBreak _) (isGap_lineBreak _) (.cons first later) (List.cons_ne_nil _ _))

theorem spellsContainer_record {S : Json → List Char → Prop} {members : Members}
    {texts : List (List Char)} (ordered : members.Ordered)
    (written : List.Forall₂ (fun m text => ∃ item, S m.2 item
      ∧ text = writeString m.1 ++ ':' :: ' ' :: item) members texts) (level : Nat) :
    SpellsContainer S (.object members) (block level '\x7b' '\x7d' texts) := by
  have wrap : ∀ {m : String × Json} {before text after}, IsGap before →
      (∃ item, S m.2 item ∧ text = writeString m.1 ++ ':' :: ' ' :: item) → IsGap after →
      SpellsMember S m (before ++ text ++ after) := by
    rintro ⟨key, value⟩ before _ after front ⟨item, written, rfl⟩ back
    have whole := SpellsMember.mk front (spellsString_write key) isGap_nil
      (.mk (@isGap_singleton ' ' rfl) written back)
    simpa using whole
  have same : Members.ofList members = members := Members.ofList_of_ordered ordered
  cases written with
  | nil => exact @SpellsContainer.emptyRecord S [] isGap_nil
  | cons first later =>
      have inside := @joined_block _ (SpellsMember S) _ wrap _ _ (isGap_lineBreak (level + 1))
        (isGap_lineBreak level) _ _ (.cons first later) (List.cons_ne_nil _ _)
      have whole := SpellsContainer.record inside
      rw [same] at whole
      exact whole

theorem spellsScalar_indent {value : Json} (plain : Plain 0 value) (level : Nat) :
    SpellsScalar value (indent level value) := by
  cases value with
  | null => exact .null
  | bool value =>
      cases value with
      | true => exact .yes
      | false => exact .no
  | integer n => exact .number (spellsNumber_write plain)
  | string text => exact .string (spellsString_write text)
  | decimal x => exact plain.elim
  | array items => exact plain.elim
  | object members => exact plain.elim

theorem spells_indent {depth : Nat} {value : Json} (plain : Plain depth value) (level : Nat) :
    Spells depth value (indent level value) := by
  induction depth generalizing value level with
  | zero => exact spellsScalar_indent plain level
  | succ depth ih =>
      cases value with
      | array items =>
          have written : List.Forall₂ (Spells depth) items (indentItems level items) := by
            induction items with
            | nil => exact .nil
            | cons item rest later =>
                obtain ⟨first, others⟩ := List.forall_mem_cons.mp plain
                exact .cons (ih first (level + 1)) (later others)
          exact .inr (spellsContainer_list written level)
      | object members =>
          obtain ⟨ordered, plain⟩ := plain
          have written : List.Forall₂ (fun m text => ∃ item, Spells depth m.2 item
              ∧ text = writeString m.1 ++ ':' :: ' ' :: item) members
              (indentMembers level members) := by
            clear ordered
            induction members with
            | nil => exact .nil
            | cons m rest later =>
                obtain ⟨first, others⟩ := List.forall_mem_cons.mp plain
                exact .cons ⟨_, ih first (level + 1), rfl⟩ (later others)
          exact .inr (spellsContainer_record ordered written level)
      | null => exact .inl (@spellsScalar_indent .null plain level)
      | bool value => exact .inl (@spellsScalar_indent (.bool value) plain level)
      | integer n => exact .inl (@spellsScalar_indent (.integer n) plain level)
      | string text => exact .inl (@spellsScalar_indent (.string text) plain level)
      | decimal x => exact plain.elim

/-- The indented text is read back, also on a line of its own. -/
theorem read_indented {value : Json} (plain : Plain deepest value) {gap : List Char}
    (blank : IsGap gap) : read (value.indented ++ String.ofList gap) = .ok value := by
  apply read_of_spells
  have whole := SpellsItem.mk isGap_nil (spells_indent plain 0) blank
  simpa [SpellsText, indented] using whole

end LintBridge.Json
