import LintBridge.Text.Basic

/-!
# Laws of characters and texts

The measures of texts, trimming, and the numerals that texts are.
-/

set_option autoImplicit false

/-!
## Laws of the text measures

Both measures of a text are sums over its characters, so they add up over parts of it.
A character never has more UTF-16 units than UTF-8 bytes.
-/

namespace LintBridge.Text

@[simp] theorem length8_nil : length8 [] = 0 := rfl

@[simp] theorem length8_cons (c : Char) (rest : List Char) :
    length8 (c :: rest) = c.utf8Size + length8 rest := rfl

@[simp] theorem length8_append (before after : List Char) :
    length8 (before ++ after) = length8 before + length8 after := by
  induction before with
  | nil => simp
  | cons c rest ih => simp [ih, Nat.add_assoc]

@[simp] theorem length16_nil : length16 [] = 0 := rfl

@[simp] theorem length16_cons (c : Char) (rest : List Char) :
    length16 (c :: rest) = units16 c + length16 rest := rfl

@[simp] theorem length16_append (before after : List Char) :
    length16 (before ++ after) = length16 before + length16 after := by
  induction before with
  | nil => simp
  | cons c rest ih => simp [ih, Nat.add_assoc]

theorem units16_pos (c : Char) : 0 < units16 c := by
  unfold units16
  split <;> decide

theorem utf8Size_lineFeed : '\n'.utf8Size = 1 := rfl

theorem utf8Size_return : '\r'.utf8Size = 1 := rfl

theorem units16_le_utf8Size (c : Char) : units16 c ≤ c.utf8Size := by
  have positive := c.utf8Size_pos
  unfold units16
  split
  · omega
  · rename_i high
    have beyond : ¬ c.val ≤ 0xFFFF := high
    have beyond2 : ¬ c.val ≤ 0x7FF := by
      intro low
      exact beyond (Nat.le_trans low (by decide))
    have beyond1 : ¬ c.val ≤ 0x7F := by
      intro low
      exact beyond (Nat.le_trans low (by decide))
    simp [Char.utf8Size, beyond, beyond1, beyond2]

end LintBridge.Text

/-!
## Laws of trimming

Where a text that has none of some characters stands among them, dropping them from an
end leaves the text.
-/

namespace LintBridge.Text

variable {p : Char → Bool} {before body after : List Char}

theorem dropWhile_eq_self (clear : ∀ c ∈ body, p c = false) : body.dropWhile p = body := by
  cases body with
  | nil => rfl
  | cons c rest =>
      rw [List.dropWhile_cons, clear c (List.mem_cons_self ..)]
      rfl

theorem dropWhile_before (dropped : ∀ c ∈ before, p c = true)
    (clear : ∀ c ∈ body, p c = false) : (before ++ body).dropWhile p = body := by
  rw [List.dropWhile_append_of_pos dropped, dropWhile_eq_self clear]

theorem reverse_dropWhile_after (clear : ∀ c ∈ body, p c = false)
    (dropped : ∀ c ∈ after, p c = true) :
    ((body ++ after).reverse.dropWhile p).reverse = body := by
  have turned : ∀ c ∈ body.reverse, p c = false :=
    fun c member => clear c (List.mem_reverse.mp member)
  have last : ∀ c ∈ after.reverse, p c = true :=
    fun c member => dropped c (List.mem_reverse.mp member)
  rw [List.reverse_append, dropWhile_before last turned, List.reverse_reverse]

/-- Blanks around a text without blanks are trimmed, and nothing else is. -/
theorem trimChars_around (front : ∀ c ∈ before, isBlank c = true)
    (clear : ∀ c ∈ body, isBlank c = false) (back : ∀ c ∈ after, isBlank c = true) :
    trimChars (before ++ body ++ after) = body := by
  rw [trimChars, List.append_assoc, List.dropWhile_append_of_pos front]
  cases body with
  | nil =>
      have nothing : (after ++ []).dropWhile isBlank = [] := List.dropWhile_append_of_pos back
      rw [List.append_nil] at nothing
      rw [List.nil_append, nothing]
      rfl
  | cons c rest =>
      rw [List.cons_append, List.dropWhile_cons, clear c (List.mem_cons_self ..),
        if_neg (by decide), ← List.cons_append, trimEndChars, reverse_dropWhile_after clear back]

theorem exists_around (text : List Char) :
    ∃ before after, (∀ c ∈ before, isBlank c = true) ∧ (∀ c ∈ after, isBlank c = true)
      ∧ text = before ++ trimChars text ++ after := by
  have blank : ∀ {text : List Char}, ∀ c ∈ text.takeWhile isBlank, isBlank c = true :=
    fun {text} => List.all_eq_true.mp List.all_takeWhile
  have front : text.takeWhile isBlank ++ text.dropWhile isBlank = text :=
    List.takeWhile_append_dropWhile
  have back : trimChars text ++ ((text.dropWhile isBlank).reverse.takeWhile isBlank).reverse
      = text.dropWhile isBlank := by
    rw [trimChars, trimEndChars, ← List.reverse_append, List.takeWhile_append_dropWhile,
      List.reverse_reverse]
  refine ⟨text.takeWhile isBlank, ((text.dropWhile isBlank).reverse.takeWhile isBlank).reverse,
    blank, fun c member => blank c (List.mem_reverse.mp member), ?_⟩
  rw [List.append_assoc, back, front]

end LintBridge.Text

/-!
## Numerals

A numeral is a text of digits to a base and names a number by their places.  The digits
above nine are letters of either case, and zeros may stand in front.
-/

namespace LintBridge.Text

/-- The characters of a digit. -/
def IsDigit (d : Nat) (c : Char) : Prop :=
  c = Nat.digitChar d ∨ c = (Nat.digitChar d).toUpper

/-- The texts that name a number. -/
inductive Numeral (base : Nat) : Nat → List Char → Prop where
  | digit {d : Nat} {c : Char} (small : d < base) (written : IsDigit d c) : Numeral base d [c]
  | more {n d : Nat} {text : List Char} {c : Char} (front : Numeral base n text)
      (small : d < base) (written : IsDigit d c) : Numeral base (n * base + d) (text ++ [c])

/-! ## Digits -/

/-- What holds of every digit to a base in both cases holds of all its characters. -/
theorem IsDigit.of_forall {p : Nat → Char → Prop} {base d : Nat} {c : Char}
    (lower : ∀ d < base, p d (Nat.digitChar d)) (upper : ∀ d < base, p d (Nat.digitChar d).toUpper)
    (small : d < base) (written : IsDigit d c) : p d c := by
  rcases written with rfl | rfl
  · exact lower d small
  · exact upper d small

theorem digit?_isDigit {d : Nat} {c : Char} (small : d < 10) (written : IsDigit d c) :
    digit? c = some d :=
  IsDigit.of_forall (p := fun d c => digit? c = some d) (by decide) (by decide) small written

theorem digit?_eq_some_iff {c : Char} {d : Nat} :
    digit? c = some d ↔ d < 10 ∧ IsDigit d c := by
  constructor
  · intro read
    unfold digit? at read
    split at read
    · rename_i isDigit
      simp only [Char.isDigit, ge_iff_le, Bool.and_eq_true, decide_eq_true_eq] at isDigit
      have low : 48 ≤ c.toNat := isDigit.1
      have high : c.toNat ≤ 57 := isDigit.2
      have value : c.toNat - 48 = d := Option.some.inj read
      have small : d < 10 := by omega
      have written : ∀ d < 10, Char.ofNat (48 + d) = Nat.digitChar d := by decide
      refine ⟨small, .inl ?_⟩
      rw [← written d small, ← Char.ofNat_toNat c]
      exact congrArg Char.ofNat (by omega)
    · cases read
  · rintro ⟨small, written⟩
    exact digit?_isDigit small written

theorem hexDigit?_isDigit {d : Nat} {c : Char} (small : d < 16) (written : IsDigit d c) :
    hexDigit? c = some d :=
  IsDigit.of_forall (p := fun d c => hexDigit? c = some d) (by decide) (by decide) small written

/-- No digit to a base up to sixteen is one of the characters that stand beside a
numeral. -/
theorem IsDigit.ne {d : Nat} {c other : Char} (small : d < 16) (written : IsDigit d c)
    (beside : hexDigit? other = none) : c ≠ other := by
  rintro rfl
  rw [hexDigit?_isDigit small written] at beside
  cases beside

namespace Numeral

variable {base n : Nat} {text : List Char}

theorem ne_nil (numeral : Numeral base n text) : text ≠ [] := by
  cases numeral <;> simp

theorem isDigit_of_mem (numeral : Numeral base n text) {c : Char} (member : c ∈ text) :
    ∃ d < base, IsDigit d c := by
  induction numeral with
  | @digit d _ small written =>
      cases List.mem_singleton.mp member
      exact ⟨d, small, written⟩
  | @more n d text _ _ small written ih =>
      rcases List.mem_append.mp member with earlier | last
      · exact ih earlier
      · cases List.mem_singleton.mp last
        exact ⟨d, small, written⟩

theorem notMem (numeral : Numeral base n text) (small : base ≤ 16) {other : Char}
    (beside : hexDigit? other = none) : other ∉ text := by
  intro member
  obtain ⟨d, bound, written⟩ := numeral.isDigit_of_mem member
  exact written.ne (Nat.lt_of_lt_of_le bound small) beside rfl

theorem head?_ne (numeral : Numeral base n text) (small : base ≤ 16) {other : Char}
    (beside : hexDigit? other = none) (rest : List Char) : text ≠ other :: rest := by
  rintro rfl
  exact numeral.notMem small beside (List.mem_cons_self ..)

end Numeral

theorem numeral_toDigits (n : Nat) : Numeral 10 n (Nat.toDigits 10 n) := by
  induction n using Nat.strongRecOn with
  | ind n ih =>
      by_cases small : n < 10
      · rw [Nat.toDigits_of_lt_base small]
        exact .digit small (.inl rfl)
      · have front := ih (n / 10) (by omega)
        have whole := front.more (Nat.mod_lt n (by decide)) (.inl rfl)
        rw [Nat.toDigits_of_base_le (by decide) (by omega)]
        rwa [Nat.div_add_mod' n 10] at whole

end LintBridge.Text
