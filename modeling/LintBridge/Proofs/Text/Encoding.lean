import LintBridge.Text.Utf8

/-!
# Decoding what was encoded

The bytes of a character bring the decoder from between two characters to between two
characters again, with that character read.  So a text comes back from its bytes.
-/

set_option autoImplicit false

namespace LintBridge.Text

/-! ## Bytes of a text -/

theorem toList_byteArray (bytes : ByteArray) : bytes.toList = bytes.data.toList := by
  have loop (i : Nat) (read : Bytes) :
      ByteArray.toList.loop bytes i read = read.reverse ++ bytes.data.toList.drop i := by
    induction left : bytes.size - i generalizing i read with
    | zero =>
        have atEnd : bytes.data.toList.length ≤ i := by
          simp only [Array.length_toList]
          exact Nat.le_of_sub_eq_zero left
        rw [ByteArray.toList.loop, if_neg (by omega), List.drop_of_length_le atEnd, List.append_nil]
    | succ n ih =>
        have inside : i < bytes.size := by omega
        rw [ByteArray.toList.loop, if_pos inside, ih (i + 1) _ (by omega)]
        have there : i < bytes.data.toList.length := by simpa using inside
        rw [List.drop_eq_getElem_cons there, List.reverse_cons, List.append_assoc]
        simp [ByteArray.get!, inside]
  simpa [ByteArray.toList] using loop 0 []

theorem encode_eq (text : String) :
    encode text = text.toList.flatMap String.utf8EncodeChar := by
  have same : text.toByteArray = text.toList.utf8Encode := text.utf8Encode_toList.symm
  rw [encode, toList_byteArray, String.toUTF8, same]
  exact List.toList_data_toByteArray

theorem encode_singleton (c : Char) : encode (String.singleton c) = String.utf8EncodeChar c := by
  simp [encode_eq]

/-! ## Reading a character -/

namespace Utf8

theorem feed_continue (done : List (Option Char)) {p : Partial} {b : UInt8} (low : p.low ≤ b)
    (high : b ≤ p.high) :
    feed (done, some p) b =
      if p.owed ≤ 1 then (some (Char.ofNat (p.bits * 64 + (b.toNat - 0x80))) :: done, none)
      else (done, some ⟨p.bits * 64 + (b.toNat - 0x80), p.owed - 1, 0x80, 0xBF⟩) := by
  simp only [feed, step, low, high]
  by_cases last : p.owed ≤ 1 <;> simp [last]

theorem feed_lead (done : List (Option Char)) {b : UInt8} {p : Partial} (opens : lead b = .more p) :
    feed (done, none) b = (done, some p) := by
  simp [feed, step, startStep, opens]

theorem toNat_byte {n : Nat} (small : n < 256) : (UInt8.ofNat n).toNat = n := by
  rw [UInt8.toNat_ofNat']
  omega

theorem lead_of_one {n : Nat} (high : n < 0x80) : lead (UInt8.ofNat n) = .whole (Char.ofNat n) := by
  simp only [lead, toNat_byte (show n < 256 by omega)]
  rw [if_pos high]

theorem lead_of_two {n : Nat} (low : 0xC2 ≤ n) (high : n < 0xE0) :
    lead (UInt8.ofNat n) = .more ⟨n - 0xC0, 1, 0x80, 0xBF⟩ := by
  simp only [lead, toNat_byte (show n < 256 by omega)]
  rw [if_neg (by omega), if_neg (by omega), if_pos high]

theorem lead_of_three {n : Nat} (low : 0xE0 ≤ n) (high : n < 0xF0) :
    lead (UInt8.ofNat n) = .more ⟨n - 0xE0, 2, if n = 0xE0 then 0xA0 else 0x80,
      if n = 0xED then 0x9F else 0xBF⟩ := by
  simp only [lead, toNat_byte (show n < 256 by omega)]
  rw [if_neg (by omega), if_neg (by omega), if_neg (by omega)]
  by_cases first : n = 0xE0
  · subst first
    rfl
  · rw [if_neg first, if_neg first]
    by_cases surrogates : n = 0xED
    · subst surrogates
      rfl
    · rw [if_neg surrogates, if_neg surrogates, if_pos high]

theorem lead_of_four {n : Nat} (low : 0xF0 ≤ n) (high : n ≤ 0xF4) :
    lead (UInt8.ofNat n) = .more ⟨n - 0xF0, 3, if n = 0xF0 then 0x90 else 0x80,
      if n = 0xF4 then 0x8F else 0xBF⟩ := by
  simp only [lead, toNat_byte (show n < 256 by omega)]
  rw [if_neg (by omega), if_neg (by omega), if_neg (by omega), if_neg (by omega),
    if_neg (by omega), if_neg (by omega)]
  by_cases first : n = 0xF0
  · subst first
    rfl
  · rw [if_neg first, if_neg first]
    by_cases last : n = 0xF4
    · subst last
      rfl
    · rw [if_pos (show n < 0xF4 by omega), if_neg last]

theorem feed_continue_byte (done : List (Option Char)) {bits owed n : Nat} {low high : UInt8}
    (above : low.toNat ≤ n) (below : n ≤ high.toNat) (small : n < 256) :
    feed (done, some ⟨bits, owed, low, high⟩) (UInt8.ofNat n) =
      if owed ≤ 1 then (some (Char.ofNat (bits * 64 + (n - 0x80))) :: done, none)
      else (done, some ⟨bits * 64 + (n - 0x80), owed - 1, 0x80, 0xBF⟩) := by
  rw [feed_continue, toNat_byte small]
  · rw [UInt8.le_iff_toNat_le, toNat_byte small]
    exact above
  · rw [UInt8.le_iff_toNat_le, toNat_byte small]
    exact below

theorem foldl_feed_char (done : List (Option Char)) (c : Char) :
    (String.utf8EncodeChar c).foldl feed (done, none) = (some c :: done, none) := by
  have back : Char.ofNat c.val.toNat = c := Char.ofNat_toNat c
  have valid := c.valid
  rw [UInt32.isValidChar, Nat.isValidChar] at valid
  rw [String.utf8EncodeChar]
  generalize c.val.toNat = v at back valid
  by_cases one : v ≤ 127
  · rw [if_pos one, List.foldl_cons, List.foldl_nil]
    simp [feed, step, startStep, lead_of_one (show v < 0x80 by omega), back]
  · rw [if_neg one]
    by_cases two : v ≤ 2047
    · have whole : (v / 64 % 32 + 192 - 0xC0) * 64 + (v % 64 + 128 - 0x80) = v := by omega
      rw [if_pos two]
      simp only [List.foldl_cons, List.foldl_nil]
      rw [feed_lead done (lead_of_two (by omega) (by omega)),
        feed_continue_byte done (by show 128 ≤ _; omega) (by show _ ≤ 191; omega) (by omega),
        if_pos (by omega), whole, back]
    · rw [if_neg two]
      by_cases three : v ≤ 65535
      · have whole : ((v / 4096 % 16 + 224 - 0xE0) * 64 + (v / 64 % 64 + 128 - 0x80)) * 64
            + (v % 64 + 128 - 0x80) = v := by omega
        rw [if_pos three]
        simp only [List.foldl_cons, List.foldl_nil]
        rw [feed_lead done (lead_of_three (by omega) (by omega)), feed_continue_byte done,
          if_neg (by omega), feed_continue_byte done (by show 128 ≤ _; omega)
            (by show _ ≤ 191; omega) (by omega), if_pos (by omega), whole, back]
        · split
          · show 160 ≤ _
            omega
          · show 128 ≤ _
            omega
        · split
          · show _ ≤ 159
            omega
          · show _ ≤ 191
            omega
        · omega
      · have whole : (((v / 262144 % 8 + 240 - 0xF0) * 64 + (v / 4096 % 64 + 128 - 0x80)) * 64
            + (v / 64 % 64 + 128 - 0x80)) * 64 + (v % 64 + 128 - 0x80) = v := by omega
        rw [if_neg three]
        simp only [List.foldl_cons, List.foldl_nil]
        rw [feed_lead done (lead_of_four (by omega) (by omega)), feed_continue_byte done,
          if_neg (by omega), feed_continue_byte done (by show 128 ≤ _; omega)
            (by show _ ≤ 191; omega) (by omega), if_neg (by omega),
          feed_continue_byte done (by show 128 ≤ _; omega) (by show _ ≤ 191; omega) (by omega),
          if_pos (by omega), whole, back]
        · split
          · show 144 ≤ _
            omega
          · show 128 ≤ _
            omega
        · split
          · show _ ≤ 143
            omega
          · show _ ≤ 191
            omega
        · omega

/-! ## Reading a text -/

theorem foldl_feed_chars (done : List (Option Char)) (chars : List Char) :
    (chars.flatMap String.utf8EncodeChar).foldl feed (done, none) =
      ((chars.map some).reverse ++ done, none) := by
  induction chars generalizing done with
  | nil => rfl
  | cons c rest ih =>
      rw [List.flatMap_cons, List.foldl_append, foldl_feed_char, ih]
      simp

theorem readings_encode (text : String) : readings (encode text) = text.toList.map some := by
  rw [readings, encode_eq, foldl_feed_chars]
  simp [close]

end Utf8

@[simp] theorem decodeLossy_encode (text : String) : decodeLossy (encode text) = text := by
  rw [decodeLossy, Utf8.readings_encode, List.map_map]
  simp [Function.comp_def]

end LintBridge.Text

/-!
## Laws of decoding

Every byte leaves a trace in the readings, be it only that a character is open.  So the
text of a byte sequence is empty only where the sequence is.
-/

namespace LintBridge.Text

namespace Utf8

/-- Something has been read or is being read. -/
def Begun (state : State) : Prop :=
  state.1 ≠ [] ∨ state.2 ≠ none

theorem begun_startStep (b : UInt8) : Begun (startStep b) := by
  unfold startStep
  split
  · exact .inl (by simp)
  · exact .inr (by simp)
  · exact .inl (by simp)

theorem begun_step (open? : Option Partial) (b : UInt8) : Begun (step open? b) := by
  cases open? with
  | none => exact begun_startStep b
  | some p =>
      simp only [step]
      split
      · split
        · exact .inl (by simp)
        · exact .inr (by simp)
      · exact .inl (by simp)

theorem begun_feed (state : State) (b : UInt8) : Begun (feed state b) := by
  rcases begun_step state.2 b with read | opened
  · exact .inl (by simp [feed, read])
  · exact .inr opened

theorem begun_foldl {bytes : Bytes} (some_ : bytes ≠ []) (state : State) :
    Begun (bytes.foldl feed state) := by
  induction bytes generalizing state with
  | nil => exact absurd rfl some_
  | cons b rest ih =>
      cases rest with
      | nil => exact begun_feed state b
      | cons next others => exact ih (by simp) (feed state b)

theorem close_ne_nil {state : State} (begun : Begun state) : close state ≠ [] := by
  obtain ⟨done, open?⟩ := state
  cases open? with
  | none =>
      rcases begun with read | opened
      · simpa [close] using read
      · exact absurd rfl opened
  | some p => simp [close]

theorem readings_eq_nil_iff (bytes : Bytes) : readings bytes = [] ↔ bytes = [] := by
  constructor
  · intro nothing
    by_cases some_ : bytes = []
    · exact some_
    · exact absurd nothing (close_ne_nil (begun_foldl some_ _))
  · rintro rfl
    rfl

end Utf8

theorem decodeLossy_eq_empty_iff (bytes : Bytes) : decodeLossy bytes = "" ↔ bytes = [] := by
  rw [← Utf8.readings_eq_nil_iff bytes, decodeLossy, String.ofList_eq_empty_iff,
    List.map_eq_nil_iff]

end LintBridge.Text

/-!
## Laws of strict decoding

A byte sequence that is read without an invalid part is the UTF-8 form of its text: what is
read of a character is what it is written as, and nothing else is taken for it.
-/

namespace LintBridge.Text

namespace Utf8

theorem ofNat_eq {n : Nat} {b : UInt8} (same : n = b.toNat) : UInt8.ofNat n = b := by
  rw [same, UInt8.ofNat_toNat]

theorem val_ofNat {n : Nat} (valid : n.isValidChar) : (Char.ofNat n).val.toNat = n := by
  rw [Char.ofNat, dif_pos valid]
  rfl

section

variable {a b c d : UInt8}

theorem encode_one (small : a.toNat < 0x80) :
    String.utf8EncodeChar (Char.ofNat a.toNat) = [a] := by
  have valid : a.toNat.isValidChar := .inl (by omega)
  rw [String.utf8EncodeChar, val_ofNat valid, if_pos (by omega), UInt8.ofNat_toNat]

theorem encode_two (lowA : 0xC2 ≤ a.toNat) (highA : a.toNat < 0xE0) (lowB : 0x80 ≤ b.toNat)
    (highB : b.toNat ≤ 0xBF) :
    String.utf8EncodeChar (Char.ofNat ((a.toNat - 0xC0) * 64 + (b.toNat - 0x80))) = [a, b] := by
  have valid : ((a.toNat - 0xC0) * 64 + (b.toNat - 0x80)).isValidChar := .inl (by omega)
  rw [String.utf8EncodeChar, val_ofNat valid, if_neg (by omega), if_pos (by omega)]
  rw [ofNat_eq (b := a) (by omega), ofNat_eq (b := b) (by omega)]

theorem encode_three (lowA : 0xE0 ≤ a.toNat) (highA : a.toNat < 0xF0)
    (lowB : 0x80 ≤ b.toNat) (highB : b.toNat ≤ 0xBF) (long : 0xE0 < a.toNat ∨ 0xA0 ≤ b.toNat)
    (whole : a.toNat ≠ 0xED ∨ b.toNat ≤ 0x9F) (lowC : 0x80 ≤ c.toNat) (highC : c.toNat ≤ 0xBF) :
    String.utf8EncodeChar (Char.ofNat (((a.toNat - 0xE0) * 64 + (b.toNat - 0x80)) * 64
      + (c.toNat - 0x80))) = [a, b, c] := by
  have valid : (((a.toNat - 0xE0) * 64 + (b.toNat - 0x80)) * 64 + (c.toNat - 0x80)).isValidChar := by
    unfold Nat.isValidChar
    omega
  rw [String.utf8EncodeChar, val_ofNat valid, if_neg (by omega), if_neg (by omega),
    if_pos (by omega)]
  rw [ofNat_eq (b := a) (by omega), ofNat_eq (b := b) (by omega), ofNat_eq (b := c) (by omega)]

theorem encode_four (lowA : 0xF0 ≤ a.toNat) (highA : a.toNat ≤ 0xF4)
    (lowB : 0x80 ≤ b.toNat) (highB : b.toNat ≤ 0xBF) (long : 0xF0 < a.toNat ∨ 0x90 ≤ b.toNat)
    (short : a.toNat < 0xF4 ∨ b.toNat ≤ 0x8F) (lowC : 0x80 ≤ c.toNat) (highC : c.toNat ≤ 0xBF)
    (lowD : 0x80 ≤ d.toNat) (highD : d.toNat ≤ 0xBF) :
    String.utf8EncodeChar (Char.ofNat ((((a.toNat - 0xF0) * 64 + (b.toNat - 0x80)) * 64
      + (c.toNat - 0x80)) * 64 + (d.toNat - 0x80))) = [a, b, c, d] := by
  have valid : ((((a.toNat - 0xF0) * 64 + (b.toNat - 0x80)) * 64 + (c.toNat - 0x80)) * 64
      + (d.toNat - 0x80)).isValidChar := by
    unfold Nat.isValidChar
    omega
  rw [String.utf8EncodeChar, val_ofNat valid, if_neg (by omega), if_neg (by omega),
    if_neg (by omega)]
  rw [ofNat_eq (b := a) (by omega), ofNat_eq (b := b) (by omega), ofNat_eq (b := c) (by omega),
    ofNat_eq (b := d) (by omega)]

end

/-- The bytes of a character that is open. -/
inductive Opens : Partial → Bytes → Prop where
  | lead {b : UInt8} {p : Partial} (opens : lead b = .more p) : Opens p [b]
  | next {p : Partial} {bytes : Bytes} {b : UInt8} (front : Opens p bytes) (owes : ¬ p.owed ≤ 1)
      (low : p.low ≤ b) (high : b ≤ p.high) :
      Opens ⟨p.bits * 64 + (b.toNat - 0x80), p.owed - 1, 0x80, 0xBF⟩ (bytes ++ [b])

theorem lead_more {b : UInt8} {p : Partial} (opens : lead b = .more p) :
    (0xC2 ≤ b.toNat ∧ b.toNat < 0xE0 ∧ p = ⟨b.toNat - 0xC0, 1, 0x80, 0xBF⟩)
    ∨ (0xE0 ≤ b.toNat ∧ b.toNat < 0xF0 ∧ p = ⟨b.toNat - 0xE0, 2,
        if b.toNat = 0xE0 then 0xA0 else 0x80, if b.toNat = 0xED then 0x9F else 0xBF⟩)
    ∨ (0xF0 ≤ b.toNat ∧ b.toNat ≤ 0xF4 ∧ p = ⟨b.toNat - 0xF0, 3,
        if b.toNat = 0xF0 then 0x90 else 0x80, if b.toNat = 0xF4 then 0x8F else 0xBF⟩) := by
  have same : UInt8.ofNat b.toNat = b := UInt8.ofNat_toNat
  by_cases low : b.toNat < 0xC2
  · unfold lead at opens
    dsimp only at opens
    rw [if_pos low] at opens
    split at opens <;> cases opens
  · by_cases two : b.toNat < 0xE0
    · have opened := lead_of_two (Nat.le_of_not_lt low) two
      rw [same, opens] at opened
      exact .inl ⟨Nat.le_of_not_lt low, two, Lead.more.inj opened⟩
    · by_cases three : b.toNat < 0xF0
      · have opened := lead_of_three (Nat.le_of_not_lt two) three
        rw [same, opens] at opened
        exact .inr (.inl ⟨Nat.le_of_not_lt two, three, Lead.more.inj opened⟩)
      · by_cases four : b.toNat ≤ 0xF4
        · have opened := lead_of_four (Nat.le_of_not_lt three) four
          rw [same, opens] at opened
          exact .inr (.inr ⟨Nat.le_of_not_lt three, four, Lead.more.inj opened⟩)
        · unfold lead at opens
          dsimp only at opens
          repeat rw [if_neg (by omega)] at opens
          cases opens

theorem Opens.owed_le {p : Partial} {bytes : Bytes} (opens : Opens p bytes) : p.owed ≤ 3 := by
  induction opens with
  | lead opens => rcases lead_more opens with ⟨_, _, rfl⟩ | ⟨_, _, rfl⟩ | ⟨_, _, rfl⟩ <;> simp
  | next front _ _ _ ih => exact Nat.le_trans (Nat.sub_le ..) ih

/-- The second byte of a character of three or four bytes lies in the range that the first one
leaves it. -/
theorem second_bounds {n first last : Nat} {low high : UInt8} {b : UInt8}
    (above : (if n = first then low else 0x80 : UInt8).toNat ≤ b.toNat)
    (below : b.toNat ≤ (if n = last then high else 0xBF : UInt8).toNat) (some' : 0x80 ≤ low.toNat)
    (most : high.toNat ≤ 0xBF) (reached : first ≤ n) :
    0x80 ≤ b.toNat ∧ b.toNat ≤ 0xBF ∧ (first < n ∨ low.toNat ≤ b.toNat)
      ∧ (n ≠ last ∨ b.toNat ≤ high.toNat) := by
  have least : (0x80 : UInt8).toNat = 0x80 := rfl
  have greatest : (0xBF : UInt8).toNat = 0xBF := rfl
  split at above <;> split at below <;> omega

theorem Opens.complete {p : Partial} {bytes : Bytes} {b : UInt8} (opens : Opens p bytes)
    (owes : p.owed ≤ 1) (low : p.low ≤ b) (high : b ≤ p.high) :
    String.utf8EncodeChar (Char.ofNat (p.bits * 64 + (b.toNat - 0x80))) = bytes ++ [b] := by
  rw [UInt8.le_iff_toNat_le] at low high
  cases opens with
  | lead opens =>
      rcases lead_more opens with ⟨lowA, highA, rfl⟩ | ⟨_, _, rfl⟩ | ⟨_, _, rfl⟩
      · exact encode_two lowA highA low high
      · simp at owes
      · simp at owes
  | next front more lowB highB =>
      rw [UInt8.le_iff_toNat_le] at lowB highB
      cases front with
      | lead opens =>
          rcases lead_more opens with ⟨_, _, rfl⟩ | ⟨lowA, highA, rfl⟩ | ⟨_, _, rfl⟩
          · simp at more
          · obtain ⟨lowB, highB, long, whole⟩ := second_bounds lowB highB (by decide) (by decide) lowA
            exact encode_three lowA highA lowB highB long whole low high
          · simp at owes
      | next front more' lowC highC =>
          rw [UInt8.le_iff_toNat_le] at lowC highC
          cases front with
          | lead opens =>
              rcases lead_more opens with ⟨_, _, rfl⟩ | ⟨_, _, rfl⟩ | ⟨lowA, highA, rfl⟩
              · simp at more'
              · simp at more
              · obtain ⟨lowC, highC, long, short⟩ :=
                  second_bounds lowC highC (by decide) (by decide) lowA
                refine encode_four lowA highA lowC highC long ?_ lowB highB low high
                exact short.imp_left fun other => Nat.lt_of_le_of_ne highA other
          | next front more'' _ _ =>
              have most := front.owed_le
              dsimp only at more more'
              omega

/-- The bytes that lead to a state without invalid parts; the characters that were read stand
with the last one first. -/
def Spells (chars : List Char) (open? : Option Partial) (bytes : Bytes) : Prop :=
  match open? with
  | none => bytes = chars.reverse.flatMap String.utf8EncodeChar
  | some p => ∃ rest, Opens p rest ∧ bytes = chars.reverse.flatMap String.utf8EncodeChar ++ rest

theorem exists_of_cons {reading : Option Char} {done : List (Option Char)} {chars : List Char}
    (read : reading :: done = chars.map some) :
    ∃ c rest, chars = c :: rest ∧ reading = some c ∧ done = rest.map some := by
  cases chars with
  | nil => cases read
  | cons c rest => exact ⟨c, rest, rfl, List.cons_eq_cons.mp read⟩

theorem lead_whole {b : UInt8} {c : Char} (whole : lead b = .whole c) :
    b.toNat < 0x80 ∧ c = Char.ofNat b.toNat := by
  unfold lead at whole
  dsimp only at whole
  split at whole
  case isTrue small => exact ⟨small, (Lead.whole.inj whole).symm⟩
  case isFalse => (repeat' split at whole) <;> cases whole

/-- Where a byte is fed without an invalid part, the bytes still spell what was read. -/
theorem spells_feed {state : State} {bytes : Bytes} {b : UInt8}
    (spells : ∀ chars, state.1 = chars.map some → Spells chars state.2 bytes) {chars : List Char}
    (read : (feed state b).1 = chars.map some) : Spells chars (feed state b).2 (bytes ++ [b]) := by
  obtain ⟨done, open?⟩ := state
  cases open? with
  | none =>
      cases opens : lead b with
      | stray =>
          simp only [feed, step, startStep, opens] at read
          obtain ⟨_, _, _, invalid, _⟩ := exists_of_cons read
          cases invalid
      | more p =>
          rw [feed_lead done opens] at read ⊢
          have before : bytes = _ := spells chars read
          exact ⟨[b], .lead opens, by rw [before]⟩
      | whole c =>
          simp only [feed, step, startStep, opens] at read ⊢
          obtain ⟨_, rest, rfl, same, done⟩ := exists_of_cons read
          cases same
          obtain ⟨small, rfl⟩ := lead_whole opens
          have before : bytes = rest.reverse.flatMap String.utf8EncodeChar := spells rest done
          simp [Spells, before, encode_one small]
  | some p =>
      by_cases inside : p.low ≤ b ∧ b ≤ p.high
      · obtain ⟨low, high⟩ := inside
        rw [feed_continue done low high] at read ⊢
        split at read
        case isTrue owes =>
          rw [if_pos owes]
          obtain ⟨c, rest, rfl, same, done⟩ := exists_of_cons read
          obtain ⟨pending, opens, before⟩ := spells rest done
          have written := opens.complete owes low high
          rw [Option.some.inj same] at written
          simp [Spells, before, written]
        case isFalse owes =>
          rw [if_neg owes]
          obtain ⟨pending, opens, before⟩ := spells chars read
          exact ⟨pending ++ [b], .next opens owes low high, by rw [before, List.append_assoc]⟩
      · have again : feed (done, some p) b = ((startStep b).1.reverse ++ none :: done,
            (startStep b).2) := by
          simp only [feed, step]
          rw [if_neg (by simpa using inside)]
          simp
        have invalid : none ∈ (feed (done, some p) b).1 := by simp [again]
        rw [read] at invalid
        simp at invalid

theorem spells_foldl (bytes : Bytes) {state : State} {before : Bytes}
    (spells : ∀ chars, state.1 = chars.map some → Spells chars state.2 before) {chars : List Char}
    (read : (bytes.foldl feed state).1 = chars.map some) :
    Spells chars (bytes.foldl feed state).2 (before ++ bytes) := by
  induction bytes generalizing state before with
  | nil =>
      rw [List.append_nil]
      exact spells chars read
  | cons b rest ih =>
      have whole := ih (fun chars read => spells_feed spells read) read
      rwa [List.append_assoc] at whole

end Utf8

/-- What is read without an invalid part is the UTF-8 form of its text. -/
theorem encode_of_decode? {bytes : Bytes} {text : String} (read : decode? bytes = some text) :
    encode text = bytes := by
  have all : ∀ {readings : List (Option Char)} {chars : List Char},
      readings.mapM id = some chars → readings = chars.map some := by
    intro readings
    induction readings with
    | nil =>
        intro chars all
        cases all
        rfl
    | cons reading rest ih =>
        intro chars all
        rw [List.mapM_cons] at all
        obtain ⟨c, here, all⟩ := Option.bind_eq_some_iff.mp all
        obtain ⟨others, later, same⟩ := Option.bind_eq_some_iff.mp all
        cases same
        rw [ih later, List.map_cons]
        exact congrArg (· :: others.map some) here
  obtain ⟨chars, valid, rfl⟩ := Option.map_eq_some_iff.mp read
  have valid := all valid
  unfold Utf8.readings Utf8.close at valid
  have spells := @Utf8.spells_foldl bytes ([], none) []
    (fun chars read => by
      cases chars with
      | nil => rfl
      | cons c rest => cases read) chars.reverse
  cases ended : (bytes.foldl Utf8.feed ([], none)).2 with
  | some p =>
      simp only [ended] at valid
      have invalid : none ∈ (none :: (bytes.foldl Utf8.feed ([], none)).1).reverse := by simp
      rw [valid] at invalid
      simp at invalid
  | none =>
      simp only [ended] at valid
      have read : (bytes.foldl Utf8.feed ([], none)).1 = chars.reverse.map some := by
        rw [List.map_reverse, ← valid, List.reverse_reverse]
      have whole := spells read
      rw [ended, List.nil_append] at whole
      have same : bytes = chars.reverse.reverse.flatMap String.utf8EncodeChar := whole
      rw [same, encode_eq, String.toList_ofList, List.reverse_reverse]

end LintBridge.Text
