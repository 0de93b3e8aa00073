import LintBridge.Proofs.Json.Reading

/-!
# Strings that are under way

A character of a string ends it, completes one of its characters, or leads on in an escape.
`Reaches` says which characters have led to a state of the escape.
-/

set_option autoImplicit false

namespace LintBridge.Json

namespace Reader

/-! ## Escapes -/

/-- The digits so far of a number that gets four. -/
inductive Digits : Nat → List Char → Prop where
  | nil : Digits 0 []
  | snoc {n d : Nat} {digits : List Char} {c : Char} (front : Digits n digits) (small : d < 16)
      (written : Text.IsDigit d c) : Digits (n * 16 + d) (digits ++ [c])

theorem Digits.eq_zero {n : Nat} {digits : List Char} (written : Digits n digits)
    (length : digits.length = 0) : n = 0 ∧ digits = [] := by
  cases written with
  | nil => exact ⟨rfl, rfl⟩
  | snoc front _ _ => simp at length

theorem Digits.last {n count : Nat} {digits : List Char} (written : Digits n digits)
    (length : digits.length = count + 1) :
    ∃ m d front c, Digits m front ∧ front.length = count ∧ d < 16 ∧ Text.IsDigit d c
      ∧ n = m * 16 + d ∧ digits = front ++ [c] := by
  cases written with
  | nil => cases length
  | snoc front small isDigit =>
      exact ⟨_, _, _, _, front, by simpa using length, small, isDigit, rfl, rfl⟩

theorem Digits.four {n : Nat} {digits : List Char} (written : Digits n digits)
    (length : digits.length = 4) : FourDigits n digits := by
  obtain ⟨_, d, _, _, written₃, length₃, smallD, isD, rfl, rfl⟩ := written.last length
  obtain ⟨_, c, _, _, written₂, length₂, smallC, isC, rfl, rfl⟩ := written₃.last length₃
  obtain ⟨_, b, _, _, written₁, length₁, smallB, isB, rfl, rfl⟩ := written₂.last length₂
  obtain ⟨_, a, _, _, written₀, length₀, smallA, isA, rfl, rfl⟩ := written₁.last length₁
  obtain ⟨rfl, rfl⟩ := written₀.eq_zero length₀
  rw [Nat.zero_mul, Nat.zero_add]
  exact .mk smallA smallB smallC smallD isA isB isC isD

/-- The characters behind the last complete one that lead to a state of the escape. -/
inductive Reaches : Escape → List Char → Prop where
  | none : Reaches .none []
  | slash : Reaches .slash ['\\']
  | number {due value : Nat} {digits : List Char} (some' : 0 < due)
      (written : Digits value digits) (four : digits.length + due = 4) :
      Reaches (.number due (some value) none) ('\\' :: 'u' :: digits)
  | half {high : Nat} {first : List Char} (isHigh : FourDigits (0xD800 + high) first)
      (small : high < 1024) : Reaches (.half (0xD800 + high)) ('\\' :: 'u' :: first)
  | halfSlash {high : Nat} {first : List Char} (isHigh : FourDigits (0xD800 + high) first)
      (small : high < 1024) :
      Reaches (.halfSlash (0xD800 + high)) ('\\' :: 'u' :: first ++ ['\\'])
  | second {high due value : Nat} {first digits : List Char}
      (isHigh : FourDigits (0xD800 + high) first) (small : high < 1024) (some' : 0 < due)
      (written : Digits value digits) (four : digits.length + due = 4) :
      Reaches (.number due (some value) (some (0xD800 + high)))
        ('\\' :: 'u' :: first ++ '\\' :: 'u' :: digits)

/-- No digit was bad. -/
def Sound : Escape → Prop
  | .number _ none _ => False
  | _ => True

/-- What a character of a string may do to it: the escape goes on, or one more character of the
string is complete. -/
inductive Moves (escape : Escape) (c : Char) : Option Char → Escape → Prop where
  | more {next : Escape} (sound : Sound next → Sound escape)
      (reaches : ∀ {before}, Sound next → Reaches escape before → Reaches next (before ++ [c])) :
      Moves escape c none next
  | done {found : Char} (sound : Sound escape)
      (spelled : ∀ {before}, Reaches escape before → SpellsChar found (before ++ [c])) :
      Moves escape c (some found) .none

theorem toNat_ofNat {n : Nat} (valid : n.isValidChar) : (Char.ofNat n).toNat = n := by
  rw [Char.ofNat, dif_pos valid]
  rfl

theorem unit_none {n : Nat} {found? : Option Char} {next : Escape}
    (whole : unit none n = .ok (found?, next)) :
    (∃ high, found? = none ∧ next = .half (0xD800 + high) ∧ high < 1024 ∧ n = 0xD800 + high)
    ∨ found? = some (Char.ofNat n) ∧ next = .none ∧ (n < 65536 → n.isValidChar) := by
  unfold unit at whole
  dsimp only at whole
  split at whole
  case isTrue => cases whole
  case isFalse notLow =>
    split at whole
    case isTrue isHigh =>
      cases whole
      simp only [Bool.and_eq_true, decide_eq_true_eq] at isHigh
      exact .inl ⟨n - 0xD800, rfl, by rw [Nat.add_sub_cancel' isHigh.1], by omega, by omega⟩
    case isFalse notHigh =>
      cases whole
      simp only [Bool.and_eq_true, decide_eq_true_eq, not_and, Nat.not_le] at notLow notHigh
      refine .inr ⟨rfl, rfl, fun small => ?_⟩
      unfold Nat.isValidChar
      omega

theorem unit_some {high n : Nat} {found? : Option Char} {next : Escape}
    (whole : unit (some high) n = .ok (found?, next)) :
    ∃ low, found? = some (Char.ofNat ((high - 0xD800) * 1024 + low + 0x10000)) ∧ next = .none
      ∧ low < 1024 ∧ n = 0xDC00 + low := by
  unfold unit at whole
  dsimp only at whole
  split at whole
  case isFalse => cases whole
  case isTrue isLow =>
    cases whole
    simp only [Bool.and_eq_true, decide_eq_true_eq] at isLow
    exact ⟨n - 0xDC00, rfl, rfl, by omega, by rw [Nat.add_sub_cancel' isLow.1]⟩

theorem fourDigits_lt {n : Nat} {digits : List Char} (written : FourDigits n digits) :
    n < 65536 := by
  cases written
  omega

theorem isDigit_of_hexDigit? {c : Char} {d : Nat} (named : Text.hexDigit? c = some d) :
    d < 16 ∧ Text.IsDigit d c ∧ c.utf8Size = 1 := by
  have low : c.toNat < 128 := by
    unfold Text.hexDigit? Text.digit? at named
    have bound : ∀ last : Char, last.toNat < 128 → c ≤ last → c.toNat < 128 :=
      fun _ small below => Nat.lt_of_le_of_lt (UInt32.le_iff_toNat_le.mp below) small
    split at named
    case isTrue here => exact bound _ (by decide) here.2
    case isFalse =>
      split at named
      case isTrue here => exact bound _ (by decide) here.2
      case isFalse =>
        split at named
        case isTrue here =>
          simp only [Char.isDigit, Bool.and_eq_true, decide_eq_true_eq] at here
          exact bound '9' (by decide) here.2
        case isFalse => cases named
  have all : ∀ n < 128, ∀ d ∈ Text.hexDigit? (Char.ofNat n), d < 16
      ∧ (Char.ofNat n = Nat.digitChar d ∨ Char.ofNat n = (Nat.digitChar d).toUpper)
      ∧ (Char.ofNat n).utf8Size = 1 := by decide
  have here := all c.toNat low d
  rw [Char.ofNat_toNat] at here
  exact here named

theorem moves_number {due : Nat} {value : Option Nat} {high : Option Nat} {c : Char}
    {isKey : Bool} {reversed : List Char} {r r' : Reader}
    (stepped : r.stringStep isKey reversed (.number due value high) c = .ok r') :
    ∃ found? next, Moves (.number due value high) c found? next
      ∧ r' = r.within isKey (found?.toList ++ reversed) next := by
  have grown : ∀ {n digits next}, value = some n → Digits n digits →
      (value.bind fun n => (Text.hexDigit? c).map (n * 16 + ·)) = some next →
      Digits next (digits ++ [c]) := by
    rintro n digits next rfl written read
    obtain ⟨d, named, rfl⟩ := Option.map_eq_some_iff.mp read
    obtain ⟨small, isDigit, -⟩ := isDigit_of_hexDigit? named
    exact .snoc written small isDigit
  have sound : ∀ {next}, (value.bind fun n => (Text.hexDigit? c).map (n * 16 + ·)) = some next →
      Sound (.number due value high) ∧ c.utf8Size = 1 := by
    intro next read
    obtain ⟨n, rfl, read⟩ := Option.bind_eq_some_iff.mp read
    obtain ⟨d, named, -⟩ := Option.map_eq_some_iff.mp read
    exact ⟨trivial, (isDigit_of_hexDigit? named).2.2⟩
  unfold stringStep at stepped
  dsimp only at stepped
  generalize next? : (value.bind fun n => (Text.hexDigit? c).map (n * 16 + ·)) = next at *
  split at stepped
  case isTrue short =>
    cases stepped
    have counted : ∀ {digits : List Char}, digits.length + due = 4 →
        (digits ++ [c]).length + (due - 1) = 4 := by
      intro digits four
      rw [List.length_append, List.length_singleton]
      omega
    refine ⟨none, _, .more ?_ ?_, rfl⟩
    · intro here
      cases next with
      | none => cases here
      | some n => exact (sound rfl).1
    · intro before here reached
      cases next with
      | none => cases here
      | some n =>
          obtain ⟨-, thin⟩ := sound rfl
          rw [thin] at short ⊢
          cases reached with
          | number some' written four =>
              have longer := grown rfl written rfl
              exact .number (by omega) longer (counted four)
          | second isHigh small some' written four =>
              have longer := grown rfl written rfl
              rw [List.append_assoc]
              exact .second isHigh small (by omega) longer (counted four)
  case isFalse enough =>
    cases next with
    | none => cases stepped
    | some n =>
        obtain ⟨alive, thin⟩ := sound rfl
        rw [thin] at enough
        dsimp only at stepped
        split at stepped
        case h_1 => cases stepped
        case h_2 found? escape whole =>
          cases stepped
          have full : ∀ {m digits}, value = some m → Digits m digits → 0 < due →
              digits.length + due = 4 → FourDigits n (digits ++ [c]) := by
            intro m digits same written some' four
            refine (grown same written rfl).four ?_
            rw [List.length_append, List.length_singleton]
            omega
          refine ⟨found?, escape, ?_, rfl⟩
          cases high with
          | none =>
              rcases unit_none whole with ⟨high, rfl, rfl, small, rfl⟩ | ⟨rfl, rfl, valid⟩
              · refine .more (fun _ => alive) fun _ reached => ?_
                cases reached with
                | number some' written four => exact .half (full rfl written some' four) small
              · refine .done alive fun reached => ?_
                cases reached with
                | number some' written four =>
                    have digits := full rfl written some' four
                    rw [← toNat_ofNat (valid (fourDigits_lt digits))] at digits
                    exact .number digits
          | some high =>
              obtain ⟨low, rfl, rfl, smallLow, rfl⟩ := unit_some whole
              refine .done alive fun reached => ?_
              cases reached with
              | @second high _ _ first _ isHigh small some' written four =>
                  have digits := full rfl written some' four
                  rw [Nat.add_sub_cancel_left, List.append_assoc]
                  refine .pair isHigh digits small smallLow (toNat_ofNat ?_)
                  unfold Nat.isValidChar
                  omega

theorem stringStep_cases {escape : Escape} {c : Char} {isKey : Bool} {reversed : List Char}
    {r r' : Reader} (stepped : r.stringStep isKey reversed escape c = .ok r') :
    (escape = .none ∧ c = '"' ∧ r' = r.deliverText isKey (String.ofList reversed.reverse))
    ∨ ∃ found? next, Moves escape c found? next
      ∧ r' = r.within isKey (found?.toList ++ reversed) next := by
  cases escape with
  | none =>
      unfold stringStep at stepped
      dsimp only at stepped
      split at stepped
      case isTrue quote =>
        cases stepped
        exact .inl ⟨rfl, quote, rfl⟩
      case isFalse unquoting =>
        split at stepped
        case isTrue slash =>
          cases stepped
          refine .inr ⟨none, .slash, .more (fun _ => trivial) fun _ reached => ?_, rfl⟩
          cases reached
          exact slash ▸ .slash
        case isFalse unescaping =>
          split at stepped
          case isTrue => cases stepped
          case isFalse shown =>
            cases stepped
            refine .inr ⟨some c, .none, .done trivial fun reached => ?_, rfl⟩
            cases reached
            exact .plain (Nat.not_lt.mp shown) unquoting unescaping
  | slash =>
      unfold stringStep at stepped
      dsimp only at stepped
      split at stepped
      case isTrue unicode =>
        cases stepped
        refine .inr ⟨none, _, .more (fun _ => trivial) fun _ reached => ?_, rfl⟩
        cases reached
        exact unicode ▸ .number (by decide) .nil rfl
      case isFalse =>
        split at stepped
        case h_1 found named =>
          cases stepped
          refine .inr ⟨some found, .none, .done trivial fun reached => ?_, rfl⟩
          cases reached
          exact .letter named
        case h_2 => cases stepped
  | number due value high => exact .inr (moves_number stepped)
  | half high =>
      unfold stringStep at stepped
      dsimp only at stepped
      split at stepped
      case isTrue slash =>
        cases stepped
        refine .inr ⟨none, _, .more (fun _ => trivial) fun _ reached => ?_, rfl⟩
        cases reached with
        | half isHigh small => exact slash ▸ .halfSlash isHigh small
      case isFalse => cases stepped
  | halfSlash high =>
      unfold stringStep at stepped
      dsimp only at stepped
      split at stepped
      case isTrue unicode =>
        cases stepped
        refine .inr ⟨none, _, .more (fun _ => trivial) fun _ reached => ?_, rfl⟩
        cases reached with
        | halfSlash isHigh small =>
            have next := Reaches.second isHigh small (by decide : 0 < 4) .nil rfl
            rw [unicode, List.append_assoc]
            exact next
      case isFalse => cases stepped

end Reader

end LintBridge.Json
