import Mathlib.Data.List.Induction
import LintBridge.Document.Position
import LintBridge.Proofs.Document.Lines

/-!
# Laws of editor positions

The walk to a byte offset passes the characters that begin before it (`walk_eq_pastAll`).
Counted from the start of a text these are as many line feeds, and the UTF-16 units behind the
last of them (`pastAll_start`).  Every character passed leads to a later position, so the
boundaries of a text keep their order, and two offsets that are in order never come out the
other way round, wherever in their characters they lie.

Editors count in words of 32 bits.  `walk32?` is the walk with such counters, and stops
where one of them overflows.  In a text of fewer than 2³² bytes none does
(`walk32?_eq_walk`), since the lines and units passed are no more than the bytes.
-/

set_option autoImplicit false

namespace LintBridge

/-- The text behind the last line feed. -/
def Text.lastLine (text : List Char) : List Char :=
  (text.reverse.takeWhile (· ≠ '\n')).reverse

theorem Text.lastLine_concat (text : List Char) (c : Char) :
    lastLine (text ++ [c]) = if c = '\n' then [] else lastLine text ++ [c] := by
  by_cases lineFeed : c = '\n' <;> simp [lastLine, lineFeed]

namespace Position

open Text

/-! ## Passing characters -/

def pastAll (p : Position) (passed : List Char) : Position :=
  passed.foldl past p

@[simp] theorem pastAll_nil (p : Position) : p.pastAll [] = p := rfl

@[simp] theorem pastAll_cons (p : Position) (c : Char) (rest : List Char) :
    p.pastAll (c :: rest) = (p.past c).pastAll rest := rfl

@[simp] theorem pastAll_append (p : Position) (before after : List Char) :
    p.pastAll (before ++ after) = (p.pastAll before).pastAll after :=
  List.foldl_append

theorem pastAll_of_lineFeed_notMem {passed : List Char} (inLine : '\n' ∉ passed)
    (p : Position) : p.pastAll passed = ⟨p.line, p.character + length16 passed⟩ := by
  induction passed generalizing p with
  | nil => rfl
  | cons c rest ih =>
      rw [List.mem_cons, not_or] at inLine
      rw [pastAll_cons, ih inLine.2]
      simp only [past, Ne.symm inLine.1, if_false, length16_cons, Nat.add_assoc]

/-- The lines are the line feeds passed, the units those behind the last one. -/
theorem pastAll_start (passed : List Char) :
    start.pastAll passed = ⟨passed.count '\n', length16 (lastLine passed)⟩ := by
  induction passed using List.reverseRecOn with
  | nil => rfl
  | append_singleton before c ih =>
      rw [pastAll_append, ih, lastLine_concat, List.count_append]
      by_cases lineFeed : c = '\n'
      · subst lineFeed
        rfl
      · simp [past, lineFeed]

/-! ## The order of positions -/

/-- An earlier line, or an earlier place in the same line. -/
def Before (p q : Position) : Prop :=
  p.line < q.line ∨ p.line = q.line ∧ p.character < q.character

instance (p q : Position) : Decidable (p.Before q) :=
  inferInstanceAs (Decidable (_ ∨ _))

theorem Before.trans {p q r : Position} (first : p.Before q) (second : q.Before r) :
    p.Before r := by
  unfold Before at *
  omega

theorem Before.asymm {p q : Position} (order : p.Before q) : ¬ q.Before p := by
  unfold Before at *
  omega

theorem before_irrefl (p : Position) : ¬ p.Before p := by
  unfold Before
  omega

theorem before_past (p : Position) (c : Char) : p.Before (p.past c) := by
  have units := units16_pos c
  unfold past Before
  split
  · exact .inl (Nat.lt_succ_self p.line)
  · exact .inr ⟨rfl, Nat.lt_add_of_pos_right units⟩

theorem before_pastAll (p : Position) (c : Char) (rest : List Char) :
    p.Before (p.pastAll (c :: rest)) := by
  induction rest generalizing p c with
  | nil => exact p.before_past c
  | cons d others ih => exact (p.before_past c).trans (ih (p.past c) d)

theorem pastAll_mono (p : Position) {front whole : List Char} (begins : front <+: whole) :
    ¬ (p.pastAll whole).Before (p.pastAll front) := by
  obtain ⟨rest, rfl⟩ := begins
  rw [pastAll_append]
  cases rest with
  | nil => exact before_irrefl _
  | cons c others => exact (before_pastAll _ c others).asymm

/-! ## The walk to an offset -/

theorem walk_eq_pastAll (offset current : Nat) (p : Position) (text : List Char) :
    walk offset current p text = p.pastAll (takeBytes (offset - current) text) := by
  induction text generalizing current p with
  | nil => rw [takeBytes_nil, walk, pastAll_nil]
  | cons c rest ih =>
      rw [walk]
      split
      next reached => rw [Nat.sub_eq_zero_of_le reached, takeBytes_zero, pastAll_nil]
      next ahead =>
        have remaining : offset - (current + c.utf8Size) = offset - current - c.utf8Size := by
          omega
        rw [ih, takeBytes_cons (by omega), pastAll_cons, remaining]

theorem ofOffset?_eq {text : List Char} {offset : Nat} (inside : offset ≤ length8 text) :
    ofOffset? text offset = some (start.pastAll (takeBytes offset text)) := by
  rw [ofOffset?, if_pos inside, walk_eq_pastAll, Nat.sub_zero]

theorem ofOffset?_eq_none_iff {text : List Char} {offset : Nat} :
    ofOffset? text offset = none ↔ length8 text < offset := by
  simp [ofOffset?]

theorem ofOffset?_append (before after : List Char) :
    ofOffset? (before ++ after) (length8 before) = some (start.pastAll before) := by
  have inside : length8 before ≤ length8 (before ++ after) := by
    rw [length8_append]
    omega
  rw [ofOffset?_eq inside, takeBytes_append]

theorem ofOffset?_inside (before : List Char) (c : Char) (after : List Char) {offset : Nat}
    (behind : length8 before < offset) (upTo : offset ≤ length8 before + c.utf8Size) :
    ofOffset? (before ++ c :: after) offset = some (start.pastAll (before ++ [c])) := by
  have inside : offset ≤ length8 (before ++ c :: after) := by
    rw [length8_append, length8_cons]
    omega
  rw [ofOffset?_eq inside, takeBytes_inside before c after behind upTo]

theorem ofOffset?_strictMono {text : List Char} {first last : Nat}
    (boundary : IsBoundary text first) (boundary' : IsBoundary text last) (order : first < last) :
    ∃ p q, ofOffset? text first = some p ∧ ofOffset? text last = some q ∧ p.Before q := by
  obtain ⟨front, behind, rfl, rfl⟩ := boundary
  obtain ⟨longer, rest, same, rfl⟩ := boundary'
  have begins : front <+: longer := by
    rcases List.append_eq_append_iff.mp same with ⟨more, shorter, -⟩ | ⟨more, longer', -⟩
    · subst shorter
      rw [length8_append] at order
      omega
    · exact ⟨more, longer'.symm⟩
  obtain ⟨between, rfl⟩ := begins
  refine ⟨_, _, ofOffset?_append front behind, by rw [← same, ofOffset?_append], ?_⟩
  rw [pastAll_append]
  cases between with
  | nil => simp at order
  | cons c others => exact before_pastAll _ c others

theorem ofBytes?_ordered {text : List Char} {low high : Nat} (order : low ≤ high)
    (inside : high ≤ length8 text) :
    ∃ range, EditorRange.ofBytes? text ⟨low, high⟩ = some range
      ∧ ¬ range.stop.Before range.start := by
  refine ⟨⟨start.pastAll (takeBytes low text), start.pastAll (takeBytes high text)⟩, ?_,
    pastAll_mono start (takeBytes_mono text order)⟩
  simp only [EditorRange.ofBytes?, ofOffset?_eq inside, ofOffset?_eq (Nat.le_trans order inside)]
  rfl

/-! ## Counters of 32 bits -/

/-- Behind one more character, as long as both counters fit 32 bits. -/
def past32? (p : Position) (c : Char) : Option Position :=
  let next := p.past c
  if next.line < 4294967296 ∧ next.character < 4294967296 then some next else none

/-- The walk with counters of 32 bits. -/
def walk32? (offset : Nat) : Nat → Position → List Char → Option Position
  | _, p, [] => some p
  | current, p, c :: rest =>
      if offset ≤ current then some p
      else (p.past32? c).bind fun next => walk32? offset (current + c.utf8Size) next rest

theorem past_le (p : Position) (c : Char) :
    (p.past c).line + (p.past c).character ≤ p.line + p.character + c.utf8Size := by
  by_cases lineFeed : c = '\n'
  · subst lineFeed
    simp only [past, if_true, utf8Size_lineFeed]
    omega
  · have units := units16_le_utf8Size c
    simp only [past, lineFeed, if_false]
    omega

theorem walk32?_eq_walk {text : List Char} {offset current : Nat} {p : Position}
    (counted : p.line + p.character ≤ current)
    (short : current + length8 text < 4294967296) :
    walk32? offset current p text = some (walk offset current p text) := by
  induction text generalizing current p with
  | nil => rfl
  | cons c rest ih =>
      simp only [walk32?, walk]
      split
      · rfl
      · have passed := past_le p c
        rw [length8_cons] at short
        have fits : (p.past c).line < 4294967296 ∧ (p.past c).character < 4294967296 := by
          omega
        simp only [past32?, fits, and_self, if_true, Option.bind_some]
        exact ih (by omega) (by omega)

/-- The place in counters of 32 bits that wrap. -/
def wrapped (p : Position) : UInt32 × UInt32 :=
  (.ofNat p.line, .ofNat p.character)

/-- The walk with counters that wrap. -/
def walkWrapped (offset : Nat) : Nat → UInt32 × UInt32 → List Char → UInt32 × UInt32
  | _, p, [] => p
  | current, (line, character), c :: rest =>
      if offset ≤ current then (line, character)
      else
        walkWrapped offset (current + c.utf8Size)
          (if c = '\n' then (line + 1, 0) else (line, character + .ofNat (units16 c))) rest

/-- Counters that wrap have the low bits of those that do not, however long the text is. -/
theorem walkWrapped_eq (offset current : Nat) (p : Position) (text : List Char) :
    walkWrapped offset current p.wrapped text = (walk offset current p text).wrapped := by
  induction text generalizing current p with
  | nil => rfl
  | cons c rest ih =>
      have next : (if c = '\n' then (UInt32.ofNat p.line + 1, 0)
          else (UInt32.ofNat p.line, UInt32.ofNat p.character + .ofNat (units16 c)))
            = (p.past c).wrapped := by
        unfold past
        split <;> simp [wrapped]
      simp only [walk]
      rw [wrapped, walkWrapped, next, ih]
      split <;> rfl

/-- In a text of fewer than 2³² bytes every offset up to the end has a position, the boundaries
have the positions of what lies before them, each its own and in order, the bytes inside a
character have the position of its end, and no counter overflows. -/
theorem ofOffset?_faithful (text : List Char) (short : length8 text < 4294967296) :
    (∀ offset, ofOffset? text offset = none ↔ length8 text < offset)
      ∧ (∀ before after, before ++ after = text →
          ofOffset? text (length8 before)
            = some ⟨before.count '\n', length16 (lastLine before)⟩)
      ∧ (∀ before c after, before ++ c :: after = text → ∀ offset, length8 before < offset →
          offset < length8 before + c.utf8Size →
          ofOffset? text offset = ofOffset? text (length8 before + c.utf8Size))
      ∧ (∀ first last, IsBoundary text first → IsBoundary text last → first < last →
          ∃ p q, ofOffset? text first = some p ∧ ofOffset? text last = some q ∧ p.Before q)
      ∧ (∀ first last, IsBoundary text first → IsBoundary text last →
          ofOffset? text first = ofOffset? text last → first = last)
      ∧ (∀ start stop, start ≤ stop → stop ≤ length8 text →
          ∃ range, EditorRange.ofBytes? text ⟨start, stop⟩ = some range
            ∧ ¬ range.stop.Before range.start)
      ∧ ∀ offset, walk32? offset 0 start text = some (walk offset 0 start text) := by
  refine ⟨fun offset => ofOffset?_eq_none_iff, ?_, ?_, fun _ _ => ofOffset?_strictMono, ?_,
    fun _ _ => ofBytes?_ordered, fun offset => walk32?_eq_walk (Nat.le_refl 0) (by omega)⟩
  · rintro before after rfl
    rw [ofOffset?_append, pastAll_start]
  · rintro before c after rfl offset behind ahead
    have positive := c.utf8Size_pos
    rw [ofOffset?_inside before c after behind (Nat.le_of_lt ahead),
      ofOffset?_inside before c after (by omega) (Nat.le_refl _)]
  · intro first last boundary boundary' same
    -- two boundaries in order have different positions
    have apart {m n : Nat} (boundary : IsBoundary text m) (boundary' : IsBoundary text n)
        (order : m < n) : ofOffset? text m ≠ ofOffset? text n := by
      obtain ⟨p, q, here, there, before⟩ := ofOffset?_strictMono boundary boundary' order
      rw [here, there]
      rintro ⟨⟩
      exact before_irrefl p before
    rcases Nat.lt_trichotomy first last with order | equal | order
    · exact absurd same (apart boundary boundary' order)
    · exact equal
    · exact absurd same.symm (apart boundary' boundary order)

/-- Characters of one, two and four bytes, and an offset inside each of the longer ones. -/
theorem mixed_offsets :
    let text := "a\r\n😀é".toList
    length8 text < 4294967296
      ∧ ofOffset? text 10 = none
      ∧ ofOffset? text 7 = some ⟨1, 2⟩
      ∧ ofOffset? text 5 = ofOffset? text 7
      ∧ (∃ p q, ofOffset? text 2 = some p ∧ ofOffset? text 3 = some q ∧ p.Before q)
      ∧ (∃ range, EditorRange.ofBytes? text ⟨5, 8⟩ = some range
          ∧ ¬ range.stop.Before range.start)
      ∧ walk32? 9 0 start text = some ⟨1, 3⟩ := by
  intro text
  have short : length8 text < 4294967296 := by decide
  obtain ⟨beyond, boundary, inside, mono, -, ordered, counted⟩ := ofOffset?_faithful text short
  refine ⟨short, (beyond 10).mpr (by decide), boundary "a\r\n😀".toList ['é'] rfl,
    inside "a\r\n".toList '😀' ['é'] rfl 5 (by decide) (by decide), ?_,
    ordered 5 8 (by decide) (by decide), counted 9⟩
  exact mono 2 3 ⟨"a\r".toList, "\n😀é".toList, rfl, rfl⟩
    ⟨"a\r\n".toList, "😀é".toList, rfl, rfl⟩ (by decide)

end Position

end LintBridge
