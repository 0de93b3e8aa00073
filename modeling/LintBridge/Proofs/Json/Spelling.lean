import LintBridge.Json.Reader
import LintBridge.Proofs.Text.Basic

/-!
# Texts that spell JSON values

A value is spelled by many texts.  White space may stand between its parts, a character of
a string may be written with an escape, and the members of an object may stand in any order
and more than once, in which case the last one of a key counts.  A text spells at most one
value, and `depth` bounds how deep its containers nest.
-/

set_option autoImplicit false

namespace LintBridge.Json

/-- White space. -/
def IsGap (text : List Char) : Prop :=
  ∀ c ∈ text, Reader.isSpace c = true

theorem isGap_nil : IsGap [] :=
  fun _ member => nomatch member

theorem isGap_singleton {c : Char} (space : Reader.isSpace c = true) : IsGap [c] :=
  fun _ member => List.mem_singleton.mp member ▸ space

/-! ## Strings -/

/-- Four digits to the base sixteen. -/
inductive FourDigits : Nat → List Char → Prop where
  | mk {a b c d : Nat} {first second third fourth : Char} (smallA : a < 16) (smallB : b < 16)
      (smallC : c < 16) (smallD : d < 16) (isA : Text.IsDigit a first)
      (isB : Text.IsDigit b second) (isC : Text.IsDigit c third) (isD : Text.IsDigit d fourth) :
      FourDigits (((a * 16 + b) * 16 + c) * 16 + d) [first, second, third, fourth]

/-- The ways to write a character in a string. -/
inductive SpellsChar : Char → List Char → Prop where
  | plain {c : Char} (shown : 0x20 ≤ c.toNat) (unquoting : c ≠ '"') (unescaping : c ≠ '\\') :
      SpellsChar c [c]
  | letter {c sign : Char} (named : Reader.unescape? sign = some c) : SpellsChar c ['\\', sign]
  | number {c : Char} {digits : List Char} (named : FourDigits c.toNat digits) :
      SpellsChar c ('\\' :: 'u' :: digits)
  /-- The two halves of a character beyond sixteen bits. -/
  | pair {c : Char} {high low : Nat} {first second : List Char}
      (isHigh : FourDigits (0xD800 + high) first) (isLow : FourDigits (0xDC00 + low) second)
      (smallHigh : high < 1024) (smallLow : low < 1024)
      (whole : c.toNat = high * 1024 + low + 0x10000) :
      SpellsChar c ('\\' :: 'u' :: first ++ '\\' :: 'u' :: second)

inductive SpellsChars : List Char → List Char → Prop where
  | nil : SpellsChars [] []
  | cons {c : Char} {chars text rest : List Char} (first : SpellsChar c text)
      (others : SpellsChars chars rest) : SpellsChars (c :: chars) (text ++ rest)

/-- The ways to write a string, with its quotes. -/
def SpellsString (string : String) (text : List Char) : Prop :=
  ∃ body, SpellsChars string.toList body ∧ text = '"' :: body ++ ['"']

/-! ## Numbers -/

/-- The number after more characters, if it goes on with each of them. -/
def Numeral.follow : Numeral → List Char → Option Numeral
  | n, [] => some n
  | n, c :: rest =>
      match n.turn c with
      | .more next => next.follow rest
      | .ends | .refused _ => none

def SpellsNumber (value : Json) (text : List Char) : Prop :=
  ∃ c rest first last, text = c :: rest ∧ Numeral.begin? c = some first ∧
    first.follow rest = some last ∧ last.value = .ok value

/-! ## Values -/

inductive SpellsScalar : Json → List Char → Prop where
  | null : SpellsScalar .null ['n', 'u', 'l', 'l']
  | yes : SpellsScalar (.bool true) ['t', 'r', 'u', 'e']
  | no : SpellsScalar (.bool false) ['f', 'a', 'l', 's', 'e']
  | number {value : Json} {text : List Char} (named : SpellsNumber value text) :
      SpellsScalar value text
  | string {string : String} {text : List Char} (written : SpellsString string text) :
      SpellsScalar (.string string) text

section

variable (S : Json → List Char → Prop)

/-- An item of an array, with the white space around it. -/
inductive SpellsItem : Json → List Char → Prop where
  | mk {value : Json} {before text after : List Char} (front : IsGap before)
      (written : S value text) (back : IsGap after) : SpellsItem value (before ++ text ++ after)

/-- A member of an object, with the white space around its parts. -/
inductive SpellsMember : String × Json → List Char → Prop where
  | mk {key : String} {value : Json} {before name between item : List Char} (front : IsGap before)
      (named : SpellsString key name) (back : IsGap between) (written : SpellsItem S value item) :
      SpellsMember (key, value) (before ++ name ++ between ++ ':' :: item)

/-- Parts with commas between them. -/
inductive Joined {α : Type} (P : α → List Char → Prop) : List α → List Char → Prop where
  | one {a : α} {text : List Char} (last : P a text) : Joined P [a] text
  | more {a : α} {rest : List α} {text others : List Char} (first : P a text)
      (later : Joined P rest others) : Joined P (a :: rest) (text ++ ',' :: others)

inductive SpellsContainer : Json → List Char → Prop where
  | emptyList {gap : List Char} (inside : IsGap gap) :
      SpellsContainer (.array []) ('[' :: gap ++ [']'])
  | list {items : List Json} {body : List Char} (inside : Joined (SpellsItem S) items body) :
      SpellsContainer (.array items) ('[' :: body ++ [']'])
  | emptyRecord {gap : List Char} (inside : IsGap gap) :
      SpellsContainer (.object []) ('\x7b' :: gap ++ ['\x7d'])
  | record {members : Members} {body : List Char}
      (inside : Joined (SpellsMember S) members body) :
      SpellsContainer (.object (Members.ofList members)) ('\x7b' :: body ++ ['\x7d'])

end

/-- The texts of a value whose containers nest so deep at most. -/
def Spells : Nat → Json → List Char → Prop
  | 0, value, text => SpellsScalar value text
  | depth + 1, value, text => SpellsScalar value text ∨ SpellsContainer (Spells depth) value text

/-- The deepest nesting that is read. -/
def deepest : Nat :=
  127

/-- The texts of a value, with white space around it. -/
def SpellsText (value : Json) (text : List Char) : Prop :=
  SpellsItem (Spells deepest) value text

theorem SpellsScalar.spells {value : Json} {text : List Char} (scalar : SpellsScalar value text)
    (depth : Nat) : Spells depth value text := by
  cases depth with
  | zero => exact scalar
  | succ depth => exact .inl scalar

end LintBridge.Json
