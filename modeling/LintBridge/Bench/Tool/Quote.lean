import LintBridge.Bench.Raw

/-!
# Quotes of messages

How the names in messages are set apart.  A name of a file is written so that a shell
would read it as one word, with quotes where it needs them or always.  Other words stand
between quotation marks.
-/

set_option autoImplicit false

namespace LintBridge.Tool

def isShown (c : Char) : Bool :=
  ' ' ≤ c && c ≠ '\x7f' && !Text.Stray.isKeeper c

/-- The letter that stands for a control character behind a backslash. -/
def controlLetter? (c : Char) : Option Char :=
  match c with
  | '\x07' => some 'a'
  | '\x08' => some 'b'
  | '\t' => some 't'
  | '\n' => some 'n'
  | '\x0b' => some 'v'
  | '\x0c' => some 'f'
  | '\r' => some 'r'
  | _ => none

def octalEscape (c : Char) : Raw :=
  let n := c.toNat
  ['\\', Char.ofNat (48 + n / 64), Char.ofNat (48 + n / 8 % 8), Char.ofNat (48 + n % 8)]

def hiddenEscape (c : Char) : Raw :=
  match controlLetter? c with
  | some letter => ['\\', letter]
  | none => (Raw.ofLetters [c]).flatMap octalEscape

def isInert (first alone : Bool) (c : Char) : Bool :=
  if c = '#' || c = '~' then !first
  else if c = '\x7b' || c = '\x7d' then !alone
  else isShown c && !" !\"$&'()*;<=>?[\\^`|".toList.contains c

def fitsDoubleQuotes (c : Char) : Bool :=
  c.isAlphanum || "%+,-./:]_@' ".toList.contains c || (128 ≤ c.toNat && isShown c)

/-- A text between single quotes.  A single quote is written outside of them, and so is a
row of characters that are not shown, behind a dollar sign in quotes of its own. -/
def singleQuoted (hidden : Bool) : List Char → Raw
  | [] => ['\'']
  | c :: rest =>
      if isShown c then
        let front : Raw := if hidden then ['\'', '\''] else []
        let own : Raw := if c = '\'' then ['\'', '\\', '\'', '\''] else Raw.ofLetters [c]
        front ++ own ++ singleQuoted false rest
      else
        let front : Raw := if hidden then [] else ['\'', '$', '\'']
        front ++ hiddenEscape c ++ singleQuoted true rest

def quoteAlways (raw : Raw) : Raw :=
  let letters := raw.letters
  if letters.contains '\'' && letters.all fitsDoubleQuotes then '"' :: raw ++ ['"']
  else '\'' :: singleQuoted false letters

/-- The name as it is, or in quotes if a shell would read it otherwise. -/
def quoteOdd (raw : Raw) : Raw :=
  match raw.letters with
  | [] => ['\'', '\'']
  | c :: rest =>
      if isInert true rest.isEmpty c && rest.all (isInert false false) then raw else quoteAlways raw

def quote (raw : Raw) : Raw :=
  let own (c : Char) : Raw :=
    if c = '\\' || c = '’' then '\\' :: Raw.ofLetters [c]
    else if isShown c then Raw.ofLetters [c]
    else hiddenEscape c
  Raw.ofString "‘" ++ raw.letters.flatMap own ++ Raw.ofString "’"

end LintBridge.Tool
