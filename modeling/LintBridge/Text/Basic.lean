/-!
# Characters and texts

Measures of texts, the values of digits, blank characters, and the lines of a message.
-/

set_option autoImplicit false

/-!
## Text measures

Editors count UTF-16 units and files count bytes; both are sums over the
characters of a text.
-/

namespace LintBridge.Text

/-- UTF-16 units of one character: two beyond U+FFFF. -/
def units16 (c : Char) : Nat :=
  if c.toNat ≤ 0xFFFF then 1 else 2

def length16 (text : List Char) : Nat :=
  text.foldr (fun c n => units16 c + n) 0

def length8 (text : List Char) : Nat :=
  text.foldr (fun c n => c.utf8Size + n) 0

end LintBridge.Text

/-!
## Digits

The values of the digits of the bases ten and sixteen, in either case.
-/

namespace LintBridge.Text

def digit? (c : Char) : Option Nat :=
  if c.isDigit then some (c.toNat - '0'.toNat) else none

def hexDigit? (c : Char) : Option Nat :=
  if 'a' ≤ c ∧ c ≤ 'f' then some (c.toNat - 'a'.toNat + 10)
  else if 'A' ≤ c ∧ c ≤ 'F' then some (c.toNat - 'A'.toNat + 10)
  else digit? c

def hexDigits (n : Nat) : List Char :=
  Nat.toDigits 16 n

end LintBridge.Text

/-!
## Blank characters

The characters with the Unicode property White_Space, and trimming by them.
Leading and trailing blanks go, blanks in between stay.
-/

namespace LintBridge.Text

/-- Membership in the Unicode property White_Space. -/
def isBlank (c : Char) : Bool :=
  let n := c.toNat
  (0x9 ≤ n && n ≤ 0xD) || n == 0x20 || n == 0x85 || n == 0xA0 || n == 0x1680
    || (0x2000 ≤ n && n ≤ 0x200A) || n == 0x2028 || n == 0x2029 || n == 0x202F
    || n == 0x205F || n == 0x3000

def trimEndChars (text : List Char) : List Char :=
  (text.reverse.dropWhile isBlank).reverse

def trimChars (text : List Char) : List Char :=
  trimEndChars (text.dropWhile isBlank)

def trim (text : String) : String :=
  String.ofList (trimChars text.toList)

end LintBridge.Text

/-!
## Lines of a message

A line feed ends a line, with a carriage return directly before it.  What follows the
last line feed is a line only if there is something.
-/

namespace LintBridge.Text

/-- A line without a carriage return at its end; given the last character first. -/
def endedLine : List Char → List Char
  | '\r' :: reversed => reversed.reverse
  | reversed => reversed.reverse

/-- The lines of a text, behind the characters of the first one (the last one
first). -/
def linesBehind : List Char → List Char → List (List Char)
  | [], [] => []
  | reversed, [] => [reversed.reverse]
  | reversed, c :: rest =>
      if c = '\n' then endedLine reversed :: linesBehind [] rest
      else linesBehind (c :: reversed) rest

def lines (text : String) : List String :=
  (linesBehind [] text.toList).map String.ofList

end LintBridge.Text
