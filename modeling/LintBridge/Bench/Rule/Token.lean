import LintBridge.Bench.Rounded
import LintBridge.Bench.Raw

/-!
# Tokens of rules

The smallest parts of a script of rules.  A slash may begin a pattern; whoever reads the
tokens knows where that is so.
-/

set_option autoImplicit false

namespace LintBridge.Rule

inductive Token where
  | number (x : Float)
  | text (raw : Raw)
  | name (name : String)
  | called (name : String)
  | keyword (name : String)
  | sign (text : String)
  | newline
  | close
  | unknown (c : Char)

namespace Token

def keywords : List String :=
  ["BEGIN", "END", "function", "func", "if", "else", "while", "for", "do", "break", "continue",
   "next", "nextfile", "exit", "return", "delete", "in", "getline", "print", "printf"]

def isNamePart (c : Char) : Bool :=
  c.isAlphanum || c = '_'

def signs : List String :=
  ["&&", "||", "++", "--", "+=", "-=", "*=", "/=", "%=", "^=", "==", "<=", ">=", "!=", "!~", ">>",
   "\x7b", "\x7d", "(", ")", "[", "]", ";", ",", "+", "-", "*", "/", "%", "^", "!", ">", "<", "|",
   "?", ":", "~", "$", "="]

/-- The character behind a backslash in a text, and what follows; one without a meaning
stays behind its backslash. -/
def escaped : Raw → Raw × Raw
  | [] => (['\\'], [])
  | c :: rest =>
      match c with
      | 'n' => (['\n'], rest)
      | 't' => (['\t'], rest)
      | 'r' => (['\r'], rest)
      | 'a' => (['\x07'], rest)
      | 'b' => (['\x08'], rest)
      | 'f' => (['\x0c'], rest)
      | 'v' => (['\x0b'], rest)
      | '\\' => (['\\'], rest)
      | '"' => (['"'], rest)
      | '\n' => ([], rest)
      | _ =>
          if '0' ≤ c && c ≤ '7' then
            let digits := ((c :: rest).take 3).takeWhile fun d => '0' ≤ d && d ≤ '7'
            let n := digits.foldl (fun n d => n * 8 + (d.toNat - 48)) 0
            ([Char.ofNat (n % 256)], (c :: rest).drop digits.length)
          else (['\\', c], rest)

/-- A text up to its closing quote; none without one. -/
def textBody : Nat → Raw → Option (Raw × Raw)
  | 0, _ => none
  | _ + 1, [] => none
  | _ + 1, '\n' :: _ => none
  | _ + 1, '"' :: rest => some ([], rest)
  | fuel + 1, '\\' :: rest =>
      let (own, after) := escaped rest
      (textBody fuel after).map fun found => (own ++ found.1, found.2)
  | fuel + 1, c :: rest => (textBody fuel rest).map fun found => (c :: found.1, found.2)

def unescaped : Nat → Raw → Raw
  | 0, raw => raw
  | _ + 1, [] => []
  | fuel + 1, '\\' :: rest =>
      let (own, after) := escaped rest
      own ++ unescaped fuel after
  | fuel + 1, c :: rest => c :: unescaped fuel rest

/-- A pattern up to its closing slash; none without one.  A slash stands for itself behind
a backslash and inside of square brackets. -/
def patternBody : Nat → Bool → Raw → Option (Raw × Raw)
  | 0, _, _ => none
  | _ + 1, _, [] => none
  | _ + 1, _, '\n' :: _ => none
  | fuel + 1, inside, '\\' :: c :: rest =>
      (patternBody fuel inside rest).map fun found =>
        (if c = '/' then '/' :: found.1 else '\\' :: c :: found.1, found.2)
  | fuel + 1, inside, c :: rest =>
      if c = '/' && !inside then some ([], rest)
      else
        let inside := if c = '[' then true else if c = ']' then false else inside
        (patternBody fuel inside rest).map fun found => (c :: found.1, found.2)

/-- What stands between tokens of a line: blanks, comments, and ends of lines behind a
backslash. -/
def skip : Nat → Raw → Raw
  | 0, raw => raw
  | fuel + 1, raw =>
      match raw with
      | ' ' :: rest | '\t' :: rest | '\r' :: rest => skip fuel rest
      | '\\' :: '\n' :: rest => skip fuel rest
      | '\\' :: '\r' :: '\n' :: rest => skip fuel rest
      | '#' :: rest => skip fuel (rest.dropWhile (· ≠ '\n'))
      | raw => raw

/-- The token at the beginning of a script, and what follows it. -/
def next (source : Raw) : Token × Raw :=
  match skip (source.length + 1) source with
  | [] => (.close, [])
  | '\n' :: rest => (.newline, rest)
  | '"' :: rest =>
      match textBody (rest.length + 1) rest with
      | some (raw, after) => (.text raw, after)
      | none => (.unknown '"', rest)
  | c :: rest =>
      let source := c :: rest
      if c.isDigit || (c = '.' && (rest.head?.any Char.isDigit)) then
        match Decimal.readFraction? (plainNumber source) with
        | some (x, left) => (.number x, source.drop ((plainNumber source).length - left.length))
        | none => (.unknown c, rest)
      else if c.isAlpha || c = '_' then
        let name := source.takeWhile isNamePart
        let after := source.drop name.length
        let text := String.ofList name
        if keywords.contains text then (.keyword (if text = "func" then "function" else text), after)
        else if after.head? = some '(' then (.called text, after)
        else (.name text, after)
      else
        match signs.find? fun s => s.toList.isPrefixOf source with
        | some s => (.sign s, source.drop s.length)
        | none => (.unknown c, rest)
where
  /-- The decimal number at the beginning, which has no other base. -/
  plainNumber (source : Raw) : Raw :=
    let whole := source.takeWhile Char.isDigit
    let rest := source.drop whole.length
    let (fraction, rest) : Raw × Raw :=
      match rest with
      | '.' :: more =>
          let digits := more.takeWhile Char.isDigit
          ('.' :: digits, more.drop digits.length)
      | _ => ([], rest)
    let exponent : Raw :=
      match rest with
      | e :: more =>
          if e = 'e' || e = 'E' then
            let sign := (more.take 1).filter fun c => c = '+' || c = '-'
            let digits := (more.drop sign.length).takeWhile Char.isDigit
            if digits.isEmpty then [] else e :: sign ++ digits
          else []
      | [] => []
    whole ++ fraction ++ exponent

def shown : Token → Raw
  | number x => Decimal.writeRounded x 'g' 6 false
  | text raw => '"' :: raw ++ ['"']
  | name n | called n | keyword n | sign n => n.toList
  | newline => "end of line".toList
  | close => "end of file".toList
  | unknown c => [c]

end Token

end LintBridge.Rule
