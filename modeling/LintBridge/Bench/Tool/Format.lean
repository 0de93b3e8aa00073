import LintBridge.Bench.Rounded
import LintBridge.Bench.Shell.Sum
import LintBridge.Bench.Tool.Basic

/-!
# Formats

Texts with escapes, and formats that are filled in with arguments.  A format is used
again as long as arguments are left, and empty arguments stand for missing ones.
-/

set_option autoImplicit false

namespace LintBridge.Tool

def octal : Nat → Nat → Raw → Nat × Raw
  | 0, value, rest => (value, rest)
  | n + 1, value, c :: rest =>
      if '0' ≤ c && c ≤ '7' then octal n (value * 8 + (c.toNat - 48)) rest
      else (value, c :: rest)
  | _, value, [] => (value, [])

def byteOf (n : Nat) : Char :=
  Char.ofNat (n % 256)

def escaped? : Raw → Option (Char × Raw)
  | [] => none
  | c :: rest =>
      match c with
      | 'n' => some ('\n', rest)
      | 't' => some ('\t', rest)
      | 'r' => some ('\r', rest)
      | 'a' => some ('\x07', rest)
      | 'b' => some ('\x08', rest)
      | 'f' => some ('\x0c', rest)
      | 'v' => some ('\x0b', rest)
      | 'e' => some ('\x1b', rest)
      | '\\' => some ('\\', rest)
      | _ =>
          if '0' ≤ c && c ≤ '7' then
            let (n, after) := octal 3 0 (c :: rest)
            some (byteOf n, after)
          else none

/-- A text with its escapes carried out, and whether it ends all output: a zero may stand
before three octal digits, and the letter `c` is the end. -/
def unescape : Nat → Raw → Raw × Bool
  | 0, raw => (raw, false)
  | _ + 1, [] => ([], false)
  | fuel + 1, '\\' :: rest =>
      match rest with
      | 'c' :: _ => ([], true)
      | '0' :: digits =>
          let (n, after) := octal 3 0 digits
          let (more, ended) := unescape fuel after
          (byteOf n :: more, ended)
      | _ =>
          match escaped? rest with
          | some (c, after) =>
              let (more, ended) := unescape fuel after
              (c :: more, ended)
          | none =>
              let (more, ended) := unescape fuel rest
              ('\\' :: more, ended)
  | fuel + 1, c :: rest =>
      let (more, ended) := unescape fuel rest
      (c :: more, ended)

/-- The words with spaces between them, escapes carried out, and an end of line unless
a first `-n` takes it away. -/
def echoText (args : List Raw) : Raw :=
  let (newline, words) : Bool × List Raw :=
    match args with
    | ['-', 'n'] :: rest => (false, rest)
    | words => (true, words)
  let text := Raw.join ' ' words
  let (text, ended) := unescape (text.length + 1) text
  if newline && !ended then text ++ ['\n'] else text

/-- One conversion of a format: flags, width, places and letter. -/
structure Conversion where
  flags : List Char
  width : Nat
  places : Option Nat
  letter : Char

namespace Conversion

def place (c : Conversion) (text : Raw) : Raw :=
  if c.flags.contains '-' then Raw.padRight c.width text else Raw.padLeft c.width text

/-- A number behind its sign, filled up with zeros where the flags say so. -/
def placeNumber (c : Conversion) (sign digits : Raw) (zeros : Bool) : Raw :=
  if zeros && c.flags.contains '0' && !c.flags.contains '-' then
    sign ++ List.replicate (c.width - sign.length - digits.length) '0' ++ digits
  else c.place (sign ++ digits)

def signOf (c : Conversion) (minus : Bool) : Raw :=
  if minus then ['-']
  else if c.flags.contains '+' then ['+']
  else if c.flags.contains ' ' then [' ']
  else []

def atLeastPlaces (c : Conversion) (digits : Raw) : Raw :=
  match c.places with
  | some n => if n = 0 && digits = ['0'] then [] else List.replicate (n - digits.length) '0' ++ digits
  | none => digits

def ofInt (c : Conversion) (n : Int) : Raw :=
  c.placeNumber (c.signOf (n < 0)) (c.atLeastPlaces (Raw.ofNat n.natAbs)) c.places.isNone

def ofNat (c : Conversion) (n : Nat) : Raw :=
  let base := match c.letter with | 'o' => 8 | 'u' => 10 | _ => 16
  let digits := Nat.toDigits base n
  let digits := if c.letter = 'X' then digits.map Char.toUpper else digits
  let marked := c.flags.contains '#'
  let digits := c.atLeastPlaces digits
  let digits := if marked && c.letter = 'o' && digits.head? ≠ some '0' then '0' :: digits else digits
  let front : Raw :=
    if marked && n ≠ 0 && base = 16 then ['0', c.letter] else []
  c.placeNumber front digits c.places.isNone

def ofFloat (c : Conversion) (x : Float) : Raw :=
  let text := Decimal.writeRounded x c.letter.toLower (c.places.getD 6) (c.flags.contains '#')
  let text := if c.letter.isUpper then text.map Char.toUpper else text
  c.placeNumber (c.signOf (Decimal.isBelowZero x)) text (!(x.isNaN || x.isInf))

def ofText (c : Conversion) (raw : Raw) : Raw :=
  c.place (match c.places with | some n => raw.take n | none => raw)

end Conversion

inductive FormatTrouble where
  | notNumber (arg : Raw)
  | leftOver (arg : Raw)
  | outOfRange (arg : Raw)
  | unknown (directive : Raw)
  | unfinished (directive : Raw)

def FormatTrouble.message : FormatTrouble → Raw
  | notNumber arg => arg ++ ": expected numeric value".toList
  | leftOver arg => arg ++ ": not completely converted".toList
  | outOfRange arg => arg ++ ": Numerical result out of range".toList
  | unknown directive => directive ++ ": invalid directive".toList
  | unfinished _ => "missing format character".toList

/-- How far a format has been filled in: the arguments that are left, what was written and
what was wrong, both the last one first. -/
structure Filling where
  args : List Raw
  written : Raw
  troubles : List FormatTrouble
  used : Bool
  /-- Nothing more is written, and the status if that is an error. -/
  ended : Option Nat

namespace Filling

def write (f : Filling) (raw : Raw) : Filling :=
  { f with written := raw.reverse ++ f.written }

def complain (f : Filling) (trouble : FormatTrouble) : Filling :=
  { f with troubles := trouble :: f.troubles }

def next (f : Filling) : Option Raw × Filling :=
  (f.args.head?, { f with args := f.args.tail, used := f.used || !f.args.isEmpty })

/-- Complains about an argument of which something is left behind its number. -/
def checked (f : Filling) (arg rest : Raw) (inRange : Bool) : Filling :=
  if !rest.isEmpty then
    f.complain (if rest = arg then .notNumber arg else .leftOver arg)
  else if inRange then f
  else f.complain (.outOfRange arg)

/-- The number of the next argument; behind a quote it is the number of a character. -/
def nextInt (f : Filling) (low high : Int) : Int × Filling :=
  match f.next with
  | (none, f) => (0, f)
  | (some arg, f) =>
      match arg with
      | '\'' :: rest => ((rest.head?.map fun c => (c.toNat : Int)).getD 0, f)
      | '"' :: rest => ((rest.head?.map fun c => (c.toNat : Int)).getD 0, f)
      | _ =>
          match Shell.Sum.signed? (Raw.trimLeft Raw.isSpace arg) with
          | none => (0, f.checked arg arg true)
          | some (n, rest) => (max low (min high n), f.checked arg rest (low ≤ n && n ≤ high))

def nextFloat (f : Filling) : Float × Filling :=
  match f.next with
  | (none, f) => (0.0, f)
  | (some arg, f) =>
      match arg with
      | '\'' :: rest => (Float.ofNat ((rest.head?.map Char.toNat).getD 0), f)
      | '"' :: rest => (Float.ofNat ((rest.head?.map Char.toNat).getD 0), f)
      | _ =>
          match Decimal.readFraction? (Raw.trimLeft Raw.isSpace arg) with
          | none => (0.0, f.checked arg arg true)
          | some (x, rest) =>
              let named := arg.any fun c => c = 'i' || c = 'I'
              (x, f.checked arg rest (!x.isInf || named))

def width (f : Filling) (source : Raw) : Option Int × Raw × Filling :=
  match source with
  | '*' :: rest =>
      let (n, f) := f.nextInt (-2147483648) 2147483647
      (some n, rest, f)
  | _ =>
      let digits := source.takeWhile Char.isDigit
      (if digits.isEmpty then none else some (Raw.digitsValue digits), source.drop digits.length, f)

def stop (f : Filling) (status : Nat) : Filling :=
  { f with ended := some status }

def convert (f : Filling) (c : Conversion) (source : Raw) : Filling :=
  let words := (-9223372036854775808, 9223372036854775807)
  match c.letter with
  | 's' =>
      let (arg, f) := f.next
      f.write (c.ofText (arg.getD []))
  | 'c' =>
      let (arg, f) := f.next
      f.write (c.place [((arg.getD []).head?.getD '\x00')])
  | 'b' =>
      let (arg, f) := f.next
      let arg := arg.getD []
      let (text, ended) := unescape (arg.length + 1) arg
      let f := f.write (c.ofText text)
      if ended then f.stop 0 else f
  | 'd' | 'i' =>
      let (n, f) := f.nextInt words.1 words.2
      f.write (c.ofInt n)
  | 'o' | 'u' | 'x' | 'X' =>
      let (n, f) := f.nextInt (-18446744073709551615) 18446744073709551615
      f.write (c.ofNat (n % 18446744073709551616).toNat)
  | 'e' | 'E' | 'f' | 'F' | 'g' | 'G' =>
      let (x, f) := f.nextFloat
      f.write (c.ofFloat x)
  | _ => (f.complain (.unknown source)).stop 2

def pass : Nat → Raw → Filling → Filling
  | 0, _, f => f
  | _ + 1, [], f => f
  | fuel + 1, '\\' :: rest, f =>
      let (c, after) := (escaped? rest).getD ('\\', rest)
      pass fuel after (f.write [c])
  | fuel + 1, '%' :: '%' :: rest, f => pass fuel rest (f.write ['%'])
  | fuel + 1, '%' :: rest, f =>
      let flags := rest.takeWhile fun c => "#-+ 0".toList.contains c
      let (width, after, f) := f.width (rest.drop flags.length)
      let (places, after, f) : Option Int × Raw × Filling :=
        match after with
        | '.' :: more =>
            let (places, after, f) := f.width more
            (some (places.getD 0), after, f)
        | _ => (none, after, f)
      match after with
      | [] => (f.complain (.unfinished ('%' :: rest))).stop 2
      | letter :: after =>
          let flags := if (width.getD 0) < 0 then '-' :: flags else flags
          let places := places >>= fun n => if n < 0 then none else some n.toNat
          let source := ('%' :: rest).take (rest.length + 1 - after.length)
          let f := f.convert ⟨flags, (width.getD 0).natAbs, places, letter⟩ source
          if f.ended.isSome then f else pass fuel after f
  | fuel + 1, c :: rest, f => pass fuel rest (f.write [c])

def passes (source : Raw) : Nat → Filling → Filling
  | 0, f => f
  | fuel + 1, f =>
      let f := pass (source.length + 1) source { f with used := false }
      if f.ended.isSome || !f.used || f.args.isEmpty then f else passes source fuel f

end Filling

def fill (source : Raw) (args : List Raw) : Filling :=
  Filling.passes source (args.length + 1) ⟨args, [], [], false, none⟩

/-- What a format writes with arguments, what is wrong with them, and the status. -/
def format (source : Raw) (args : List Raw) : Raw × List FormatTrouble × Nat :=
  let f := fill source args
  let status := max (f.ended.getD 0) (if f.troubles.isEmpty then 0 else 1)
  (f.written.reverse, f.troubles.reverse, status)

end LintBridge.Tool
