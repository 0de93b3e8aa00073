import LintBridge.Bench.Tool.Display

/-!
# Both ends of texts

The first or last lines or bytes of files.  An amount is a number, with a letter that
multiplies it or without; a sign says that it is counted from the other end.
-/

set_option autoImplicit false

namespace LintBridge.Tool

def multiple? (letters : Raw) : Option Nat :=
  let power (c : Char) : Option Nat :=
    match c.toUpper with
    | 'K' => some 1
    | 'M' => some 2
    | 'G' => some 3
    | 'T' => some 4
    | 'P' => some 5
    | 'E' => some 6
    | _ => none
  match letters with
  | [] => some 1
  | ['b'] => some 512
  | [c] | [c, 'i', 'B'] => (power c).map (Nat.pow 1024 ·)
  | [c, 'B'] => (power c).map (Nat.pow 1000 ·)
  | _ => none

def amount? (raw : Raw) : Option Nat :=
  let digits := raw.takeWhile Char.isDigit
  if digits.isEmpty then none
  else (multiple? (raw.drop digits.length)).map (Raw.digitsValue digits * ·)

namespace Ends

structure Cut where
  amount : Nat
  bytes : Bool
  /-- The amount is counted from the end that is not kept. -/
  others : Bool

def splitLines : Nat → Raw → Raw × Raw
  | 0, raw => ([], raw)
  | n + 1, raw =>
      let line := raw.takeWhile (· ≠ '\n')
      match raw.drop line.length with
      | [] => (raw, [])
      | c :: rest =>
          let (more, after) := splitLines n rest
          (line ++ c :: more, after)

/-- The part of a text up to where a cut is made, and what is behind it. -/
def Cut.split (cut : Cut) (raw : Raw) (fromEnd : Bool) : Raw × Raw :=
  let size := if cut.bytes then raw.length else (Raw.wholeLines raw).length
  let n := if fromEnd then size - cut.amount else cut.amount
  if cut.bytes then (raw.take n, raw.drop n) else splitLines n raw

def Cut.head (cut : Cut) (raw : Raw) : Raw × Raw :=
  cut.split raw cut.others

/-- What stands at the end; a count from the beginning starts with one. -/
def Cut.tail (cut : Cut) (raw : Raw) : Raw :=
  if cut.others then ({ cut with amount := cut.amount - 1 }.split raw false).2
  else (cut.split raw true).2

def title (t : Errand) (first : Bool) (name : Raw) : Product :=
  let shown : Raw := if name = ['-'] then "standard input".toList else name
  t.said ((if first then [] else ['\n']) ++ "==> ".toList ++ shown ++ " <==\n".toList)

/-- Shows a part of each file, under titles if there are several. -/
def shown (t : Errand) (c : Choices) (part : Raw → Raw × Raw) : Product :=
  let titled : Bool := match c.last? ['q', 'v'] with
    | some letter => letter = 'v'
    | none => 1 < c.operands.length
  ((t.sources c.operands).foldl
    (fun (p, first) item =>
      let above (first : Bool) : Product := if titled then title t first item.1 else t.quiet 0
      match item.2 with
      | .ok raw =>
          let (shown, rest) := part raw
          let own := (above first).andAlso (t.said shown)
          (p.andAlso (if isInput item.1 then own.leaving rest else own), false)
      | .error .isADirectory =>
          let refused :=
            t.complaint ("error reading ".toList ++ quoteAlways item.1 ++ ": Is a directory".toList) 1
          (p.andAlso ((above first).andAlso refused), false)
      | .error e =>
          let refused :=
            t.complaint ("cannot open ".toList ++ quoteAlways item.1 ++ " for reading: ".toList
              ++ e.reason) 1
          (p.andAlso refused, first))
    (t.quiet 0, true)).1

/-- A first argument that is a number in the old way, as options. -/
def modernArgs (signs : List Char) (args : List Raw) : List Raw :=
  match args with
  | (sign :: c :: more) :: rest =>
      if signs.contains sign && c.isDigit then
        let digits := (c :: more).takeWhile Char.isDigit
        let letters := (c :: more).drop digits.length
        if letters.all "bcflqv".toList.contains then
          let unit : Raw := if letters.contains 'c' then ['-', 'c'] else ['-', 'n']
          let value := if sign = '+' then '+' :: digits else digits
          let others := letters.filter "fqv".toList.contains
          unit :: value :: (if others.isEmpty then rest else ('-' :: others) :: rest)
        else args
      else args
  | _ => args

def options : OptionTable :=
  (OptionTable.ofLetters "qvfFz" "cns").withWords
    [("lines", 'n'), ("bytes", 'c'), ("quiet", 'q'), ("silent", 'q'), ("verbose", 'v'),
     ("follow", 'f'), ("zero-terminated", 'z')]

/-- The cut that options ask for; the error is the complaint about one that is none. -/
def cutOf (c : Choices) (otherSign : Char) : Except Raw Cut :=
  match c.last? ['c', 'n'] with
  | none => .ok ⟨10, false, false⟩
  | some letter =>
      let text := (c.value? letter).getD []
      let bytes := letter = 'c'
      let (others, digits) : Bool × Raw :=
        match text with
        | '+' :: rest => (otherSign = '+', rest)
        | '-' :: rest => (otherSign = '-', rest)
        | _ => (false, text)
      match amount? digits with
      | some amount => .ok ⟨amount, bytes, others⟩
      | none =>
          let what : String :=
            if bytes then "invalid number of bytes: " else "invalid number of lines: "
          .error (what.toList ++ quote (if otherSign = '-' then text.dropWhile (· = '-') else text))

def head (t : Errand) (c : Choices) : Product :=
  match cutOf c '-' with
  | .error text => t.complaint text 1
  | .ok cut => shown t c cut.head

def tail (t : Errand) (c : Choices) : Product :=
  match cutOf c '+' with
  | .error text => t.complaint text 1
  | .ok cut =>
      let p := shown t c fun raw => (cut.tail raw, [])
      if (c.has 'f' || c.has 'F') && !c.operands.isEmpty && p.status = 0 then
        { p with ending := .never }
      else p

end Ends

end LintBridge.Tool
