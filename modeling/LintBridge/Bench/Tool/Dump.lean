import LintBridge.Bench.Tool.Ends
import LintBridge.Bench.Tool.Place

/-!
# Bytes shown

Bytes as numbers and characters in columns, and bytes as letters that every program lets
through.
-/

set_option autoImplicit false

namespace LintBridge.Tool

namespace Dump

inductive Form where
  | character
  | name
  /-- Numbers of so many bytes in a base; with signs or not. -/
  | number (size base : Nat) (signed : Bool)
  deriving DecidableEq

def Form.width : Form → Nat
  | character | name => 3
  | number size 16 _ => 2 * size
  | number size 8 _ => (8 * size + 2) / 3
  | number 1 _ signed => if signed then 4 else 3
  | number 2 _ signed => if signed then 6 else 5
  | number 4 _ signed => if signed then 11 else 10
  | number _ _ _ => 20

def Form.size : Form → Nat
  | number size _ _ => size
  | _ => 1

def controlNames : List String :=
  ["nul", "soh", "stx", "etx", "eot", "enq", "ack", "bel", "bs", "ht", "nl", "vt", "ff", "cr",
   "so", "si", "dle", "dc1", "dc2", "dc3", "dc4", "nak", "syn", "etb", "can", "em", "sub", "esc",
   "fs", "gs", "rs", "us", "sp"]

def shownByte (c : Char) : Raw :=
  if c = '\x00' then ['\\', '0']
  else
    match controlLetter? c with
    | some letter => ['\\', letter]
    | none => if ' ' ≤ c && c ≤ '~' then [c] else (octalEscape c).drop 1

def namedByte (c : Char) : Raw :=
  let n := c.toNat % 128
  if n = 127 then "del".toList
  else
    match controlNames[n]? with
    | some name => name.toList
    | none => [Char.ofNat n]

def valueOf (bytes : Raw) : Nat :=
  bytes.foldr (fun c n => n * 256 + c.toNat) 0

def Form.shown (f : Form) (bytes : Raw) : Raw :=
  match f with
  | character => Raw.padLeft 3 ((bytes.head?.map shownByte).getD [])
  | name => Raw.padLeft 3 ((bytes.head?.map namedByte).getD [])
  | number size base signed =>
      let n := valueOf bytes
      let limit := Nat.pow 256 size
      if base = 10 then
        let value : Int := if signed && limit ≤ 2 * n then (n : Int) - limit else n
        Raw.padLeft f.width (Raw.ofInt value)
      else
        let digits := Nat.toDigits base n
        List.replicate (f.width - digits.length) '0' ++ digits

/-- Pieces of so many bytes; the last one is filled up with zeros. -/
def pieces (size : Nat) : Nat → Raw → List Raw
  | 0, _ => []
  | fuel + 1, raw =>
      if raw.isEmpty then []
      else
        let piece := raw.take size
        (piece ++ List.replicate (size - piece.length) '\x00') :: pieces size fuel (raw.drop size)

def rows (size : Nat) : Nat → Raw → List Raw
  | 0, _ => []
  | fuel + 1, raw => if raw.isEmpty then [] else raw.take size :: rows size fuel (raw.drop size)

/-- The forms that a text asks for; the error is the first letter that is none. -/
def formsOf : Nat → Raw → Except Char (List (Form × Bool))
  | 0, _ => .ok []
  | _ + 1, [] => .ok []
  | fuel + 1, c :: rest =>
      let (size, rest) : Nat × Raw :=
        match rest with
        | 'C' :: more => (1, more)
        | 'S' :: more => (2, more)
        | 'I' :: more => (4, more)
        | 'L' :: more => (8, more)
        | rest =>
            let digits := rest.takeWhile Char.isDigit
            (if digits.isEmpty then 4 else Raw.digitsValue digits, rest.drop digits.length)
      let (text, rest) : Bool × Raw :=
        match rest with
        | 'z' :: more => (true, more)
        | rest => (false, rest)
      let add (f : Form) : Except Char (List (Form × Bool)) :=
        (formsOf fuel rest).map ((f, text) :: ·)
      match c with
      | 'a' => add .name
      | 'c' => add .character
      | 'd' => add (.number size 10 true)
      | 'u' => add (.number size 10 false)
      | 'o' => add (.number size 8 false)
      | 'x' => add (.number size 16 false)
      | c => .error c

def address (base : Char) (n : Nat) : Raw :=
  let filled (width : Nat) (digits : Raw) : Raw :=
    List.replicate (width - digits.length) '0' ++ digits
  match base with
  | 'n' => []
  | 'd' => filled 7 (Raw.ofNat n)
  | 'x' => filled 6 (Nat.toDigits 16 n)
  | _ => filled 7 (Nat.toDigits 8 n)

/-- The width of a column for each byte that all forms can keep to. -/
def columnWidth (forms : List (Form × Bool)) (size : Nat) : Nat :=
  (forms.map fun f => (f.1.width + 1) * (size / f.1.size)).foldl max 0

def shownRow (forms : List (Form × Bool)) (base : Char) (width place : Nat) (row : Raw) : Raw :=
  let unit := (forms.map fun f => f.1.size).foldl max 1
  let column := columnWidth forms unit
  let lines := forms.map fun (f, text) =>
    let own := column / (unit / f.size)
    let cells := (pieces f.size (row.length + 1) row).map fun bytes =>
      List.replicate (own - f.width) ' ' ++ f.shown bytes
    let body := cells.flatten
    let whole := column * ((width + unit - 1) / unit)
    let back : Raw :=
      if text then
        List.replicate (whole - body.length) ' ' ++ "  >".toList
          ++ row.map (fun c => if ' ' ≤ c && c ≤ '~' then c else '.') ++ ['<']
      else []
    body ++ back
  let blank := List.replicate (address base place).length ' '
  (lines.zip (List.range lines.length)).flatMap fun (line, n) =>
    (if n = 0 then address base place else blank) ++ line ++ ['\n']

/-- All rows; rows that are the same as the one before stand as a star. -/
def shownRows (forms : List (Form × Bool)) (base : Char) (width : Nat) (full : Bool) :
    Nat → Option Raw → Bool → List Raw → Raw
  | place, _, _, [] => if base = 'n' then [] else address base place ++ ['\n']
  | place, before, starred, row :: rest =>
      if !full && before = some row && row.length = width && !(rest.isEmpty && row.length < width) then
        (if starred then [] else ['*', '\n'])
          ++ shownRows forms base width full (place + row.length) before true rest
      else
        shownRow forms base width place row
          ++ shownRows forms base width full (place + row.length) (some row) false rest

end Dump

open Dump in
def od (t : Errand) (c : Choices) : Product :=
  let oldForm (letter : Char) : Option Raw :=
    match letter with
    | 'a' => some ['a']
    | 'b' => some ['o', '1']
    | 'c' => some ['c']
    | 'd' => some ['u', '2']
    | 'i' => some ['d', '4']
    | 'l' => some ['d', '8']
    | 'o' => some ['o', '2']
    | 's' => some ['d', '2']
    | 'x' => some ['x', '2']
    | _ => none
  let texts := c.options.filterMap fun o => if o.1 = 't' then some o.2 else oldForm o.1
  let texts := if texts.isEmpty then [['o', '2']] else texts
  let forms : Except (Char × Raw) (List (Form × Bool)) :=
    texts.foldr
      (fun text found => do
        let others ← found
        match formsOf (text.length + 1) text with
        | .ok forms => return forms ++ others
        | .error letter => throw (letter, text))
      (.ok [])
  match forms with
  | .error (letter, text) =>
      t.complaint ("invalid character '".toList ++ letter :: "' in type string ".toList ++ quote text) 1
  | .ok forms =>
      let (raw, p) := t.gather c.operands 1
      let skipped := ((c.value? 'j').bind amount?).getD 0
      let raw := raw.drop skipped
      let raw := match (c.value? 'N').bind amount? with
        | some n => raw.take n
        | none => raw
      let width := max 1 (((c.value? 'w').bind fun w => if w.isEmpty then some 32 else Raw.nat? w).getD 16)
      let base := ((c.value? 'A').bind List.head?).getD 'o'
      let lines := rows width (raw.length + 1) raw
      p.andAlso (t.said (shownRows forms base width (c.has 'v') skipped none false lines))

def odOptions : OptionTable where
  flags := "abcdilosxv".toList
  valued := "AjNtS".toList
  words :=
    [("address-radix", 'A'), ("skip-bytes", 'j'), ("read-bytes", 'N'), ("format", 't'),
     ("output-duplicates", 'v'), ("width", 'w')]
  loose := ['w']
  mixed := true

namespace Base64

def letter (n : Nat) : Char :=
  if n < 26 then Char.ofNat (65 + n)
  else if n < 52 then Char.ofNat (71 + n)
  else if n < 62 then Char.ofNat (n - 4)
  else if n = 62 then '+'
  else '/'

def bits? (c : Char) : Option Nat :=
  if c.isUpper then some (c.toNat - 65)
  else if c.isLower then some (c.toNat - 71)
  else if c.isDigit then some (c.toNat + 4)
  else if c = '+' then some 62
  else if c = '/' then some 63
  else none

def encode : Raw → Raw
  | a :: b :: c :: rest =>
      let n := (a.toNat * 256 + b.toNat) * 256 + c.toNat
      letter (n / 262144) :: letter (n / 4096 % 64) :: letter (n / 64 % 64) :: letter (n % 64)
        :: encode rest
  | [a, b] =>
      let n := (a.toNat * 256 + b.toNat) * 4
      [letter (n / 4096), letter (n / 64 % 64), letter (n % 64), '=']
  | [a] =>
      let n := a.toNat * 16
      [letter (n / 64), letter (n % 64), '=', '=']
  | [] => []

def ofBits (n : Nat) : Char :=
  Char.ofNat (n % 256)

/-- The bytes that letters write, as far as they do, and whether all of them do. -/
def decode : Raw → Raw × Bool
  | [] => ([], true)
  | [a, b, '=', '='] =>
      match bits? a, bits? b with
      | some a, some b => ([ofBits ((a * 64 + b) / 16)], true)
      | _, _ => ([], false)
  | [a, b, c, '='] =>
      match bits? a, bits? b, bits? c with
      | some a, some b, some c =>
          let n := (a * 64 + b) * 64 + c
          ([ofBits (n / 1024), ofBits (n / 4)], true)
      | _, _, _ => ([], false)
  | a :: b :: c :: d :: rest =>
      match bits? a, bits? b, bits? c, bits? d with
      | some a, some b, some c, some d =>
          let n := ((a * 64 + b) * 64 + c) * 64 + d
          let (more, fine) := decode rest
          (ofBits (n / 65536) :: ofBits (n / 256) :: ofBits n :: more, fine)
      | some a, some b, some c, none =>
          let n := (a * 64 + b) * 64 + c
          ([ofBits (n / 1024), ofBits (n / 4)], false)
      | some a, some b, none, _ => ([ofBits ((a * 64 + b) / 16)], false)
      | _, _, _, _ => ([], false)
  | [a, b, c] =>
      match bits? a, bits? b, bits? c with
      | some a, some b, some c =>
          let n := (a * 64 + b) * 64 + c
          ([ofBits (n / 1024), ofBits (n / 4)], false)
      | _, _, _ => ([], false)
  | [a, b] =>
      match bits? a, bits? b with
      | some a, some b => ([ofBits ((a * 64 + b) / 16)], false)
      | _, _ => ([], false)
  | _ => ([], false)

end Base64

/-- Writes bytes as letters, or the bytes that letters stand for. -/
def base64 (t : Errand) (c : Choices) : Product :=
  let name := (c.operands.head?).getD ['-']
  match t.source name, c.operands with
  | _, _ :: extra :: _ => extraOperand t extra
  | .error e, _ => unread t name e
  | .ok raw, _ =>
      if c.has 'd' then
        let letters := raw.filter fun d =>
          if c.has 'i' then (Base64.bits? d).isSome || d = '=' else d ≠ '\n'
        let (bytes, fine) := Base64.decode letters
        let p := t.said bytes
        if fine then p else (p.grumble (t.line "invalid input".toList)).done 1
      else
        let width := ((c.value? 'w').bind Raw.nat?).getD 76
        let letters := Base64.encode raw
        if letters.isEmpty then t.quiet 0
        else if width = 0 then t.said letters
        else t.saidLines (Dump.rows width (letters.length + 1) letters)

def base64Options : OptionTable :=
  (OptionTable.ofLetters "di" "w").withWords [("decode", 'd'), ("ignore-garbage", 'i'), ("wrap", 'w')]

end LintBridge.Tool
