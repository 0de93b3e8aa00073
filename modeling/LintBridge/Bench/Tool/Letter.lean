import LintBridge.Bench.Tool.Format
import LintBridge.Bench.Tool.Place

/-!
# Letters exchanged

Bytes of a first set are replaced by those of a second one, taken away, or written once
where they stand several times.
-/

set_option autoImplicit false

namespace LintBridge.Tool

namespace Letter

inductive Piece where
  | one (c : Char)
  | range (first last : Char)
  | kind (name : String)
  /-- A byte so many times; zero is as often as there is need for. -/
  | many (c : Char) (count : Nat)
  deriving DecidableEq

inductive Fault where
  | reversed (first last : Raw)
  | unknownKind (name : Raw)
  | emptyKind
  | badCount (text : Raw)

def Fault.message : Fault → Raw
  | reversed first last =>
      "range-endpoints of '".toList ++ first ++ '-' :: last
        ++ "' are in reverse collating sequence order".toList
  | unknownKind name => "invalid character class ".toList ++ quote name
  | emptyKind => "missing character class name '[::]'".toList
  | badCount text =>
      "invalid repeat count ".toList ++ quote text ++ " in [c*n] construct".toList

abbrev Mark := Char × Bool

def marks : Nat → Raw → List Mark
  | 0, _ => []
  | _ + 1, [] => []
  | fuel + 1, '\\' :: c :: rest =>
      match escaped? (c :: rest) with
      | some (e, after) => (e, true) :: marks fuel after
      | none => (c, true) :: marks fuel rest
  | fuel + 1, c :: rest => (c, false) :: marks fuel rest

def kindAt? : List Mark → Option (Raw × List Mark)
  | ('[', false) :: (':', false) :: rest =>
      let name := rest.takeWhile fun m => m ≠ (':', false)
      match rest.drop name.length with
      | (':', false) :: (']', false) :: after => some (name.map (·.1), after)
      | _ => none
  | _ => none

def equalAt? : List Mark → Option (Char × List Mark)
  | ('[', false) :: ('=', false) :: (c, _) :: ('=', false) :: (']', false) :: after => some (c, after)
  | _ => none

def manyAt? : List Mark → Option (Char × Raw × List Mark)
  | ('[', false) :: (c, _) :: ('*', false) :: rest =>
      let count := rest.takeWhile fun m => m ≠ (']', false)
      match rest.drop count.length with
      | _ :: after => if count.all (fun m => !m.2) then some (c, count.map (·.1), after) else none
      | [] => none
  | _ => none

def shownMark (c : Char) : Raw :=
  if ' ' ≤ c && c ≤ '~' then [c] else octalEscape c

def kindNames : List String :=
  ["alnum", "alpha", "blank", "cntrl", "digit", "graph", "lower", "print", "punct", "space",
   "upper", "xdigit"]

def pieces : Nat → List Mark → Except Fault (List Piece)
  | 0, _ => .ok []
  | _ + 1, [] => .ok []
  | fuel + 1, m :: rest =>
      match kindAt? (m :: rest) with
      | some (name, after) =>
          if name.isEmpty then .error .emptyKind
          else if kindNames.contains (String.ofList name) then
            (pieces fuel after).map (.kind (String.ofList name) :: ·)
          else .error (.unknownKind name)
      | none =>
          match equalAt? (m :: rest), manyAt? (m :: rest) with
          | some (c, after), _ => (pieces fuel after).map (.one c :: ·)
          | none, some (c, count, after) =>
              let base := if count.head? = some '0' then 8 else 10
              match count.mapM fun d => if d.isDigit && d.toNat - 48 < base then some (d.toNat - 48) else none with
              | some digits =>
                  (pieces fuel after).map (.many c (digits.foldl (fun n d => n * base + d) 0) :: ·)
              | none => .error (.badCount count)
          | none, none =>
              match rest with
              | ('-', false) :: last :: after =>
                  if last.1 < m.1 then .error (.reversed (shownMark m.1) (shownMark last.1))
                  else (pieces fuel after).map (.range m.1 last.1 :: ·)
              | _ => (pieces fuel rest).map (.one m.1 :: ·)

def read (text : Raw) : Except Fault (List Piece) :=
  let found := marks (text.length + 1) text
  pieces (found.length + 1) found

def allBytes : List Char :=
  (List.range 256).map Char.ofNat

def isOfKind (name : String) (c : Char) : Bool :=
  match name with
  | "alnum" => c.isAlphanum
  | "alpha" => c.isAlpha
  | "blank" => Raw.isBlank c
  | "cntrl" => c.toNat < 32 || c = '\x7f'
  | "digit" => c.isDigit
  | "graph" => '!' ≤ c && c ≤ '~'
  | "lower" => c.isLower
  | "print" => ' ' ≤ c && c ≤ '~'
  | "punct" => '!' ≤ c && c ≤ '~' && !c.isAlphanum
  | "space" => Raw.isSpace c
  | "upper" => c.isUpper
  | _ => c.isDigit || ('a' ≤ c.toLower && c.toLower ≤ 'f')

/-- The bytes of a piece; one that fills up has so many. -/
def Piece.bytes (fill : Nat) : Piece → List Char
  | one c => [c]
  | range first last => ((List.range (last.toNat + 1)).drop first.toNat).map Char.ofNat
  | kind name => allBytes.filter (isOfKind name)
  | many c 0 => List.replicate fill c
  | many c n => List.replicate n c

/-- The bytes of a set; a piece that fills up makes it as long as another one. -/
def bytes (pieces : List Piece) (size : Nat) : List Char :=
  let own := (pieces.flatMap (Piece.bytes 0)).length
  pieces.flatMap (Piece.bytes (size - own))

def isCaseKind : Piece → Bool
  | .kind name => name = "upper" || name = "lower"
  | _ => false

/-- The second set as long as the first one: its last byte again and again. -/
def extended (first second : List Char) : List Char :=
  match second.getLast? with
  | some c => second ++ List.replicate (first.length - second.length) c
  | none => second

/-- A table of what each byte becomes; the last entry of a byte counts. -/
def table (first second : List Char) : Array Char :=
  (first.zip second).foldl (fun table p => table.setIfInBounds p.1.toNat p.2) allBytes.toArray

def apply (table : Array Char) (raw : Raw) : Raw :=
  raw.map fun c => (table[c.toNat]?).getD c

/-- Of several bytes of a set that are the same and stand together one is kept. -/
def squeezed (isIn : Char → Bool) : Option Char → Raw → Raw
  | _, [] => []
  | before, c :: rest =>
      if before = some c && isIn c then squeezed isIn before rest
      else c :: squeezed isIn (some c) rest

def member (set : List Char) : Char → Bool :=
  let flags := set.foldl (fun (flags : Array Bool) c => flags.setIfInBounds c.toNat true)
    (Array.replicate 256 false)
  fun c => (flags[c.toNat]?).getD false

end Letter

open Letter in
def tr (t : Errand) (c : Choices) : Product :=
  let deletes := c.has 'd'
  let squeezes := c.has 's'
  let others := c.has 'c' || c.has 'C'
  let note (text : Raw) (more : Raw) : Product :=
    (t.quiet 1).grumble (t.line text ++ (if more.isEmpty then [] else more ++ ['\n']) ++ t.advice)
  match c.operands with
  | [] => lacks t "missing operand" 1
  | [first] =>
      if !deletes && !squeezes then
        note ("missing operand after ".toList ++ quote first)
          "Two strings must be given when translating.".toList
      else if deletes && squeezes then
        note ("missing operand after ".toList ++ quote first)
          "Two strings must be given when both deleting and squeezing repeats.".toList
      else
        match read first with
        | .error fault => t.complaint fault.message 1
        | .ok found =>
            let set := bytes found 0
            let isIn (d : Char) : Bool := member set d != others
            if deletes then t.said (t.input.filter (!isIn ·))
            else t.said (squeezed isIn none t.input)
  | [first, second] =>
      if deletes && !squeezes then
        note ("extra operand ".toList ++ quote second)
          "Only one string may be given when deleting without squeezing repeats.".toList
      else
        match read first, read second with
        | .error fault, _ | _, .error fault => t.complaint fault.message 1
        | .ok a, .ok b =>
            let listed := bytes a 0
            let set := if others then allBytes.filter (!member listed ·) else listed
            let into := bytes b set.length
            if deletes then
              t.said (squeezed (member into) none (t.input.filter (!member set ·)))
            else if b.any fun p => (match p with | .kind _ => true | _ => false) && !isCaseKind p then
              t.complaint ("when translating, the only character classes that may appear in\n".toList
                ++ "string2 are 'upper' and 'lower'".toList) 1
            else if into.isEmpty && !c.has 't' then
              t.complaint "when not truncating set1, string2 must be non-empty".toList 1
            else
              let into := if c.has 't' then into else extended set into
              let changed := apply (table set into) t.input
              t.said (if squeezes then squeezed (member into) none changed else changed)
  | _ :: _ :: extra :: _ => note ("extra operand ".toList ++ quote extra) []

def trOptions : OptionTable :=
  { (OptionTable.ofLetters "cCdst" "").withWords
      [("complement", 'c'), ("delete", 'd'), ("squeeze-repeats", 's'), ("truncate-set1", 't')] with
    mixed := false }

end LintBridge.Tool
