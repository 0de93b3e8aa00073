import LintBridge.Bench.Rule.Reader
import LintBridge.Bench.Rule.Value
import LintBridge.Bench.Shell.State

/-!
# The course of a script of rules

What a script of rules works on: the record and its parts, variables and tables, and what
is read and written.
-/

set_option autoImplicit false

namespace LintBridge.Rule

open Pattern (Regex)
open Pattern.Regex (Field)

inductive Binding where
  | value (v : Value)
  | table (id : Nat)
  /-- Nothing yet; it can become a table that others share. -/
  | loose (id : Nat)

inductive Flow where
  | go
  | leave
  | goOn
  | next
  | nextFile
  | exit
  | back (v : Value)
  | broken
  | hung

structure Course where
  shell : Shell.State
  script : Script
  called : Raw
  globals : List (String × Binding)
  locals : List (String × Binding)
  depth : Nat
  tables : List (Nat × List (Raw × Value))
  freshTable : Nat
  record : Raw
  parts : Array Value
  nextArg : Nat
  input : Option Raw
  /-- A file was among the arguments, or the input was taken in their place. -/
  hasInput : Bool
  sources : List ((Bool × Raw) × Raw)
  written : List Raw
  /-- The commands that are written to, and what for, the last one first. -/
  pipes : List (Raw × Raw)
  /-- What was written to the output, the last piece first. -/
  out : List Raw
  active : List Nat
  flow : Flow
  status : Nat
  seed : Nat

namespace Course

def goes (c : Course) : Bool :=
  match c.flow with
  | .go => true
  | _ => false

def flush (c : Course) : Course :=
  { c with shell := c.shell.send 1 c.out.reverse.flatten, out := [] }

def breakOff (c : Course) (text : Raw) : Course :=
  let c := c.flush
  { c with
    shell := c.shell.send 2 (c.called ++ ':' :: ' ' :: text ++ ['\n']), flow := .broken, status := 2 }

/-! ## Variables -/

def binding? (c : Course) (name : String) : Option Binding :=
  ((c.locals.find? (·.1 = name)).orElse fun _ => c.globals.find? (·.1 = name)).map (·.2)

def bind (c : Course) (name : String) (b : Binding) : Course :=
  if c.locals.any (·.1 = name) then
    { c with locals := c.locals.map fun l => if l.1 = name then (name, b) else l }
  else { c with globals := (name, b) :: c.globals.filter (·.1 ≠ name) }

def kept (c : Course) (name : String) : Value :=
  match c.binding? name with
  | some (.value v) => v
  | _ => .unset

def textOf (c : Course) (v : Value) : Raw :=
  match v with
  | .number x =>
      if Value.isWhole x then Value.numberText [] x
      else Value.numberText ((c.kept "CONVFMT").toText []) x
  | v => v.toText []

def keptText (c : Course) (name : String) : Raw :=
  c.textOf (c.kept name)

def shownText (c : Course) (v : Value) : Raw :=
  v.toText (c.keptText "OFMT")

/-! ## Tables -/

def table (c : Course) (id : Nat) : List (Raw × Value) :=
  ((c.tables.find? (·.1 = id)).map (·.2)).getD []

def setTable (c : Course) (id : Nat) (entries : List (Raw × Value)) : Course :=
  { c with tables := (id, entries) :: c.tables.filter (·.1 ≠ id) }

/-- The table of a name, which may come to be one; none for a value. -/
def tableId? (c : Course) (name : String) : Option Nat × Course :=
  match c.binding? name with
  | some (.table id) => (some id, c)
  | some (.loose id) => (some id, c.bind name (.table id))
  | some (.value .unset) | none =>
      let id := c.freshTable
      (some id, { c with freshTable := id + 1 }.bind name (.table id))
  | some (.value _) => (none, c)

def element (c : Course) (id : Nat) (key : Raw) : Value × Course :=
  let entries := c.table id
  match entries.find? (·.1 = key) with
  | some e => (e.2, c)
  | none => (.unset, c.setTable id ((key, .unset) :: entries))

def setElement (c : Course) (id : Nat) (key : Raw) (v : Value) : Course :=
  let entries := c.table id
  if entries.any (·.1 = key) then
    c.setTable id (entries.map fun e => if e.1 = key then (key, v) else e)
  else c.setTable id ((key, v) :: entries)

/-- The place of a key in the order in which loops go through a table. -/
def keyPlace (key : Raw) : Nat :=
  let hash := key.foldl (fun h c => Nat.xor h c.toNat * 16777619 % 4294967296) 2166136261
  hash % 64

def keysOf (c : Course) (id : Nat) : List Raw :=
  ((c.table id).map (·.1)).mergeSort fun a b => keyPlace a ≤ keyPlace b

/-! ## Patterns -/

def fieldOf (text : Raw) : Field :=
  ⟨text.toArray, false, false⟩

def firstMatch? (r : Regex) (f : Field) (place : Nat) : Option (Nat × Nat) :=
  (r.find? f place).map fun found => (found.1, found.2.place)

def cutAt (r : Regex) (f : Field) : Nat → Nat → Nat → List Raw
  | 0, first, _ => [f.part first f.text.size]
  | fuel + 1, first, place =>
      match firstMatch? r f place with
      | none => [f.part first f.text.size]
      | some (a, b) =>
          if a = b then
            if f.text.size ≤ a then [f.part first f.text.size] else cutAt r f fuel first (a + 1)
          else f.part first a :: cutAt r f fuel b b

def words (text : Raw) : List Raw :=
  (splitWords text).filter fun w => !w.isEmpty
where
  splitWords (text : Raw) : List Raw :=
    Raw.split ' ' (text.map fun c => if Raw.isSpace c then ' ' else c)

/-- The parts of a text between separators: words for a blank, characters for nothing. -/
def splitText (separator : Raw) (text : Raw) : Except Raw (List Raw) :=
  if text.isEmpty then .ok []
  else
    match separator with
    | [' '] => .ok (words text)
    | [] => .ok (text.map fun c => [c])
    | [c] => .ok (Raw.split c text)
    | source =>
        match patternOf source with
        | .ok r => .ok (cutAt r (fieldOf text) (text.length + 1) 0 0)
        | .error trouble => .error (badPattern trouble source)

/-! ## Records -/

def setRecord (c : Course) (text : Raw) : Course :=
  let separator := c.keptText "FS"
  let separator :=
    if (c.keptText "RS").isEmpty && separator ≠ [' '] then
      (if separator.length = 1 then '[' :: separator ++ "\n]".toList
        else '(' :: separator ++ ")|\n".toList)
    else separator
  match splitText separator text with
  | .ok parts =>
      { c with record := text, parts := (parts.map Value.input).toArray }
  | .error text => c.breakOff text

def joined (c : Course) : Course :=
  let separator := c.keptText "OFS"
  { c with record := ((c.parts.toList.map c.textOf).intersperse separator).flatten }

def part (c : Course) (n : Nat) : Value :=
  if n = 0 then .input c.record else (c.parts[n - 1]?).getD .unset

def setSize (c : Course) (n : Nat) : Course :=
  let parts :=
    if n ≤ c.parts.size then c.parts.extract 0 n
    else c.parts ++ (List.replicate (n - c.parts.size) (Value.text [])).toArray
  { c with parts }.joined

def setPart (c : Course) (n : Nat) (v : Value) : Course :=
  if n = 0 then c.setRecord (c.textOf v)
  else
    let c := if c.parts.size < n then c.setSize n else c
    { c with parts := c.parts.set! (n - 1) v }.joined

def nextRecord? (c : Course) (text : Raw) : Option (Raw × Raw) :=
  if text.isEmpty then none
  else
    match c.keptText "RS" with
    | [mark] =>
        let own := text.takeWhile (· ≠ mark)
        some (own, text.drop (own.length + 1))
    | [] =>
        match text.dropWhile (· = '\n') with
        | [] => none
        | body =>
            let own := paragraph body
            some (own, (body.drop own.length).dropWhile (· = '\n'))
    | source =>
        match patternOf source with
        | .error _ => some (text, [])
        | .ok r =>
            match firstMatch? r (fieldOf text) 0 with
            | some (a, b) => if a < b then some (text.take a, text.drop b) else some (text, [])
            | none => some ((if text.getLast? = some '\n' then text.dropLast else text), [])
where
  paragraph : Raw → Raw
    | '\n' :: '\n' :: _ => []
    | ['\n'] => []
    | c :: rest => c :: paragraph rest
    | [] => []

/-! ## Names with a meaning of their own -/

def look (c : Course) (name : String) : Value :=
  if name = "NF" then .ofNat c.parts.size else c.kept name

def assign (c : Course) (name : String) (v : Value) : Course :=
  match c.binding? name with
  | some (.table _) =>
      c.breakOff ("type error in assignment to ".toList ++ name.toList)
  | _ =>
      if name = "NF" then c.setSize (v.toInt.toNat) else c.bind name (.value v)

def count (c : Course) (names : List String) : Course :=
  names.foldl (fun c name => c.bind name (.value (.number ((c.kept name).toNumber + 1.0)))) c

end Course

end LintBridge.Rule
