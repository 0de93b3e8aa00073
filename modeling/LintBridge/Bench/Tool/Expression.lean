import LintBridge.Bench.Pattern.Dialect
import LintBridge.Bench.Tool.Place

/-!
# Expressions

The value of an expression whose parts are the arguments of a tool.  A value is a text,
and a number where it is written as one.
-/

set_option autoImplicit false

namespace LintBridge.Expression

open Pattern (Dialect Regex)

inductive Trouble where
  | missingBehind (word : Raw)
  | unexpected (word : Raw)
  | unexpectedClose
  | missingClose (word : Raw)
  | notANumber
  | divisionByZero
  | badPattern (text : Raw)

def Trouble.message : Trouble → Raw
  | missingBehind word => "syntax error: missing argument after ".toList ++ Tool.quote word
  | unexpected word => "syntax error: unexpected argument ".toList ++ Tool.quote word
  | unexpectedClose => "syntax error: unexpected ')'".toList
  | missingClose word => "syntax error: expecting ')' after ".toList ++ Tool.quote word
  | notANumber => "non-integer argument".toList
  | divisionByZero => "division by zero".toList
  | badPattern text => text

def integer? (raw : Raw) : Option Int :=
  match raw with
  | '+' :: _ => none
  | _ => Raw.int? raw

def isNull (raw : Raw) : Bool :=
  let digits := match raw with
    | '-' :: rest => rest
    | raw => raw
  raw.isEmpty || (!digits.isEmpty && digits.all (· = '0'))

structure Course where
  before : Raw
  rest : List Raw

abbrev Reading (α : Type) := StateT Course (Except Trouble) α

def take : Reading Raw := do
  match (← get).rest with
  | word :: rest =>
      set (⟨word, rest⟩ : Course)
      return word
  | [] => throw (.missingBehind (← get).before)

def takeOneOf? (words : List String) : Reading (Option String) := do
  match (← get).rest with
  | word :: rest =>
      match words.find? (·.toList = word) with
      | some found =>
          set (⟨word, rest⟩ : Course)
          return some found
      | none => return none
  | [] => return none

def ofBool (b : Bool) : Raw :=
  if b then ['1'] else ['0']

/-- What a pattern matches at the beginning of a text: its group, or how many characters. -/
def matched (evaluated : Bool) (text pattern : Raw) : Reading Raw := do
  if !evaluated then return []
  match Dialect.plain.read (Raw.letters pattern) with
  | .error trouble => throw (.badPattern trouble.message.toList)
  | .ok (regex, groups) =>
      let f : Regex.Field := ⟨(Raw.letters text).toArray, false, false⟩
      match Regex.matchAt? f regex 0 with
      | none => return if groups = 0 then ['0'] else []
      | some spot =>
          if groups = 0 then return Raw.ofNat spot.place
          else
            match spot.group? 1 with
            | some (first, last) => return Raw.ofLetters (f.part first last)
            | none => return []

def numbers (evaluated : Bool) (a b : Raw) : Reading (Int × Int) := do
  if !evaluated then return (1, 1)
  match integer? a, integer? b with
  | some a, some b => return (a, b)
  | _, _ => throw .notANumber

def compared (sign : String) (a b : Raw) : Bool :=
  let order : Ordering :=
    match integer? a, integer? b with
    | some a, some b => compare a b
    | _, _ => if a = b then .eq else if Raw.le a b then .lt else .gt
  match sign with
  | "<" => order = .lt
  | "<=" => order ≠ .gt
  | "=" | "==" => order = .eq
  | "!=" => order ≠ .eq
  | ">=" => order ≠ .lt
  | _ => order = .gt

/-- The part of a text from a place on, counted from one, so many characters long. -/
def cutOut (text start size : Raw) : Raw :=
  match integer? start, integer? size with
  | some start, some size =>
      if start ≤ 0 || size ≤ 0 then []
      else Raw.ofLetters (((Raw.letters text).drop (start.toNat - 1)).take size.toNat)
  | _, _ => []

/-- The place of the first character of a text that is one of some others. -/
def placeOf (text others : Raw) : Nat :=
  let others := Raw.letters others
  match (Raw.letters text).findIdx? others.contains with
  | some n => n + 1
  | none => 0

mutual

def eitherOf (evaluated : Bool) : Nat → Reading Raw
  | 0 => return []
  | fuel + 1 => do
      let left ← bothOf evaluated fuel
      eitherTail evaluated fuel left

def eitherTail (evaluated : Bool) : Nat → Raw → Reading Raw
  | 0, left => return left
  | fuel + 1, left => do
      match ← takeOneOf? ["|"] with
      | none => return left
      | some _ =>
          let right ← bothOf (evaluated && isNull left) fuel
          let value : Raw := if !isNull left then left else if isNull right then ['0'] else right
          eitherTail evaluated fuel value

def bothOf (evaluated : Bool) : Nat → Reading Raw
  | 0 => return []
  | fuel + 1 => do
      let left ← comparison evaluated fuel
      bothTail evaluated fuel left

def bothTail (evaluated : Bool) : Nat → Raw → Reading Raw
  | 0, left => return left
  | fuel + 1, left => do
      match ← takeOneOf? ["&"] with
      | none => return left
      | some _ =>
          let right ← comparison (evaluated && !isNull left) fuel
          bothTail evaluated fuel (if isNull left || isNull right then ['0'] else left)

def comparison (evaluated : Bool) : Nat → Reading Raw
  | 0 => return []
  | fuel + 1 => do
      let left ← sum evaluated fuel
      comparisonTail evaluated fuel left

def comparisonTail (evaluated : Bool) : Nat → Raw → Reading Raw
  | 0, left => return left
  | fuel + 1, left => do
      match ← takeOneOf? ["<", "<=", "=", "==", "!=", ">=", ">"] with
      | none => return left
      | some sign =>
          let right ← sum evaluated fuel
          comparisonTail evaluated fuel (ofBool (compared sign left right))

def sum (evaluated : Bool) : Nat → Reading Raw
  | 0 => return []
  | fuel + 1 => do
      let left ← product evaluated fuel
      sumTail evaluated fuel left

def sumTail (evaluated : Bool) : Nat → Raw → Reading Raw
  | 0, left => return left
  | fuel + 1, left => do
      match ← takeOneOf? ["+", "-"] with
      | none => return left
      | some sign =>
          let right ← product evaluated fuel
          let (a, b) ← numbers evaluated left right
          sumTail evaluated fuel (Raw.ofInt (if sign = "+" then a + b else a - b))

def product (evaluated : Bool) : Nat → Reading Raw
  | 0 => return []
  | fuel + 1 => do
      let left ← matching evaluated fuel
      productTail evaluated fuel left

def productTail (evaluated : Bool) : Nat → Raw → Reading Raw
  | 0, left => return left
  | fuel + 1, left => do
      match ← takeOneOf? ["*", "/", "%"] with
      | none => return left
      | some sign =>
          let right ← matching evaluated fuel
          let (a, b) ← numbers evaluated left right
          if sign ≠ "*" && b = 0 then throw .divisionByZero
          let value := match sign with
            | "*" => a * b
            | "/" => a.tdiv b
            | _ => a.tmod b
          productTail evaluated fuel (Raw.ofInt value)

def matching (evaluated : Bool) : Nat → Reading Raw
  | 0 => return []
  | fuel + 1 => do
      let left ← named evaluated fuel
      matchingTail evaluated fuel left

def matchingTail (evaluated : Bool) : Nat → Raw → Reading Raw
  | 0, left => return left
  | fuel + 1, left => do
      match ← takeOneOf? [":"] with
      | none => return left
      | some _ =>
          let right ← named evaluated fuel
          matchingTail evaluated fuel (← matched evaluated left right)

/-- A word, an expression in brackets, or an operation that has a name. -/
def named (evaluated : Bool) : Nat → Reading Raw
  | 0 => return []
  | fuel + 1 => do
      match ← takeOneOf? ["+", "(", ")", "length", "match", "index", "substr"] with
      | some "+" => take
      | some "(" =>
          let value ← eitherOf evaluated fuel
          match ← takeOneOf? [")"] with
          | some _ => return value
          | none =>
              match (← get).rest with
              | [] => throw (.missingClose (← get).before)
              | _ => throw (.missingClose (← get).before)
      | some ")" => throw .unexpectedClose
      | some "length" => return Raw.ofNat (Raw.letters (← named evaluated fuel)).length
      | some "match" =>
          let text ← named evaluated fuel
          let pattern ← named evaluated fuel
          matched evaluated text pattern
      | some "index" =>
          let text ← named evaluated fuel
          let others ← named evaluated fuel
          return Raw.ofNat (placeOf text others)
      | some _ =>
          let text ← named evaluated fuel
          let start ← named evaluated fuel
          let size ← named evaluated fuel
          return cutOut text start size
      | none => take

end

def value (words : List Raw) : Except Trouble Raw := do
  let (raw, course) ← (eitherOf true (12 * words.length + 12)).run ⟨[], words⟩
  match course.rest with
  | [] => return raw
  | word :: _ => throw (.unexpected word)

def expr (t : Errand) : Product :=
  let words := match t.args with
    | ['-', '-'] :: rest => rest
    | args => args
  if words.isEmpty then Tool.lacks t "missing operand" 2
  else
    match value words with
    | .ok raw => (t.saidLines [raw]).done (if isNull raw then 1 else 0)
    | .error trouble => t.complaint trouble.message 2

end LintBridge.Expression
