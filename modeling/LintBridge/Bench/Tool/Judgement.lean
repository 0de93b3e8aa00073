import LintBridge.Bench.Shell.Sum
import LintBridge.Bench.Tool.Basic

/-!
# Tests

Whether something holds of files, texts and numbers.  A test is read word by word; what a
word means depends on how many there are, so that any word can be compared.
-/

set_option autoImplicit false

namespace LintBridge.Judgement

inductive Role where
  | operand
  | unary (letter : Char)
  | binary (sign : String)
  | not
  | and
  | or
  | openBracket
  | closeBracket
  | nothing
  deriving DecidableEq, Repr

def binarySigns : List String :=
  ["=", "!=", "<", ">", "-eq", "-ne", "-gt", "-ge", "-lt", "-le", "-nt", "-ot", "-ef"]

def roleOf (raw : Raw) : Role :=
  match raw with
  | ['!'] => .not
  | ['('] => .openBracket
  | [')'] => .closeBracket
  | ['-', 'a'] => .and
  | ['-', 'o'] => .or
  | ['-', letter] =>
      if "rwxefdcbpugkstznhOGLS".toList.contains letter then .unary letter else .operand
  | _ => if binarySigns.contains (String.ofList raw) then .binary (String.ofList raw) else .operand

def isBinary (raw : Raw) : Bool :=
  match roleOf raw with
  | .binary _ => true
  | _ => false

def role (words : List Raw) : Role :=
  match words with
  | [] => .nothing
  | word :: rest =>
      match roleOf word, rest with
      | .unary _, [] => .operand
      | .unary letter, [_] => .unary letter
      | .unary letter, next :: _ => if isBinary next then .operand else .unary letter
      | .openBracket, [] => .operand
      | r, _ => r

inductive Trouble where
  | unexpected (word : Raw)
  | lacksArgument (word : Raw)
  | notNumber (word : Raw)
  | openBracket
  deriving Repr

def Trouble.message : Trouble → Raw
  | unexpected word => word ++ ": unexpected operator".toList
  | lacksArgument word => word ++ ": argument expected".toList
  | notNumber word => "Illegal number: ".toList ++ word
  | openBracket => "closing paren expected".toList

def number (raw : Raw) : Except Trouble Int :=
  match Raw.int? (Raw.trim Raw.isSpace raw) with
  | some n => if Shell.Sum.clamp n = n then .ok n else .error (.notNumber raw)
  | none => .error (.notNumber raw)

def holdsOf (t : Errand) (letter : Char) (word : Raw) : Except Trouble Bool :=
  let found := t.tree.node t.current word.toPath
  match letter with
  | 'n' => .ok (!word.isEmpty)
  | 'z' => .ok word.isEmpty
  | 't' => (number word).map fun _ => false
  | 'e' | 'r' | 'w' | 'O' | 'G' => .ok found.isOk
  | 'f' => .ok (t.tree.kind t.current word.toPath = some .file)
  | 'd' => .ok (t.tree.kind t.current word.toPath = some .directory)
  | 'c' =>
      .ok (match found with
        | .ok (_, .sink) => true
        | _ => false)
  | 's' =>
      .ok (match t.tree.read t.current word.toPath with
        | .ok bytes => !bytes.isEmpty
        | .error e => e = .isADirectory)
  | 'x' =>
      .ok (match found with
        | .ok (_, .file _ executable) => executable
        | .ok (_, .directory) | .ok (_, .program _) => true
        | _ => false)
  | 'L' | 'h' =>
      .ok (match t.tree.locate false t.current word.toPath with
        | .ok (.found _ (.link _)) => true
        | _ => false)
  | _ => .ok false

def compare (t : Errand) (sign : String) (left right : Raw) : Except Trouble Bool :=
  let numbers (f : Int → Int → Bool) : Except Trouble Bool := do
    let a ← number left
    let b ← number right
    return f a b
  match sign with
  | "=" => .ok (left = right)
  | "!=" => .ok (left ≠ right)
  | "<" => .ok (!Raw.le right left)
  | ">" => .ok (!Raw.le left right)
  | "-eq" => numbers fun a b => a = b
  | "-ne" => numbers fun a b => a ≠ b
  | "-lt" => numbers fun a b => a < b
  | "-le" => numbers fun a b => a ≤ b
  | "-gt" => numbers fun a b => b < a
  | "-ge" => numbers fun a b => b ≤ a
  | "-ef" =>
      .ok (match t.tree.node t.current left.toPath, t.tree.node t.current right.toPath with
        | .ok a, .ok b => a.1 = b.1
        | _, _ => false)
  | _ =>
      let there (word : Raw) : Bool := (t.tree.node t.current word.toPath).isOk
      .ok (if sign = "-nt" then there left && !there right else !there left && there right)

mutual

/-- Tests of which one must hold: the outcome, and the words from the last one that was
looked at on. -/
def anyHolds (t : Errand) : Nat → List Raw → Except Trouble (Bool × List Raw)
  | 0, words => .ok (false, words)
  | fuel + 1, words => do
      let (first, words) ← allHold t fuel words
      match role (words.drop 1) with
      | .or =>
          let (more, words) ← anyHolds t fuel (words.drop 2)
          return (first || more, words)
      | _ => return (first, words)

def allHold (t : Errand) : Nat → List Raw → Except Trouble (Bool × List Raw)
  | 0, words => .ok (false, words)
  | fuel + 1, words => do
      let (first, words) ← notHolds t fuel words
      match role (words.drop 1) with
      | .and =>
          let (more, words) ← allHold t fuel (words.drop 2)
          return (first && more, words)
      | _ => return (first, words)

def notHolds (t : Errand) : Nat → List Raw → Except Trouble (Bool × List Raw)
  | 0, words => .ok (false, words)
  | fuel + 1, words => do
      if role words = .not then
        if (words.drop 1).isEmpty then return (true, words)
        else
          let (inner, words) ← notHolds t fuel (words.drop 1)
          return (!inner, words)
      else oneHolds t fuel words

def oneHolds (t : Errand) : Nat → List Raw → Except Trouble (Bool × List Raw)
  | 0, words => .ok (false, words)
  | fuel + 1, words =>
      match role words, words with
      | .nothing, _ => .ok (false, words)
      | .openBracket, _ :: inner =>
          if role inner = .closeBracket then .ok (false, inner)
          else do
            let (truth, words) ← anyHolds t fuel inner
            match role (words.drop 1) with
            | .closeBracket => return (truth, words.drop 1)
            | _ => throw .openBracket
      | .unary letter, word :: rest =>
          match rest with
          | [] => .error (.lacksArgument word)
          | operand :: more => (holdsOf t letter operand).map fun truth => (truth, operand :: more)
      | _, left :: rest =>
          match role rest, rest with
          | .binary sign, _ :: [] => .error (.lacksArgument sign.toList)
          | .binary sign, _ :: right :: more =>
              (compare t sign left right).map fun truth => (truth, right :: more)
          | _, _ => .ok (!left.isEmpty, words)
      | _, [] => .ok (false, words)

end

/-- A whole test from words of which the first ones are told apart. -/
def whole (t : Errand) (words : List Raw) : Except Trouble Bool := do
  let (truth, left) ← anyHolds t (4 * words.length + 8) words
  match left with
  | word :: _ :: _ => throw (.unexpected word)
  | _ => return truth

/-- The test of two operands and a sign between them, which needs no further look. -/
def simple? (t : Errand) (words : List Raw) : Option (Except Trouble Bool) :=
  match words with
  | [left, sign, right] => if isBinary sign then some (compare t (String.ofList sign) left right) else none
  | _ => none

/-- What a test says; a mark of its opposite or brackets around three or four words are
taken off first. -/
def judge (t : Errand) : Nat → List Raw → Except Trouble Bool
  | 0, _ => .ok false
  | fuel + 1, words =>
      if words.isEmpty then .ok false
      else
        match simple? t words with
        | some outcome => outcome
        | none =>
            if words.length = 3 || words.length = 4 then
              if words.head? = some ['('] && words.getLast? = some [')'] then
                whole t (words.drop 1).dropLast
              else if words.head? = some ['!'] then (judge t fuel (words.drop 1)).map (!·)
              else whole t words
            else whole t words

end LintBridge.Judgement
