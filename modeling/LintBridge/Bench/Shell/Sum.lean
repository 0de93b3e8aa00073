import LintBridge.Bench.Raw

/-!
# Sums in scripts

The value of an expression over words of 64 bits and variables, and the variables that
it assigns.  What a condition passes over is read, but it has no value and assigns
nothing.
-/

set_option autoImplicit false

namespace LintBridge.Shell.Sum

inductive Token where
  | number (n : Int)
  | name (name : String)
  | sign (text : String)
  | foreign
  deriving DecidableEq, Repr

inductive Trouble where
  | expectsOperand
  | expectsEnd
  | expectsBracket
  | expectsColon
  | divisionByZero
  | notNumber (raw : Raw)
  deriving DecidableEq, Repr

def Trouble.message (source : Raw) : Trouble → Raw
  | notNumber raw => "Illegal number: ".toList ++ raw
  | trouble =>
      let what : String :=
        match trouble with
        | expectsOperand => "expecting primary"
        | expectsEnd => "expecting EOF"
        | expectsBracket => "expecting ')'"
        | expectsColon => "expecting ':'"
        | _ => "division by zero"
      "arithmetic expression: ".toList ++ what.toList ++ ": \"".toList ++ source ++ ['"']

def wrap (n : Int) : Int :=
  (Int64.ofInt n).toInt

def clamp (n : Int) : Int :=
  max (-9223372036854775808) (min 9223372036854775807 n)

def isDigitOf (base : Nat) (c : Char) : Bool :=
  if c.isDigit then c.toNat - 48 < base
  else base = 16 && (('a' ≤ c && c ≤ 'f') || ('A' ≤ c && c ≤ 'F'))

def digitValue (c : Char) : Nat :=
  if c.isDigit then c.toNat - 48 else (c.toLower.toNat - 97) + 10

def ofDigits (base : Nat) (digits : Raw) : Nat :=
  digits.foldl (fun n c => n * base + digitValue c) 0

/-- The base of a number, and its digits.  A zero in front means base eight, and `0x`
base sixteen. -/
def baseOf (source : Raw) : Nat × Raw :=
  match source with
  | '0' :: x :: d :: rest =>
      if (x = 'x' || x = 'X') && isDigitOf 16 d then (16, d :: rest) else (8, source)
  | '0' :: _ => (8, source)
  | _ => (10, source)

/-- The number at the beginning of a text, with the text behind it. -/
def constant (source : Raw) : Nat × Raw :=
  let (base, digits) := baseOf source
  let taken := digits.takeWhile (isDigitOf base)
  (ofDigits base taken, digits.drop taken.length)

/-- The number at the beginning of a text, with a sign or without; none without a
digit. -/
def signed? (source : Raw) : Option (Int × Raw) :=
  let digits? (rest : Raw) : Option (Nat × Raw) :=
    match rest with
    | c :: _ => if c.isDigit then some (constant rest) else none
    | [] => none
  match source with
  | '-' :: rest => (digits? rest).map fun r => (-(r.1 : Int), r.2)
  | '+' :: rest => (digits? rest).map fun r => ((r.1 : Int), r.2)
  | rest => (digits? rest).map fun r => ((r.1 : Int), r.2)

/-- The number of a variable; a text without one is zero only if it is blank. -/
def numberOf (raw : Raw) : Except Trouble Int :=
  let source := Raw.trim Raw.isSpace raw
  if source.isEmpty then .ok 0
  else
    match signed? source with
    | some (n, []) => .ok (clamp n)
    | _ => .error (.notNumber raw)

def signs : List String :=
  ["<<=", ">>=", "<<", ">>", "<=", ">=", "==", "!=", "&&", "||", "+=", "-=", "*=", "/=", "%=",
   "&=", "|=", "^=", "=", "+", "-", "*", "/", "%", "<", ">", "&", "|", "^", "(", ")", "!", "~",
   "?", ":"]

def tokens : Nat → Raw → List Token
  | 0, _ => []
  | _ + 1, [] => []
  | fuel + 1, c :: rest =>
      if c = ' ' || c = '\t' || c = '\n' then tokens fuel rest
      else if c.isDigit then
        let (n, after) := constant (c :: rest)
        .number (clamp n) :: tokens fuel after
      else if c.isAlpha || c = '_' then
        let name := (c :: rest).takeWhile fun c => c.isAlphanum || c = '_'
        .name (String.ofList name) :: tokens fuel ((c :: rest).drop name.length)
      else
        match signs.find? fun s => s.toList.isPrefixOf (c :: rest) with
        | some s => .sign s :: tokens fuel ((c :: rest).drop s.length)
        | none => .foreign :: tokens fuel rest

def ofBool (b : Bool) : Int :=
  if b then 1 else 0

def onWords (f : UInt64 → UInt64 → UInt64) (a b : Int) : Int :=
  (f (UInt64.ofInt a) (UInt64.ofInt b)).toInt64.toInt

def combine (sign : String) (a b : Int) : Except Trouble Int :=
  match sign with
  | "+" => .ok (wrap (a + b))
  | "-" => .ok (wrap (a - b))
  | "*" => .ok (wrap (a * b))
  | "/" => if b = 0 then .error .divisionByZero else .ok (wrap (a.tdiv b))
  | "%" => if b = 0 then .error .divisionByZero else .ok (a.tmod b)
  | "<<" => .ok (onWords (· <<< ·) a b)
  | ">>" => .ok (a >>> (UInt64.ofInt b % 64).toNat)
  | "<" => .ok (ofBool (a < b))
  | ">" => .ok (ofBool (b < a))
  | "<=" => .ok (ofBool (a ≤ b))
  | ">=" => .ok (ofBool (b ≤ a))
  | "==" => .ok (ofBool (a = b))
  | "!=" => .ok (ofBool (a ≠ b))
  | "&" => .ok (onWords (· &&& ·) a b)
  | "^" => .ok (onWords (· ^^^ ·) a b)
  | "|" => .ok (onWords (· ||| ·) a b)
  | _ => .error .expectsOperand

def rank : String → Nat
  | "*" | "/" | "%" => 8
  | "+" | "-" => 7
  | "<<" | ">>" => 6
  | "<" | ">" | "<=" | ">=" => 5
  | "==" | "!=" => 4
  | "&" => 3
  | "^" => 2
  | "|" => 1
  | _ => 0

def joining? (sign : String) : Option String :=
  if ["+=", "-=", "*=", "/=", "%=", "<<=", ">>=", "&=", "|=", "^="].contains sign then
    some (String.ofList sign.toList.dropLast)
  else none

/-- The tokens still to be read and the values that were assigned. -/
structure Course where
  rest : List Token
  assigned : List (String × Int)

abbrev Eval (α : Type) := StateT Course (Except Trouble) α

def valueOf (look : String → Raw) (name : String) : Eval Int := do
  match (← get).assigned.find? (·.1 = name) with
  | some (_, n) => return n
  | none => numberOf (look name)

def next? : Eval (Option Token) := do
  let course ← get
  match course.rest with
  | [] => return none
  | token :: rest =>
      set { course with rest }
      return some token

def takes (sign : String) : Eval Bool := do
  let course ← get
  match course.rest with
  | .sign s :: rest =>
      if s = sign then
        set { course with rest }
        return true
      else return false
  | _ => return false

def assign (name : String) (n : Int) : Eval Int := do
  modify fun course => { course with assigned := (name, n) :: course.assigned }
  return n

mutual

def primary (look : String → Raw) (idle : Bool) : Nat → Eval Int
  | 0 => throw .expectsOperand
  | fuel + 1 => do
      match ← next? with
      | some (.number n) => return n
      | some (.name name) => if idle then return 0 else valueOf look name
      | some (.sign "-") => return wrap (-(← primary look idle fuel))
      | some (.sign "+") => primary look idle fuel
      | some (.sign "~") => return -(← primary look idle fuel) - 1
      | some (.sign "!") => return ofBool ((← primary look idle fuel) = 0)
      | some (.sign "(") =>
          let n ← whole look idle fuel
          if ← takes ")" then return n else throw .expectsBracket
      | _ => throw .expectsOperand

def expression (look : String → Raw) (idle : Bool) : Nat → Nat → Eval Int
  | 0, _ => throw .expectsOperand
  | fuel + 1, least => do
      let n ← primary look idle fuel
      further look idle fuel least n

def further (look : String → Raw) (idle : Bool) : Nat → Nat → Int → Eval Int
  | 0, _, n => return n
  | fuel + 1, least, n => do
      match (← get).rest with
      | .sign s :: _ =>
          if rank s ≠ 0 && least ≤ rank s then
            let _ ← next?
            let m ← expression look idle fuel (rank s + 1)
            let joined ← if idle then pure 0 else (combine s n m : Except Trouble Int)
            further look idle fuel least joined
          else return n
      | _ => return n

def conjunction (look : String → Raw) (idle : Bool) : Nat → Eval Int
  | 0 => throw .expectsOperand
  | fuel + 1 => do
      let n ← expression look idle fuel 1
      if ← takes "&&" then
        let m ← conjunction look (idle || n = 0) fuel
        return ofBool (n ≠ 0 && m ≠ 0)
      else return n

def disjunction (look : String → Raw) (idle : Bool) : Nat → Eval Int
  | 0 => throw .expectsOperand
  | fuel + 1 => do
      let n ← conjunction look idle fuel
      if ← takes "||" then
        let m ← disjunction look (idle || n ≠ 0) fuel
        return ofBool (n ≠ 0 || m ≠ 0)
      else return n

def choice (look : String → Raw) (idle : Bool) : Nat → Eval Int
  | 0 => throw .expectsOperand
  | fuel + 1 => do
      let n ← disjunction look idle fuel
      if ← takes "?" then
        let yes ← whole look (idle || n = 0) fuel
        if ← takes ":" then
          let no ← choice look (idle || n ≠ 0) fuel
          return if n ≠ 0 then yes else no
        else throw .expectsColon
      else return n

def whole (look : String → Raw) (idle : Bool) : Nat → Eval Int
  | 0 => throw .expectsOperand
  | fuel + 1 => do
      match (← get).rest with
      | .name name :: .sign s :: rest =>
          match s, joining? s with
          | "=", _ =>
              modify fun course => { course with rest }
              let n ← whole look idle fuel
              if idle then return n else assign name n
          | _, some sign =>
              modify fun course => { course with rest }
              let m ← whole look idle fuel
              if idle then return m
              else
                let joined ← (combine sign (← valueOf look name) m : Except Trouble Int)
                assign name joined
          | _, none => choice look idle fuel
      | _ => choice look idle fuel

end

/-- The value of an expression, and the variables that it assigns, the last one first. -/
def value (look : String → Raw) (source : Raw) : Except Trouble (Int × List (String × Int)) := do
  let list := tokens (source.length + 1) source
  let (n, course) ← (whole look false (10 * list.length + 10)).run ⟨list, []⟩
  if course.rest.isEmpty then return (n, course.assigned) else throw .expectsEnd

end LintBridge.Shell.Sum
