import LintBridge.Bench.Pattern.Dialect
import LintBridge.Bench.Rule.Script
import LintBridge.Bench.Rule.Token

/-!
# Reading rules

How a script of rules is read: one function for each level of operators, from the weakest
one down to the operands.
-/

set_option autoImplicit false

namespace LintBridge.Rule

open Pattern (Dialect Regex)

def patternOf (source : Raw) : Except Pattern.Trouble Regex :=
  ((Dialect.mk true true true false).read source).map (·.1)

def badPattern (trouble : Pattern.Trouble) (source : Raw) : Raw :=
  let why : String :=
    match trouble with
    | .openSet | .emptySet => "bad class -- [], [^] or ["
    | .openGroup => "missing ')'"
    | .closeGroup => "missing '('"
    | _ => "missing operand"
  "regular expression compile failed (".toList ++ why.toList ++ ")\n".toList ++ source

structure Place where
  rest : Raw
  lines : Nat
  ranges : Nat
  /-- The functions that are called, the last one first. -/
  called : List String

/-- Reads part of a script; the error is what is said. -/
abbrev Reading := StateT Place (Except Raw)

def fault {α : Type} (text : Raw) : Reading α := do
  let p ← get
  let line := p.lines - p.rest.count '\n' + 1
  throw ("line ".toList ++ Raw.ofNat line ++ ':' :: ' ' :: text)

def peek : Reading Token :=
  return (Token.next (← get).rest).1

def advance : Reading Unit :=
  modify fun p => { p with rest := (Token.next p.rest).2 }

def beginning (source : Raw) : Raw :=
  (source.takeWhile (· ≠ '\n')).take 10 ++ " ...".toList

def unexpected {α : Type} : Reading α := do
  let token ← peek
  match token with
  | .unknown '"' =>
      let rest := (← get).rest
      let behind := (Token.skip (rest.length + 1) rest).drop 1
      fault ("runaway string constant \"".toList ++ beginning behind)
  | .sign "\x7d" => fault "extra '\x7d'".toList
  | .sign ")" => fault "extra ')'".toList
  | token => fault ("syntax error at or near ".toList ++ token.shown)

def take (sign : String) : Reading Bool := do
  match ← peek with
  | .sign s => if s = sign then advance; return true else return false
  | _ => return false

def takeWord (word : String) : Reading Bool := do
  match ← peek with
  | .keyword k => if k = word then advance; return true else return false
  | _ => return false

def isNext (sign : String) : Reading Bool := do
  match ← peek with
  | .sign s => return s = sign
  | _ => return false

def need (sign : String) : Reading Unit := do
  if !(← take sign) then
    let token ← peek
    if sign = ")" || sign = "\x7d" then
      advance
      fault ("missing ".toList ++ sign.toList ++ " near ".toList ++ token.shown)
    else unexpected

def skipLines : Nat → Reading Unit
  | 0 => return
  | fuel + 1 => do
      match ← peek with
      | .newline =>
          advance
          skipLines fuel
      | _ => return

def overLines : Reading Unit := do
  skipLines ((← get).rest.length + 1)

def slashed (front : Raw) : Reading Expr := do
  let p ← get
  match Token.patternBody (p.rest.length + 1) false p.rest with
  | none => fault ("runaway regular expression /".toList ++ beginning (front ++ p.rest))
  | some (body, after) =>
      match patternOf (front ++ body) with
      | .ok regex =>
          set { p with rest := after }
          return .regex regex
      | .error trouble => fault (badPattern trouble (front ++ body))

def Expr.isTarget : Expr → Bool
  | .variable _ | .field _ | .element _ _ => true
  | _ => false

def assignmentSign? (sign : String) : Option (Option Char) :=
  match sign.toList with
  | ['='] => some none
  | [c, '='] => if "+-*/%^".toList.contains c then some (some c) else none
  | _ => none

def beginsOperand : Token → Bool
  | .number _ | .text _ | .name _ | .called _ => true
  | .sign s => ["$", "!", "(", "++", "--"].contains s
  | _ => false

structure Room where
  greater : Bool

def overLinesInside (room : Room) : Reading Unit := do
  if room.greater then
    let p ← get
    overLines
    match ← peek with
    | .sign "," | .sign ")" | .sign "]" => return
    | _ => set p
  else return

mutual

def expression (room : Room) : Nat → Reading Expr
  | 0 => unexpected
  | fuel + 1 => do
      let test ← alternatives room fuel
      if ← take "?" then
        overLines
        let yes ← expression room fuel
        overLines
        need ":"
        overLines
        return .choose test yes (← expression room fuel)
      else return test

def alternatives (room : Room) : Nat → Reading Expr
  | 0 => unexpected
  | fuel + 1 => do
      alternativesTail room fuel (← conjunctions room fuel)

def alternativesTail (room : Room) : Nat → Expr → Reading Expr
  | 0, _ => unexpected
  | fuel + 1, a => do
      if ← take "||" then
        overLines
        alternativesTail room fuel (.either a (← conjunctions room fuel))
      else return a

def conjunctions (room : Room) : Nat → Reading Expr
  | 0 => unexpected
  | fuel + 1 => do
      conjunctionsTail room fuel (← memberships room fuel)

def conjunctionsTail (room : Room) : Nat → Expr → Reading Expr
  | 0, _ => unexpected
  | fuel + 1, a => do
      if ← take "&&" then
        overLines
        conjunctionsTail room fuel (.both a (← memberships room fuel))
      else return a

def memberships (room : Room) : Nat → Reading Expr
  | 0 => unexpected
  | fuel + 1 => do
      membershipsTail fuel (← matchings room fuel)

def membershipsTail : Nat → Expr → Reading Expr
  | 0, _ => unexpected
  | fuel + 1, a => do
      if ← takeWord "in" then
        match ← peek with
        | .name table =>
            advance
            let keys := match a with | .row parts => parts | a => [a]
            membershipsTail fuel (.hasKey keys table)
        | _ => unexpected
      else return a

def matchings (room : Room) : Nat → Reading Expr
  | 0 => unexpected
  | fuel + 1 => do
      matchingsTail room fuel (← comparisons room fuel)

def matchingsTail (room : Room) : Nat → Expr → Reading Expr
  | 0, _ => unexpected
  | fuel + 1, a => do
      if ← take "~" then matchingsTail room fuel (.fits false a (← comparisons room fuel))
      else if ← take "!~" then matchingsTail room fuel (.fits true a (← comparisons room fuel))
      else return a

def comparisons (room : Room) : Nat → Reading Expr
  | 0 => unexpected
  | fuel + 1 => do
      let a ← joints room fuel
      let a ← fromCommands room fuel a
      match ← peek with
      | .sign s =>
          if ["<", "<=", "==", "!=", ">="].contains s || (s = ">" && room.greater) then
            advance
            let b ← joints room fuel
            return .compare s a (← fromCommands room fuel b)
          else return a
      | _ => return a

def fromCommands (room : Room) : Nat → Expr → Reading Expr
  | 0, _ => unexpected
  | fuel + 1, a => do
      let p ← get
      if ← take "|" then
        if ← takeWord "getline" then
          let target ← target? room fuel
          fromCommands room fuel (.read .command (some a) target)
        else
          set p
          return a
      else return a

def joints (room : Room) : Nat → Reading Expr
  | 0 => unexpected
  | fuel + 1 => do
      jointsTail room fuel (← sums room fuel)

def jointsTail (room : Room) : Nat → Expr → Reading Expr
  | 0, _ => unexpected
  | fuel + 1, a => do
      if beginsOperand (← peek) then jointsTail room fuel (.join a (← sums room fuel))
      else return a

def sums (room : Room) : Nat → Reading Expr
  | 0 => unexpected
  | fuel + 1 => do
      sumsTail room fuel (← products room fuel)

def sumsTail (room : Room) : Nat → Expr → Reading Expr
  | 0, _ => unexpected
  | fuel + 1, a => do
      if ← take "+" then sumsTail room fuel (.calculate '+' a (← products room fuel))
      else if ← take "-" then sumsTail room fuel (.calculate '-' a (← products room fuel))
      else return a

def products (room : Room) : Nat → Reading Expr
  | 0 => unexpected
  | fuel + 1 => do
      productsTail room fuel (← signed room fuel)

def productsTail (room : Room) : Nat → Expr → Reading Expr
  | 0, _ => unexpected
  | fuel + 1, a => do
      if ← take "*" then productsTail room fuel (.calculate '*' a (← signed room fuel))
      else if ← take "/" then productsTail room fuel (.calculate '/' a (← signed room fuel))
      else if ← take "%" then productsTail room fuel (.calculate '%' a (← signed room fuel))
      else return a

def signed (room : Room) : Nat → Reading Expr
  | 0 => unexpected
  | fuel + 1 => do
      if ← take "!" then return .not (← signed room fuel)
      else if ← take "-" then return .negative (← signed room fuel)
      else if ← take "+" then return .positive (← signed room fuel)
      else powers room fuel

def powers (room : Room) : Nat → Reading Expr
  | 0 => unexpected
  | fuel + 1 => do
      let a ← stepped room fuel
      if ← take "^" then return .calculate '^' a (← signed room fuel) else return a

def stepped (room : Room) : Nat → Reading Expr
  | 0 => unexpected
  | fuel + 1 => do
      let a ← operand room fuel
      if !a.isTarget then return a
      else
        match ← peek with
        | .sign "++" =>
            advance
            return .step true true a
        | .sign "--" =>
            advance
            return .step true false a
        | .sign s =>
            match assignmentSign? s with
            | some sign =>
                advance
                overLines
                return .assign sign a (← expression room fuel)
            | none => return a
        | _ => return a

def target? (room : Room) : Nat → Reading (Option Expr)
  | 0 => unexpected
  | fuel + 1 => do
      match ← peek with
      | .name _ | .sign "$" => return some (← operand room fuel)
      | _ => return none

def operand (room : Room) : Nat → Reading Expr
  | 0 => unexpected
  | fuel + 1 => do
      match ← peek with
      | .number x =>
          advance
          return .number x
      | .text raw =>
          advance
          return .text raw
      | .sign "/" =>
          advance
          slashed []
      | .sign "/=" =>
          advance
          slashed ['=']
      | .sign "$" =>
          advance
          match ← peek with
          | .sign "++" =>
              advance
              return .field (.step false true (← operand room fuel))
          | .sign "--" =>
              advance
              return .field (.step false false (← operand room fuel))
          | .sign "-" =>
              advance
              return .field (.negative (← operand room fuel))
          | _ => return .field (← operand room fuel)
      | .sign "++" =>
          advance
          return .step false true (← operand room fuel)
      | .sign "--" =>
          advance
          return .step false false (← operand room fuel)
      | .sign "(" =>
          advance
          let parts ← row ⟨true⟩ fuel
          need ")"
          match parts with
          | [e] => return if e.isTarget then .row [e] else e
          | parts => return .row parts
      | .sign "-" =>
          advance
          return .negative (← signed room fuel)
      | .sign "+" =>
          advance
          return .positive (← signed room fuel)
      | .sign "!" =>
          advance
          return .not (← signed room fuel)
      | .keyword "getline" =>
          advance
          let target ← target? room fuel
          if ← take "<" then return .read .file (some (← stepped room fuel)) target
          else return .read .main none target
      | .called name =>
          advance
          modify fun p => { p with called := name :: p.called }
          let _ ← take "("
          overLines
          if ← take ")" then return .call name []
          else
            let args ← row ⟨true⟩ fuel
            need ")"
            return .call name args
      | .name name =>
          advance
          if name = "length" then return .call name []
          else if ← take "[" then
            let keys ← row ⟨true⟩ fuel
            need "]"
            return .element name keys
          else if ownNames.contains name then
            if ← take "(" then
              let args ← row ⟨true⟩ fuel
              need ")"
              return .call name args
            else unexpected
          else return .variable name
      | _ => unexpected

def row (room : Room) : Nat → Reading (List Expr)
  | 0 => unexpected
  | fuel + 1 => do
      overLines
      let first ← expression room fuel
      overLinesInside room
      if ← take "," then
        overLines
        return first :: (← row room fuel)
      else return [first]

end

def Token.endsStatement : Token → Bool
  | .newline | .close | .sign ";" | .sign "\x7d" => true
  | _ => false

def statementEnd : Reading Unit := do
  match ← peek with
  | .newline | .sign ";" =>
      advance
      overLines
  | .sign "\x7d" | .close => return
  | _ => unexpected

def optional (fuel : Nat) : Reading (Option Expr) := do
  if (← peek).endsStatement then return none else return some (← expression ⟨true⟩ fuel)

def printed (fuel : Nat) : Reading (List Expr × Aim) := do
  let endsParts (token : Token) : Bool :=
    token.endsStatement || (match token with | .sign s => [">", ">>", "|"].contains s | _ => false)
  let parts ← (do
    if endsParts (← peek) then return []
    else
      match ← row ⟨false⟩ fuel with
      | [.row parts] => return parts
      | parts => return parts : Reading (List Expr))
  if ← take ">" then return (parts, .file (← expression ⟨true⟩ fuel))
  else if ← take ">>" then return (parts, .behind (← expression ⟨true⟩ fuel))
  else if ← take "|" then return (parts, .command (← expression ⟨true⟩ fuel))
  else return (parts, .output)

def simple (fuel : Nat) : Reading Statement := do
  match ← peek with
  | .keyword "print" =>
      advance
      let (parts, aim) ← printed fuel
      return .print parts aim
  | .keyword "printf" =>
      advance
      let (parts, aim) ← printed fuel
      return .format parts aim
  | .keyword "next" =>
      advance
      return .next
  | .keyword "nextfile" =>
      advance
      return .nextFile
  | .keyword "break" =>
      advance
      return .leave
  | .keyword "continue" =>
      advance
      return .goOn
  | .keyword "exit" =>
      advance
      return .exit (← optional fuel)
  | .keyword "return" =>
      advance
      return .back (← optional fuel)
  | .keyword "delete" =>
      advance
      match ← peek with
      | .name table =>
          advance
          if ← take "[" then
            let keys ← row ⟨true⟩ fuel
            need "]"
            return .forget table keys
          else return .forget table []
      | _ => unexpected
  | _ => return .expression (← expression ⟨true⟩ fuel)

/-- The head of a loop through the keys of a table, behind the opening bracket. -/
def eachHead? : Reading (Option (String × String)) := do
  let p ← get
  match ← peek with
  | .name name =>
      advance
      if ← takeWord "in" then
        match ← peek with
        | .name table =>
            advance
            if ← take ")" then return some (name, table)
            else
              set p
              return none
        | _ =>
            set p
            return none
      else
        set p
        return none
  | _ => return none

mutual

def statement : Nat → Reading Statement
  | 0 => unexpected
  | fuel + 1 => do
      match ← peek with
      | .sign "\x7b" => block fuel
      | .sign ";" =>
          advance
          overLines
          return .nothing
      | .keyword "if" =>
          advance
          need "("
          let test ← expression ⟨true⟩ fuel
          need ")"
          overLines
          let yes ← statement fuel
          let p ← get
          let _ ← take ";"
          overLines
          if ← takeWord "else" then
            overLines
            return .branch test yes (← statement fuel)
          else
            set p
            return .branch test yes .nothing
      | .keyword "while" =>
          advance
          need "("
          let test ← expression ⟨true⟩ fuel
          need ")"
          if ← take ";" then return .loop (some test) .nothing .nothing
          else
            overLines
            return .loop (some test) (← statement fuel) .nothing
      | .keyword "do" =>
          advance
          overLines
          let body ← statement fuel
          let _ ← take ";"
          overLines
          if !(← takeWord "while") then unexpected
          need "("
          let test ← expression ⟨true⟩ fuel
          need ")"
          statementEnd
          return .again body test
      | .keyword "for" =>
          advance
          need "("
          match ← eachHead? with
          | some (name, table) =>
              overLines
              return .each name table (← statement fuel)
          | none =>
              let first ← (do
                if ← isNext ";" then return .nothing else simple fuel : Reading Statement)
              need ";"
              overLines
              let test ← (do
                if ← isNext ";" then return none else return some (← expression ⟨true⟩ fuel) :
                Reading (Option Expr))
              need ";"
              overLines
              let step ← (do
                if ← isNext ")" then return .nothing else simple fuel : Reading Statement)
              need ")"
              if ← take ";" then return .block [first, .loop test .nothing step]
              else
                overLines
                return .block [first, .loop test (← statement fuel) step]
      | _ =>
          let found ← simple fuel
          statementEnd
          return found

def block : Nat → Reading Statement
  | 0 => unexpected
  | fuel + 1 => do
      need "\x7b"
      overLines
      let list ← statements fuel
      need "\x7d"
      let p ← get
      overLines
      if !(← take ";") then set p
      overLines
      return .block list

def statements : Nat → Reading (List Statement)
  | 0 => unexpected
  | fuel + 1 => do
      overLines
      match ← peek with
      | .sign "\x7d" | .close => return []
      | _ =>
          let first ← statement fuel
          return first :: (← statements fuel)

end

def parameters : Nat → Reading (List String)
  | 0 => unexpected
  | fuel + 1 => do
      overLines
      match ← peek with
      | .name name =>
          advance
          if ← take "," then return name :: (← parameters fuel)
          else
            need ")"
            return [name]
      | _ =>
          need ")"
          return []

/-- The body of a rule, which prints the record if there is none. -/
def clauseBody (fuel : Nat) : Reading Statement := do
  if ← isNext "\x7b" then block fuel else return .print [] .output

def item (fuel : Nat) : Reading (Clause ⊕ Routine) := do
  match ← peek with
  | .keyword "BEGIN" =>
      advance
      return .inl ⟨.start, ← block fuel⟩
  | .keyword "END" =>
      advance
      return .inl ⟨.finish, ← block fuel⟩
  | .keyword "function" =>
      advance
      match ← peek with
      | .name name | .called name =>
          advance
          need "("
          let names ← parameters fuel
          overLines
          return .inr ⟨name, names, ← block fuel⟩
      | _ => unexpected
  | .sign "\x7b" => return .inl ⟨.always, ← block fuel⟩
  | _ =>
      let first ← expression ⟨true⟩ fuel
      if ← take "," then
        overLines
        let last ← expression ⟨true⟩ fuel
        let p ← get
        set { p with ranges := p.ranges + 1 }
        return .inl ⟨.between p.ranges first last, ← clauseBody fuel⟩
      else return .inl ⟨.when first, ← clauseBody fuel⟩

def items (size : Nat) : Nat → Reading Script
  | 0 => return ⟨[], []⟩
  | fuel + 1 => do
      overLines
      match ← peek with
      | .close => return ⟨[], []⟩
      | .sign ";" =>
          advance
          items size fuel
      | _ =>
          let first ← item size
          let rest ← items size fuel
          match first with
          | .inl clause => return { rest with clauses := clause :: rest.clauses }
          | .inr routine => return { rest with routines := routine :: rest.routines }

/-- The script that a text writes; the error is what is wrong with it. -/
def Script.read (source : Raw) : Except Raw Script := do
  let source := if source.getLast? = some '\n' then source else source ++ ['\n']
  let size := 20 * source.length + 100
  let (script, p) ← (items size (source.length + 1)).run ⟨source, source.count '\n', 0, []⟩
  match p.called.reverse.find? fun name =>
    !ownNames.contains name && !script.routines.any fun r => r.name = name with
  | some name =>
      throw ("line ".toList ++ Raw.ofNat (p.lines + 1) ++ ": function ".toList ++ name.toList
        ++ " never defined".toList)
  | none => return script

end LintBridge.Rule
