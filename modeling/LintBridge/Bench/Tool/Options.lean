import LintBridge.Bench.Tool.Basic

/-!
# Options of tools

Options are letters behind a dash or words behind two of them.  Some have a value: the
rest of the argument, or the next one.  They may stand between other arguments; two
dashes alone end them.
-/

set_option autoImplicit false

namespace LintBridge.Tool

structure OptionTable where
  flags : List Char
  valued : List Char
  words : List (String × Char)
  /-- The letters that have a value only if it stands in the same argument. -/
  loose : List Char
  mixed : Bool

namespace OptionTable

def ofLetters (flags valued : String) : OptionTable :=
  ⟨flags.toList, valued.toList, [], [], true⟩

def withWords (table : OptionTable) (words : List (String × Char)) : OptionTable :=
  { table with words }

end OptionTable

inductive Misuse where
  | unknownLetter (c : Char)
  | unknownWord (raw : Raw)
  | vagueWord (raw : Raw)
  | lacksValue (c : Char)
  | wordLacksValue (name : String)
  | wordHasValue (name : String)

def Misuse.message : Misuse → Raw
  | unknownLetter c => "invalid option -- '".toList ++ [c, '\'']
  | unknownWord raw => "unrecognized option '".toList ++ raw ++ ['\'']
  | vagueWord raw => "option '".toList ++ raw ++ "' is ambiguous".toList
  | lacksValue c => "option requires an argument -- '".toList ++ [c, '\'']
  | wordLacksValue name => "option '--".toList ++ name.toList ++ "' requires an argument".toList
  | wordHasValue name =>
      "option '--".toList ++ name.toList ++ "' doesn't allow an argument".toList

/-- The options in their order with their values, and the other arguments. -/
structure Choices where
  options : List (Char × Raw)
  operands : List Raw

namespace Choices

def has (c : Choices) (letter : Char) : Bool :=
  c.options.any (·.1 = letter)

def value? (c : Choices) (letter : Char) : Option Raw :=
  (c.options.reverse.find? (·.1 = letter)).map (·.2)

def values (c : Choices) (letter : Char) : List Raw :=
  (c.options.filter (·.1 = letter)).map (·.2)

def last? (c : Choices) (letters : List Char) : Option Char :=
  (c.options.reverse.find? fun o => letters.contains o.1).map (·.1)

def withOptions (c : Choices) (found : List (Char × Raw)) : Choices :=
  { c with options := found ++ c.options }

def withOperand (c : Choices) (raw : Raw) : Choices :=
  { c with operands := raw :: c.operands }

end Choices

def wordOf (table : OptionTable) (name : String) : Except Misuse (String × Char) :=
  match table.words.find? (·.1 = name) with
  | some word => .ok word
  | none =>
      match table.words.filter fun w => name.toList.isPrefixOf w.1.toList with
      | [word] => .ok word
      | [] => .error (.unknownWord ('-' :: '-' :: name.toList))
      | word :: more =>
          if more.all fun w => w.2 = word.2 then .ok word
          else .error (.vagueWord ('-' :: '-' :: name.toList))

/-- The letters of one argument: options, and whether the last one still lacks its
value. -/
def lettersOf (table : OptionTable) : Raw → Except Misuse (List (Char × Raw) × Option Char)
  | [] => .ok ([], none)
  | c :: rest =>
      if table.flags.contains c then
        (lettersOf table rest).map fun r => ((c, []) :: r.1, r.2)
      else if table.loose.contains c then .ok ([(c, rest)], none)
      else if table.valued.contains c then
        if rest.isEmpty then .ok ([], some c) else .ok ([(c, rest)], none)
      else .error (.unknownLetter c)

inductive Kind where
  | close
  | operand
  | options (found : List (Char × Raw))
  /-- Options, and a last one that has the next argument as its value. -/
  | unfinished (found : List (Char × Raw)) (letter : Char)

def kindOf (table : OptionTable) (arg : Raw) (isLast : Bool) : Except Misuse Kind :=
  match arg with
  | ['-', '-'] => .ok .close
  | '-' :: '-' :: text => do
      let name := text.takeWhile (· ≠ '=')
      let (word, letter) ← wordOf table (String.ofList name)
      let given := if name.length < text.length then some (text.drop (name.length + 1)) else none
      match given with
      | some value =>
          if table.valued.contains letter || table.loose.contains letter then
            return .options [(letter, value)]
          else throw (.wordHasValue word)
      | none =>
          if !table.valued.contains letter then return .options [(letter, [])]
          else if isLast then throw (.wordLacksValue word)
          else return .unfinished [] letter
  | '-' :: c :: letters =>
      match lettersOf table (c :: letters) with
      | .error misuse => .error misuse
      | .ok (found, none) => .ok (.options found)
      | .ok (found, some letter) =>
          if isLast then .error (.lacksValue letter) else .ok (.unfinished found letter)
  | _ => .ok .operand

def choices (table : OptionTable) : List Raw → Except Misuse Choices
  | [] => .ok ⟨[], []⟩
  | [arg] => do
      match ← kindOf table arg true with
      | .operand => return ⟨[], [arg]⟩
      | .options found => return ⟨found, []⟩
      | _ => return ⟨[], []⟩
  | arg :: next :: rest => do
      match ← kindOf table arg false with
      | .close => return ⟨[], next :: rest⟩
      | .operand =>
          if table.mixed then return (← choices table (next :: rest)).withOperand arg
          else return ⟨[], arg :: next :: rest⟩
      | .options found => return (← choices table (next :: rest)).withOptions found
      | .unfinished found letter =>
          return (← choices table rest).withOptions (found ++ [(letter, next)])

/-- A tool that reads its options first; others than it has are refused with a status. -/
def withOptions (table : OptionTable) (status : Nat) (run : Errand → Choices → Product)
    (t : Errand) : Product :=
  match choices table t.args with
  | .error misuse => t.misuse misuse.message status
  | .ok c => run t c

end LintBridge.Tool
