import LintBridge.Bench.Pattern.Dialect

/-!
# Editing scripts

A script is a row of commands that are carried out for each line of a text.  Each command
says which lines it is for.  A brace that opens a block leads behind its end where the
line is not meant, and jumps lead to labels.
-/

set_option autoImplicit false

namespace LintBridge.Edit

open Pattern (Regex)

structure Matcher where
  regex : Regex
  groups : Nat
  folded : Bool
  manyLines : Bool

/-- Lines of a text.  A pattern that is left out is the one that was used last. -/
inductive Address where
  | line (n : Nat)
  | last
  | every (first step : Nat)
  | matching (matcher : Option Matcher)

inductive RangeEnd where
  | line (n : Nat)
  | last
  | matching (matcher : Option Matcher)
  | later (n : Nat)
  | multiple (n : Nat)

structure Selection where
  first : Option Address
  until? : Option RangeEnd
  fromZero : Bool
  others : Bool

inductive Casing where
  | upper
  | lower
  | asIs
  | upperOnce
  | lowerOnce
  deriving DecidableEq

inductive Part where
  | text (letters : List Char)
  | group (n : Nat)
  | casing (casing : Casing)

structure Substitution where
  matcher : Option Matcher
  parts : List Part
  /-- The match from which on it is made, counted from one. -/
  nth : Nat
  all : Bool
  prints : Bool
  file : Option Raw

inductive Action where
  | block (next : Nat)
  | nothing
  | print
  | printFirst
  | delete
  | deleteFirst
  | next
  | nextAppended
  | take
  | takeAppended
  | keep
  | keepAppended
  | exchange
  | number
  | list (width : Nat)
  | quit (status : Nat) (silently : Bool)
  | append (text : Raw)
  | insert (text : Raw)
  | change (text : Raw)
  | substitute (substitution : Substitution)
  | recode (pairs : List (Char × Char))
  | jump (label : Raw)
  /-- A jump only where something was substituted, or only where nothing was. -/
  | jumpIf (substituted : Bool) (label : Raw)
  | label (label : Raw)
  | readFile (name : Raw)
  | readLine (name : Raw)
  | write (name : Raw)
  | writeFirst (name : Raw)
  | fileName
  | empty

structure Command where
  selection : Selection
  action : Action

/-- Where a script stands: one of the expressions of the call, or a file. -/
inductive Origin where
  | expression (number : Nat)
  | file (name : Raw)
  deriving DecidableEq

/-- What is wrong with a script, and where: behind so many characters of an expression, or
in a line of a file. -/
structure Flaw where
  origin : Origin
  place : Nat
  text : Raw

def Flaw.message (f : Flaw) : Raw :=
  match f.origin with
  | .expression n =>
      "-e expression #".toList ++ Raw.ofNat n ++ ", char ".toList ++ Raw.ofNat f.place ++ [':', ' ']
        ++ f.text
  | .file name =>
      "file ".toList ++ name ++ " line ".toList ++ Raw.ofNat f.place ++ [':', ' '] ++ f.text

end LintBridge.Edit
