import LintBridge.Bench.Pattern.Regex
import LintBridge.Bench.Raw

/-!
# Scripts of rules

A script of rules is for texts that consist of records: each rule says what is done with a
record that something holds of.
-/

set_option autoImplicit false

namespace LintBridge.Rule

open Pattern (Regex)

inductive Origin where
  | main
  | file
  | command
  deriving DecidableEq, Repr

inductive Expr where
  | number (x : Float)
  | text (raw : Raw)
  | regex (pattern : Regex)
  | variable (name : String)
  | field (number : Expr)
  | element (table : String) (keys : List Expr)
  | hasKey (keys : List Expr) (table : String)
  /-- Gives a target a value, or the outcome of an operation on its own and another one. -/
  | assign (sign : Option Char) (target value : Expr)
  | choose (test yes no : Expr)
  | both (a b : Expr)
  | either (a b : Expr)
  | not (a : Expr)
  | fits (others : Bool) (a pattern : Expr)
  | compare (sign : String) (a b : Expr)
  | join (a b : Expr)
  | calculate (sign : Char) (a b : Expr)
  | negative (a : Expr)
  | positive (a : Expr)
  /-- One more or less; the value is the one before where `late` is set. -/
  | step (late up : Bool) (target : Expr)
  | call (name : String) (args : List Expr)
  | read (origin : Origin) (source target : Option Expr)
  | row (parts : List Expr)

inductive Aim where
  | output
  | file (name : Expr)
  | behind (name : Expr)
  | command (text : Expr)

inductive Statement where
  | nothing
  | expression (e : Expr)
  | print (parts : List Expr) (aim : Aim)
  | format (parts : List Expr) (aim : Aim)
  | block (list : List Statement)
  | branch (test : Expr) (yes no : Statement)
  | loop (test : Option Expr) (body step : Statement)
  | again (body : Statement) (test : Expr)
  | each (name table : String) (body : Statement)
  | leave
  | goOn
  | next
  | nextFile
  | exit (status : Option Expr)
  | back (value : Option Expr)
  | forget (table : String) (keys : List Expr)

inductive Occasion where
  | start
  | finish
  | always
  | when (test : Expr)
  /-- From a record that the first one holds of to one that the last one holds of. -/
  | between (id : Nat) (first last : Expr)

structure Clause where
  occasion : Occasion
  body : Statement

structure Routine where
  name : String
  parameters : List String
  body : Statement

structure Script where
  clauses : List Clause
  routines : List Routine

def ownNames : List String :=
  ["length", "substr", "index", "split", "sub", "gsub", "match", "sprintf", "sin", "cos", "atan2",
   "exp", "log", "sqrt", "int", "rand", "srand", "tolower", "toupper", "system", "close", "fflush",
   "systime", "strftime", "mktime"]

end LintBridge.Rule
