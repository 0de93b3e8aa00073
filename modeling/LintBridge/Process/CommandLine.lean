import LintBridge.Path.Basic
import LintBridge.Text.Basic

/-!
# Command lines

A program, its arguments and the directory it runs in.  The parts are kept as the pieces
of a path are, with bytes that belong to no character.  Shown, a part that is empty or has
a blank stands in quotes; nothing is escaped.
-/

set_option autoImplicit false

namespace LintBridge

structure CommandLine where
  program : String
  args : List String
  directory? : Option Path
  deriving DecidableEq, Repr

namespace CommandLine

/-- A script run by an interpreter, or by itself where there is none. -/
def forScript (interpreter script : String) (directory : Path) : CommandLine :=
  let script := Text.Stray.keepText script
  if interpreter = "" then ⟨script, [], some directory⟩
  else ⟨Text.Stray.keepText interpreter, [script], some directory⟩

def withArgs (command : CommandLine) (args : List String) : CommandLine :=
  { command with args := command.args ++ args.map Text.Stray.keepText }

def showText (text : String) : List Char :=
  if text = "" || text.toList.any Text.isBlank then '"' :: text.toList ++ ['"']
  else text.toList

def showTexts : List String → List Char
  | [] => []
  | [text] => showText text
  | text :: rest => showText text ++ ' ' :: showTexts rest

/-- The parts as texts, with U+FFFD for what belongs to no character. -/
def texts (command : CommandLine) : List String :=
  (command.program :: command.args).map Text.Stray.shown

def display (command : CommandLine) : String :=
  String.ofList (showTexts command.texts)

end CommandLine

end LintBridge
