import LintBridge.Bench.Raw

/-!
# Shell scripts

The commands that a script is made of, and their words.  A word is a series of pieces:
texts, parameters, outputs of commands and sums, in quotes or not.
-/

set_option autoImplicit false

namespace LintBridge.Shell

mutual

inductive Piece where
  | text (raw : Raw) (quoted : Bool)
  | parameter (name : String) (edit : Edit) (quoted : Bool)
  | output (command : Command) (quoted : Bool)
  | sum (source : List Piece) (quoted : Bool)

inductive Edit where
  | plain
  | length
  | fallback (emptyToo : Bool) (word : List Piece)
  | assign (emptyToo : Bool) (word : List Piece)
  /-- The end of the script where the parameter is unset, with a word as the reason. -/
  | demand (emptyToo : Bool) (word : List Piece)
  | instead (emptyToo : Bool) (word : List Piece)
  /-- Without a part at the beginning or the end that a pattern matches. -/
  | cut (atEnd longest : Bool) (pattern : List Piece)
  /-- Nothing that is known; the script ends where it is met. -/
  | unknown

inductive Aim where
  | read (file : List Piece)
  /-- A new file; where files are kept, only an explicit wish empties one. -/
  | write (file : List Piece) (anyway : Bool)
  | append (file : List Piece)
  | both (file : List Piece)
  | copy (descriptor : List Piece)
  | text (content : List Piece)

inductive Redirection where
  | mk (descriptor : Nat) (aim : Aim)

inductive Command where
  | nothing
  | simple (line : Nat) (assignments : List (String × List Piece)) (words : List (List Piece))
      (redirections : List Redirection)
  | pipeline (commands : List Command)
  | negated (command : Command)
  | both (first second : Command)
  | either (first second : Command)
  | sequence (first second : Command)
  | background (command : Command)
  | choice (test yes no : Command)
  | loop (whileTrue : Bool) (test body : Command) (status : Nat)
  | each (line : Nat) (name : String) (words : Option (List (List Piece))) (body : Command)
  | cases (line : Nat) (word : List Piece) (branches : List (List (List Piece) × Command))
  | subshell (line : Nat) (command : Command) (redirections : List Redirection)
  | group (line : Nat) (command : Command) (redirections : List Redirection)
  | define (name : String) (body : Command)

end

abbrev Word := List Piece

instance : Inhabited Command :=
  ⟨.nothing⟩

def Redirection.descriptor : Redirection → Nat
  | mk descriptor _ => descriptor

def Redirection.aim : Redirection → Aim
  | mk _ aim => aim

structure Flaw where
  line : Nat
  text : String

/-- The text of a word that has nothing but text outside of quotes. -/
def plainText? : Word → Option Raw
  | [.text raw false] => some raw
  | _ => none

def hasQuotes (word : Word) : Bool :=
  word.any fun piece =>
    match piece with
    | .text _ quoted => quoted
    | _ => false

def joinTexts : Word → Word
  | [] => []
  | .text raw quoted :: rest =>
      match joinTexts rest with
      | .text more same :: others =>
          if quoted = same && !(quoted && raw.isEmpty) then .text (raw ++ more) quoted :: others
          else .text raw quoted :: .text more same :: others
      | others => .text raw quoted :: others
  | piece :: rest => piece :: joinTexts rest

def isNameStart (c : Char) : Bool :=
  c.isAlpha || c = '_'

def isNameChar (c : Char) : Bool :=
  c.isAlphanum || c = '_'

def isName (raw : Raw) : Bool :=
  match raw with
  | c :: rest => isNameStart c && rest.all isNameChar
  | [] => false

def assignment? (word : Word) : Option (String × Word) :=
  match word with
  | .text raw false :: rest =>
      let name := raw.takeWhile (· ≠ '=')
      if name.length < raw.length && isName name then
        let value := raw.drop (name.length + 1)
        some (String.ofList name, if value.isEmpty then rest else .text value false :: rest)
      else none
  | _ => none

def isSpecial (c : Char) : Bool :=
  "@*#?$!-".toList.contains c || c.isDigit

end LintBridge.Shell
