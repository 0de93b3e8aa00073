import LintBridge.Bench.Shell.Script

/-!
# Cursors in scripts

The rest of a script, with a token that was looked at and put back.  A backslash at the
end of a line joins it with the next one, but not where characters are taken exactly.
-/

set_option autoImplicit false

namespace LintBridge.Shell

inductive Token where
  | endOfFile
  | newline
  | sign (text : String)
  | redirection (descriptor : Option Nat) (arrow : String)
  | word (word : Word)
  | keyword (name : String)

def Token.shown : Token → String
  | endOfFile => "end of file"
  | newline => "newline"
  | sign text => "\"" ++ text ++ "\""
  | redirection _ _ => "redirection"
  | word _ => "word"
  | keyword name => "\"" ++ name ++ "\""

def Token.isSign (token : Token) (text : String) : Bool :=
  match token with
  | sign s => s = text
  | _ => false

def Token.isKeyword (token : Token) (name : String) : Bool :=
  match token with
  | keyword k => k = name
  | _ => false

structure Cursor where
  rest : Raw
  line : Nat
  held : Option Token
  /-- The lines of texts that were taken from behind the end of this line. -/
  passed : Nat
  aliases : List (String × Raw)
  /-- The names whose texts are being read, with what will be left of the script then. -/
  opened : List (String × Nat)
  /-- What will be left of the script behind a text with a blank at its end: the next word
  there may be such a name too. -/
  leadsOn : Option Nat

def Cursor.ofScript (script : Raw) (line : Nat) : Cursor :=
  ⟨script, line, none, 0, [], [], none⟩

abbrev Read (α : Type) := StateT Cursor (Except Flaw) α

namespace Read

def flaw {α : Type} (text : String) : Read α := fun cursor =>
  .error ⟨cursor.line, text⟩

def mistake {α : Type} (text : String) : Read α :=
  flaw ("Syntax error: " ++ text)

def line : Read Nat :=
  return (← get).line

def rest : Read Raw :=
  return (← get).rest

def Cursor.behind (cursor : Cursor) (c : Char) (rest : Raw) : Cursor :=
  if c = '\n' then { cursor with rest, line := cursor.line + 1 + cursor.passed, passed := 0 }
  else { cursor with rest }

def exactly : Read (Option Char) := do
  let cursor ← get
  match cursor.rest with
  | [] => return none
  | c :: rest =>
      set (Cursor.behind cursor c rest)
      return some c

def joinLines : Read Unit :=
  modify fun cursor => go cursor cursor.rest
where
  go (cursor : Cursor) : Raw → Cursor
    | '\\' :: '\n' :: rest => go (Cursor.behind cursor '\n' rest) rest
    | _ => cursor

def peek : Read (Option Char) := do
  joinLines
  return (← rest).head?

def next : Read (Option Char) := do
  joinLines
  exactly

def drop : Read Unit := do
  let _ ← next

def take? (c : Char) : Read Bool := do
  if (← peek) = some c then
    drop
    return true
  else return false

def peekTwo : Read (Option Char × Option Char) := do
  let first ← peek
  let cursor ← get
  drop
  let second ← peek
  set cursor
  return (first, second)

def span (keep : Char → Bool) : Nat → Read Raw
  | 0 => return []
  | fuel + 1 => do
      match ← peek with
      | some c =>
          if keep c then
            drop
            return c :: (← span keep fuel)
          else return []
      | none => return []

def all (keep : Char → Bool) : Read Raw := do
  span keep ((← rest).length + 1)

def skip : Nat → Read Unit
  | 0 => return ()
  | n + 1 => do
      let _ ← exactly
      skip n

def hold (token : Token) : Read Unit :=
  modify fun cursor => { cursor with held := some token }

def unheld : Read (Option Token) := do
  let cursor ← get
  set { cursor with held := none }
  return cursor.held

end Read

end LintBridge.Shell
