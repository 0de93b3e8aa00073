import LintBridge.Document.LineTable

/-!
# Editor positions

An editor counts lines from zero and, inside a line, UTF-16 units.  Every byte offset
up to the length of the text has a position; one inside a character has that
character's end.
-/

set_option autoImplicit false

namespace LintBridge

/-- A place in a document as an editor counts it. -/
structure Position where
  line : Nat
  character : Nat
  deriving DecidableEq, Repr

namespace Position

def start : Position :=
  ⟨0, 0⟩

def past (p : Position) (c : Char) : Position :=
  if c = '\n' then ⟨p.line + 1, 0⟩ else ⟨p.line, p.character + Text.units16 c⟩

/-- Walks on until `current` has reached the offset. -/
def walk (offset : Nat) : Nat → Position → List Char → Position
  | _, p, [] => p
  | current, p, c :: rest =>
      if offset ≤ current then p else walk offset (current + c.utf8Size) (p.past c) rest

def ofOffset? (text : List Char) (offset : Nat) : Option Position :=
  if offset ≤ Text.length8 text then some (walk offset 0 start text) else none

end Position

structure EditorRange where
  start : Position
  stop : Position
  deriving DecidableEq, Repr

def EditorRange.ofBytes? (text : List Char) (range : TextRange) : Option EditorRange := do
  let start ← Position.ofOffset? text range.start
  let stop ← Position.ofOffset? text range.stop
  return ⟨start, stop⟩

end LintBridge
