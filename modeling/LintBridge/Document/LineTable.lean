import LintBridge.Text.Basic

/-!
# Lines of a document

A line feed ends a line; a carriage return directly before it belongs to the line's
end.  A document has one line more than it has line feeds, so the empty document has
one line and a line feed at the end opens an empty one.  Lines are ranges of bytes
without their ends.
-/

set_option autoImplicit false

namespace LintBridge

/-- Bytes of a document, from `start` up to `stop`. -/
structure TextRange where
  start : Nat
  stop : Nat
  deriving DecidableEq, Repr

namespace TextRange

def length (range : TextRange) : Nat :=
  range.stop - range.start

def isEmpty (range : TextRange) : Bool :=
  range.start = range.stop

end TextRange

namespace Text

/-- The text behind the characters that begin in the first bytes. -/
def dropBytes : Nat → List Char → List Char
  | 0, text => text
  | _ + 1, [] => []
  | n + 1, c :: rest => dropBytes (n + 1 - c.utf8Size) rest

/-- The characters that begin in the first bytes. -/
def takeBytes : Nat → List Char → List Char
  | 0, _ => []
  | _ + 1, [] => []
  | n + 1, c :: rest => c :: takeBytes (n + 1 - c.utf8Size) rest

def slice (range : TextRange) (text : List Char) : List Char :=
  takeBytes range.length (dropBytes range.start text)

end Text

structure LineTable where
  lines : List TextRange
  deriving DecidableEq, Repr

namespace LineTable

/-- The line being read: where it starts, where the reader stands, and whether the
character before is a carriage return of this line. -/
structure Cursor where
  start : Nat
  offset : Nat
  afterReturn : Bool

def Cursor.initial : Cursor :=
  ⟨0, 0, false⟩

/-- The line that a line feed at the cursor ends. -/
def Cursor.line (cursor : Cursor) : TextRange :=
  ⟨cursor.start, if cursor.afterReturn then cursor.offset - 1 else cursor.offset⟩

/-- The lines of the text to come, behind those that are done (the last one first). -/
def linesFrom : Cursor → List TextRange → List Char → List TextRange
  | cursor, done, [] => (⟨cursor.start, cursor.offset⟩ :: done).reverse
  | cursor, done, c :: rest =>
      if c = '\n' then
        let next := cursor.offset + 1
        linesFrom ⟨next, next, false⟩ (cursor.line :: done) rest
      else linesFrom ⟨cursor.start, cursor.offset + c.utf8Size, c = '\r'⟩ done rest

def ofText (text : List Char) : LineTable :=
  ⟨linesFrom .initial [] text⟩

def count (table : LineTable) : Nat :=
  table.lines.length

/-- The range of a line, counted from zero. -/
def line? (table : LineTable) (n : Nat) : Option TextRange :=
  table.lines[n]?

end LineTable

end LintBridge
