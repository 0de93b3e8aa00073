import LintBridge.Markup.Basic

/-!
# Reading marked-up text

The reader takes a text one character at a time.  Its state is the kind of thing
it is inside, how many bytes lie behind, and the names of the open elements;
each character may complete one event.  A fault ends the reading and is placed
at the byte where the tag began.

Quotes protect an angle bracket inside a tag.  A comment closes at two dashes and
a bracket, a data section at two square brackets and one, an instruction at a
question mark and one, and a document type at the bracket that balances those
inside it.
-/

set_option autoImplicit false

namespace LintBridge.Markup

inductive Mode where
  | text
  | opened
  | declaration
  | commentOpening
  | comment (dashes : Nat)
  | dataOpening (left : List Char)
  | data (brackets : Nat)
  | doctypeOpening (left : List Char)
  | doctype (named : Bool) (nesting : Nat)
  | instructionOpening
  | instruction (mark : Bool)
  | tag (quote : Option Char) (reversed : List Char)
  deriving DecidableEq, Repr

structure Misread where
  fault : Fault
  byte : Nat
  deriving DecidableEq, Repr

structure Reader where
  mode : Mode
  /-- Bytes behind the reader. -/
  offset : Nat
  /-- The byte of the last angle bracket that opened something. -/
  start : Nat
  /-- Names of the open elements, the innermost first. -/
  names : List String
  deriving DecidableEq, Repr

namespace Reader

def initial : Reader :=
  ⟨.text, 0, 0, []⟩

/-- An end tag's name, without the white space after it.  A name of white space
alone is kept. -/
def endName (content : List Char) : String :=
  if content.all isSpace then String.ofList content
  else String.ofList (content.reverse.dropWhile isSpace).reverse

def complete (names : List String) (content : List Char) :
    Except Fault (Event × List String) :=
  match content with
  | '/' :: rest =>
      let found := endName rest
      match names with
      | [] => .error (.unexpectedEnd found)
      | expected :: outer =>
          if found = expected then .ok (.closing, outer)
          else .error (.mismatchedEnd expected found)
  | _ =>
      if content.getLast? = some '/' then .ok (.empty ⟨content.dropLast⟩, names)
      else
        let tag : Tag := ⟨content⟩
        .ok (.opening tag, tag.name :: names)

def unfinished? : Mode → Option Fault
  | .text => none
  | .opened => some .openTag
  | .declaration => some .unknownDeclaration
  | .commentOpening => some .openComment
  | .comment _ => some .openComment
  | .dataOpening _ => some .openData
  | .data _ => some .openData
  | .doctypeOpening _ => some .openDoctype
  | .doctype _ _ => some .openDoctype
  | .instructionOpening => some .openInstruction
  | .instruction _ => some .openInstruction
  | .tag _ _ => some .openTag

/-- The mode after one more character of a tag; `none` where the tag ends. -/
def tagMode (quote : Option Char) (reversed : List Char) (c : Char) : Option Mode :=
  match quote with
  | some q => some (.tag (if c = q then none else some q) (c :: reversed))
  | none =>
      if c = '>' then none
      else some (.tag (if c = '"' || c = '\'' then some c else none) (c :: reversed))

def move (r : Reader) (c : Char) (mode : Mode) : Option Event × Reader :=
  (none, { r with mode, offset := r.offset + c.utf8Size })

def pass (r : Reader) (c : Char) : Option Event × Reader :=
  (some .aside, { r with mode := .text, offset := r.offset + c.utf8Size })

def step (r : Reader) (c : Char) : Except Misread (Option Event × Reader) :=
  let fail (fault : Fault) : Except Misread (Option Event × Reader) :=
    .error ⟨fault, r.start⟩
  let finishTag (content : List Char) : Except Misread (Option Event × Reader) :=
    match complete r.names content with
    | .error fault => fail fault
    | .ok (event, names) =>
        .ok (some event, { r with mode := .text, offset := r.offset + 1, names })
  match r.mode with
  | .text =>
      if c = '<' then
        .ok (none, { r with mode := .opened, offset := r.offset + 1, start := r.offset })
      else .ok (r.move c .text)
  | .opened =>
      if c = '!' then .ok (r.move c .declaration)
      else if c = '?' then .ok (r.move c .instructionOpening)
      else
        match tagMode none [] c with
        | some mode => .ok (r.move c mode)
        | none => finishTag []
  | .declaration =>
      if c = '-' then .ok (r.move c .commentOpening)
      else if c = '[' then .ok (r.move c (.dataOpening "CDATA[".toList))
      else if c = 'D' || c = 'd' then .ok (r.move c (.doctypeOpening "OCTYPE".toList))
      else fail .unknownDeclaration
  | .commentOpening =>
      if c = '-' then .ok (r.move c (.comment 0)) else fail .openComment
  | .comment dashes =>
      if c = '-' then .ok (r.move c (.comment (dashes + 1)))
      else if c = '>' && 2 ≤ dashes then .ok (r.pass c)
      else .ok (r.move c (.comment 0))
  | .dataOpening [] => fail .openData
  | .dataOpening (expected :: left) =>
      if c = expected then
        .ok (r.move c (if left.isEmpty then .data 0 else .dataOpening left))
      else fail .openData
  | .data brackets =>
      if c = ']' then .ok (r.move c (.data (brackets + 1)))
      else if c = '>' && 2 ≤ brackets then .ok (r.pass c)
      else .ok (r.move c (.data 0))
  | .doctypeOpening [] => fail .openDoctype
  | .doctypeOpening (expected :: left) =>
      if c.toUpper = expected then
        .ok (r.move c (if left.isEmpty then .doctype false 0 else .doctypeOpening left))
      else fail .openDoctype
  | .doctype named nesting =>
      if c = '<' then .ok (r.move c (.doctype true (nesting + 1)))
      else if c = '>' then
        if nesting = 0 then
          if named then .ok (r.pass c) else .error ⟨.doctypeWithoutName, r.offset⟩
        else .ok (r.move c (.doctype true (nesting - 1)))
      else .ok (r.move c (.doctype (named || !isSpace c) nesting))
  | .instructionOpening =>
      if c = '>' then fail .openInstruction else .ok (r.move c (.instruction (c = '?')))
  | .instruction mark =>
      if c = '>' && mark then .ok (r.pass c) else .ok (r.move c (.instruction (c = '?')))
  | .tag quote reversed =>
      match tagMode quote reversed c with
      | some mode => .ok (r.move c mode)
      | none => finishTag reversed.reverse

/-- The events of the characters to come, up to the first fault, behind those that
are done (the last one first). -/
def run : Reader → List Event → List Char → List Event × Option Misread
  | r, done, [] => (done.reverse, (unfinished? r.mode).map fun fault => ⟨fault, r.start⟩)
  | r, done, c :: rest =>
      match r.step c with
      | .error misread => (done.reverse, some misread)
      | .ok (event?, next) => run next (event?.toList ++ done) rest

end Reader

/-- The events of a text.  A byte order mark in front is no part of it. -/
def read (text : List Char) : List Event × Option Misread :=
  match text with
  | '\uFEFF' :: rest => Reader.initial.run [] rest
  | _ => Reader.initial.run [] text

end LintBridge.Markup
