import LintBridge.Json.Numeral
import LintBridge.Text.Basic

/-!
# Reading JSON

The reader takes a text one character at a time.  Its state is the containers that
are open and what may come next.  Containers nest less than 128 deep.
-/

set_option autoImplicit false

namespace LintBridge.Json

inductive Frame where
  /-- Items, the last one first. -/
  | list (items : List Json)
  /-- Members, and the key whose value is due. -/
  | record (members : Members) (key : String)

inductive Escape where
  | none
  | slash
  /-- In a character's number: the bytes still due, the value unless a digit was bad,
  and the first half of a pair. -/
  | number (due : Nat) (value : Option Nat) (high : Option Nat)
  | half (high : Nat)
  | halfSlash (high : Nat)
  deriving DecidableEq, Repr

inductive Mode where
  | value
  | listStart
  | listNext
  | recordStart
  | recordNext
  | colon
  | after
  | word (left : List Char) (value : Json)
  | number (numeral : Numeral)
  | string (isKey : Bool) (reversed : List Char) (escape : Escape)

structure Reader where
  mode : Mode
  /-- The open containers, the innermost first. -/
  frames : List Frame
  result : Option Json
  place : Place

namespace Reader

def initial : Reader :=
  ⟨.value, [], none, .start⟩

def isSpace (c : Char) : Bool :=
  c = ' ' || c = '\n' || c = '\t' || c = '\r'

def deliver (r : Reader) (value : Json) : Reader :=
  match r.frames with
  | [] => { r with mode := .after, result := some value }
  | .list items :: outer => { r with mode := .after, frames := .list (value :: items) :: outer }
  | .record members key :: outer =>
      { r with mode := .after, frames := .record (members.insert key value) key :: outer }

def deliverText (r : Reader) (isKey : Bool) (text : String) : Reader :=
  if isKey then
    match r.frames with
    | .record members _ :: outer =>
        { r with mode := .colon, frames := .record members text :: outer }
    | _ => r
  else r.deliver (.string text)

def shut (r : Reader) : Reader :=
  match r.frames with
  | [] => r
  | .list items :: outer => { r with frames := outer }.deliver (.array items.reverse)
  | .record members _ :: outer => { r with frames := outer }.deliver (.object members)

def openFrame (r : Reader) (frame : Frame) (mode : Mode) : Except Fault Reader :=
  if r.frames.length + 1 < 128 then .ok { r with mode, frames := frame :: r.frames }
  else .error .tooDeep

def beginValue (r : Reader) (c : Char) : Except Fault Reader :=
  if isSpace c then .ok r
  else if c = '"' then .ok { r with mode := .string false [] .none }
  else if c = '[' then r.openFrame (.list []) .listStart
  else if c = '\x7b' then r.openFrame (.record [] "") .recordStart
  else if c = 'n' then .ok { r with mode := .word ['u', 'l', 'l'] .null }
  else if c = 't' then .ok { r with mode := .word ['r', 'u', 'e'] (.bool true) }
  else if c = 'f' then .ok { r with mode := .word ['a', 'l', 's', 'e'] (.bool false) }
  else
    match Numeral.begin? c with
    | some numeral => .ok { r with mode := .number numeral }
    | none => .error .noValue

def proceed (r : Reader) (c : Char) : Except Fault Reader :=
  if isSpace c then .ok r
  else
    match r.frames with
    | [] => .error .trailingCharacters
    | .list _ :: _ =>
        if c = ',' then .ok { r with mode := .listNext }
        else if c = ']' then .ok r.shut
        else .error .noListEnd
    | .record _ _ :: _ =>
        if c = ',' then .ok { r with mode := .recordNext }
        else if c = '\x7d' then .ok r.shut
        else .error .noObjectEnd

def unescape? (c : Char) : Option Char :=
  match c with
  | '"' => some '"'
  | '\\' => some '\\'
  | '/' => some '/'
  | 'b' => some '\x08'
  | 'f' => some '\x0c'
  | 'n' => some '\n'
  | 'r' => some '\r'
  | 't' => some '\t'
  | _ => none

/-- What a complete number of four digits does to a string: it gives a character, or
is the first half of a pair. -/
def unit (high : Option Nat) (n : Nat) : Except Fault (Option Char × Escape) :=
  match high with
  | none =>
      if 0xDC00 ≤ n && n ≤ 0xDFFF then .error .loneSurrogate
      else if 0xD800 ≤ n && n ≤ 0xDBFF then .ok (none, .half n)
      else .ok (some (Char.ofNat n), .none)
  | some high =>
      if 0xDC00 ≤ n && n ≤ 0xDFFF then
        .ok (some (Char.ofNat ((high - 0xD800) * 1024 + (n - 0xDC00) + 0x10000)), .none)
      else .error .loneSurrogate

/-- One character inside a string.  A fault stands behind the given number of the
character's bytes. -/
def stringStep (r : Reader) (isKey : Bool) (reversed : List Char) (escape : Escape)
    (c : Char) : Except (Fault × Nat) Reader :=
  let stay (reversed : List Char) (escape : Escape) : Except (Fault × Nat) Reader :=
    .ok { r with mode := .string isKey reversed escape }
  match escape with
  | .none =>
      if c = '"' then .ok (r.deliverText isKey (String.ofList reversed.reverse))
      else if c = '\\' then stay reversed .slash
      else if c.toNat < 0x20 then .error (.rawControl, 1)
      else stay (c :: reversed) .none
  | .slash =>
      if c = 'u' then stay reversed (.number 4 (some 0) none)
      else
        match unescape? c with
        | some found => stay (found :: reversed) .none
        | none => .error (.badEscape, 1)
  | .number due value high =>
      let next := value.bind fun n => (Text.hexDigit? c).map (n * 16 + ·)
      if c.utf8Size < due then stay reversed (.number (due - c.utf8Size) next high)
      else
        match next with
        | none => .error (.badEscape, due)
        | some n =>
            match unit high n with
            | .error fault => .error (fault, due)
            | .ok (found?, escape) => stay (found?.toList ++ reversed) escape
  | .half high =>
      if c = '\\' then stay reversed (.halfSlash high) else .error (.missingSurrogate, 1)
  | .halfSlash high =>
      if c = 'u' then stay reversed (.number 4 (some 0) (some high))
      else .error (.missingSurrogate, 1)

/-- One character.  A fault stands behind the given number of its bytes. -/
def turn (r : Reader) (c : Char) : Except (Fault × Nat) Reader :=
  let peek (result : Except Fault Reader) : Except (Fault × Nat) Reader :=
    result.mapError (·, 1)
  match r.mode with
  | .value => peek (r.beginValue c)
  | .listStart => if c = ']' then .ok r.shut else peek (r.beginValue c)
  | .listNext => if c = ']' then .error (.trailingComma, 1) else peek (r.beginValue c)
  | .recordStart =>
      if isSpace c then .ok r
      else if c = '"' then .ok { r with mode := .string true [] .none }
      else if c = '\x7d' then .ok r.shut
      else .error (.keyNotString, 1)
  | .recordNext =>
      if isSpace c then .ok r
      else if c = '"' then .ok { r with mode := .string true [] .none }
      else if c = '\x7d' then .error (.trailingComma, 1)
      else .error (.keyNotString, 1)
  | .colon =>
      if isSpace c then .ok r
      else if c = ':' then .ok { r with mode := .value }
      else .error (.noColon, 1)
  | .after => peek (r.proceed c)
  | .word [] value => peek ((r.deliver value).proceed c)
  | .word (expected :: left) value =>
      if c = expected then
        .ok (if left.isEmpty then r.deliver value else { r with mode := .word left value })
      else .error (.unknownWord, 1)
  | .number numeral =>
      match numeral.turn c with
      | .more next => .ok { r with mode := .number next }
      | .refused fault => .error (fault, 1)
      | .ends =>
          match numeral.value with
          | .error fault => .error (fault, 0)
          | .ok value => peek ((r.deliver value).proceed c)
  | .string isKey reversed escape => r.stringStep isKey reversed escape c

def step (r : Reader) (c : Char) : Except Misread Reader :=
  match r.turn c with
  | .ok next => .ok { next with place := r.place.past c }
  | .error (fault, bytes) => .error ⟨fault, r.place.into c bytes⟩

/-- What the text lacks when it ends behind a complete value. -/
def missing (r : Reader) : Except Fault Json :=
  match r.frames with
  | .list _ :: _ => .error .endInList
  | .record _ _ :: _ => .error .endInObject
  | [] =>
      match r.result with
      | some value => .ok value
      | none => .error .endInValue

def finish (r : Reader) : Except Misread Json :=
  let result : Except Fault Json :=
    match r.mode with
    | .value | .listNext | .recordNext | .word _ _ => .error .endInValue
    | .listStart => .error .endInList
    | .recordStart | .colon => .error .endInObject
    | .string _ _ _ => .error .endInString
    | .number numeral =>
        match numeral.value with
        | .error fault => .error fault
        | .ok value => (r.deliver value).missing
    | .after => r.missing
  result.mapError (⟨·, r.place⟩)

end Reader

def read (text : String) : Except Misread Json :=
  text.toList.foldlM Reader.step Reader.initial >>= Reader.finish

end LintBridge.Json
