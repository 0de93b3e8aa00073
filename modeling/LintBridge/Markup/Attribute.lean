import LintBridge.Markup.Basic
import LintBridge.Text.Basic

/-!
# Attributes of a tag

A key, an equals sign and a value in quotes; white space may stand around each of
them.  Attributes are read from the left, and what is wrong behind the wanted key
is never met.  Places are bytes of the tag's content.
-/

set_option autoImplicit false

namespace LintBridge.Markup

/-- A key with the value between its quotes, not yet decoded. -/
structure Attribute where
  key : String
  value : List Char
  deriving DecidableEq, Repr

inductive AttributeFault where
  | keyWithoutValue (byte : Nat)
  | missingValue (byte : Nat)
  | unquotedValue (byte : Nat)
  | openQuote (byte : Nat) (quote : Char)
  | duplicate (byte first : Nat)
  deriving DecidableEq, Repr

namespace AttributeFault

def message : AttributeFault → String
  | keyWithoutValue byte =>
      "position " ++ toString byte
        ++ ": attribute key must be directly followed by `=` or space"
  | missingValue byte =>
      "position " ++ toString byte ++ ": `=` must be followed by an attribute value"
  | unquotedValue byte =>
      "position " ++ toString byte
        ++ ": attribute value must be enclosed in `\"` or `'`"
  | openQuote byte quote =>
      "position " ++ toString byte ++ ": missing closing quote `" ++ quote.toString
        ++ "` in attribute value"
  | duplicate byte first =>
      "position " ++ toString byte
        ++ ": duplicated attribute, previous declaration at position " ++ toString first

end AttributeFault

namespace Attribute

inductive Place where
  | gap
  | key (start : Nat) (reversed : List Char)
  | keyEnd (start : Nat) (key : String)
  | equals (key : String)
  | value (key : String) (quote : Char) (reversed : List Char)
  deriving DecidableEq, Repr

/-- The keys met so far and where they stand. -/
abbrev Seen := List (String × Nat)

def enter (seen : Seen) (start : Nat) (key : String) : Except AttributeFault (Place × Seen) :=
  match seen.find? (·.1 = key) with
  | some (_, first) => .error (.duplicate start first)
  | none => .ok (.equals key, (key, start) :: seen)

def unfinished? : Place → Nat → Option AttributeFault
  | .gap, _ => none
  | .key _ _, byte => some (.keyWithoutValue byte)
  | .keyEnd _ _, byte => some (.keyWithoutValue byte)
  | .equals _, byte => some (.missingValue byte)
  | .value _ quote _, byte => some (.openQuote byte quote)

/-- One character: the attribute that it completes, and the place after it. -/
def step (place : Place) (seen : Seen) (byte : Nat) (c : Char) :
    Except AttributeFault (Option Attribute × Place × Seen) :=
  match place with
  | .gap => .ok (none, if isSpace c then .gap else .key byte [c], seen)
  | .key start reversed =>
      let key := String.ofList reversed.reverse
      if c = '=' then (enter seen start key).map (none, ·)
      else .ok (none, if isSpace c then .keyEnd start key else .key start (c :: reversed), seen)
  | .keyEnd start key =>
      if isSpace c then .ok (none, .keyEnd start key, seen)
      else if c = '=' then (enter seen start key).map (none, ·)
      else .error (.keyWithoutValue byte)
  | .equals key =>
      if isSpace c then .ok (none, .equals key, seen)
      else if c = '"' || c = '\'' then .ok (none, .value key c [], seen)
      else .error (.unquotedValue byte)
  | .value key quote reversed =>
      if c = quote then .ok (some ⟨key, reversed.reverse⟩, .gap, seen)
      else .ok (none, .value key quote (c :: reversed), seen)

def run : Place → Seen → Nat → List Char → List Attribute × Option AttributeFault
  | place, _, byte, [] => ([], unfinished? place byte)
  | place, seen, byte, c :: rest =>
      match step place seen byte c with
      | .error fault => ([], some fault)
      | .ok (found?, next, seen') =>
          let (attributes, fault?) := run next seen' (byte + c.utf8Size) rest
          (found?.toList ++ attributes, fault?)

/-- The first attribute of a key, unless a fault lies before it. -/
def find (key : String) (found : List Attribute × Option AttributeFault) :
    Except AttributeFault (Option (List Char)) :=
  match found.1.find? (·.key = key) with
  | some found => .ok (some found.value)
  | none =>
      match found.2 with
      | some fault => .error fault
      | none => .ok none

end Attribute

namespace Tag

def attributes (tag : Tag) : List Attribute × Option AttributeFault :=
  let name := tag.content.takeWhile (!isSpace ·)
  Attribute.run .gap [] (Text.length8 name) (tag.content.drop name.length)

end Tag

end LintBridge.Markup
