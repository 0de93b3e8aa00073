import LintBridge.Json.Writer
import LintBridge.Decimal.Signed
import LintBridge.Text.Quoted

/-!
# Values of a known shape

Decoders take a value apart that is expected to have a shape.  A record is an object
whose members are looked at in the order of their keys, so a member of the wrong type
is met before a missing one; unknown members are passed over.  A record may also come
as an array of its fields in order.
-/

set_option autoImplicit false

namespace LintBridge.Json

inductive Mismatch where
  | wrongType (found : Json) (expected : String)
  | wrongValue (found expected : String)
  | missing (field : String)
  | unknownWord (found : String) (known : String)
  | wrongLength (length : Nat) (expected : String)
  /-- No shape of an alternative fits. -/
  | noVariant (name : String)
  /-- The reason is not one of form. -/
  | refused (text : String)

/-- How a value is named where another one was expected. -/
def describe : Json → String
  | .null => "null"
  | .bool value => "boolean `" ++ (if value then "true" else "false") ++ "`"
  | .integer n => "integer `" ++ toString n ++ "`"
  | .decimal x => "floating point `" ++ numberLayout.writeFloat x ++ "`"
  | .string text => "string " ++ Text.quoted text
  | .array _ => "sequence"
  | .object _ => "map"

def Mismatch.message : Mismatch → String
  | wrongType found expected => "invalid type: " ++ found.describe ++ ", expected " ++ expected
  | wrongValue found expected => "invalid value: " ++ found ++ ", expected " ++ expected
  | missing field => "missing field `" ++ field ++ "`"
  | unknownWord found known => "unknown variant `" ++ found ++ "`, expected " ++ known
  | wrongLength length expected =>
      "invalid length " ++ toString length ++ ", expected " ++ expected
  | noVariant name => "data did not match any variant of untagged enum " ++ name
  | refused text => text

abbrev Decoder (α : Type) := Json → Except Mismatch α

namespace Decoder

def text : Decoder String
  | .string text => .ok text
  | other => .error (.wrongType other "a string")

def bool : Decoder Bool
  | .bool value => .ok value
  | other => .error (.wrongType other "a boolean")

def int32 : Decoder Int32
  | .integer n =>
      match Decimal.int32? n with
      | some word => .ok word
      | none => .error (.wrongValue (Json.integer n).describe "i32")
  | other => .error (.wrongType other "i32")

def natural : Decoder Nat
  | .integer n =>
      if 0 ≤ n then .ok n.toNat
      else .error (.wrongValue (Json.integer n).describe "usize")
  | other => .error (.wrongType other "usize")

def nat32 : Decoder Nat
  | .integer n =>
      if 0 ≤ n && n < 4294967296 then .ok n.toNat
      else .error (.wrongValue (Json.integer n).describe "u32")
  | other => .error (.wrongType other "u32")

def any : Decoder Json :=
  .ok

def option {α : Type} (decode : Decoder α) : Decoder (Option α)
  | .null => .ok none
  | value => (decode value).map some

def list {α : Type} (decode : Decoder α) : Decoder (List α)
  | .array items => items.mapM decode
  | other => .error (.wrongType other "a sequence")

/-- One of the words; it may come as the only member of an object, with null. -/
def word {α : Type} (known : String) (find? : String → Option α) : Decoder α
  | .string text => choose text
  | .object [(key, value)] => do
      let found ← choose key
      match value with
      | .null => return found
      | other => throw (.wrongType other "unit")
  | .object _ => .error (.wrongValue "map" "map with a single key")
  | other => .error (.wrongType other "string or map")
where
  choose (text : String) : Except Mismatch α :=
    match find? text with
    | some found => .ok found
    | none => .error (.unknownWord text known)

end Decoder

inductive Presence where
  | required
  /-- Only an array must have it. -/
  | optional
  | defaulted
  deriving DecidableEq, Repr

structure Field where
  name : String
  presence : Presence
  check : Decoder Unit

def Field.of {α : Type} (name : String) (decode : Decoder α)
    (presence : Presence) : Field :=
  ⟨name, presence, fun value => (decode value).map fun _ => ()⟩

structure Shape where
  name : String
  fields : List Field

namespace Shape

/-- The first member of a wrong type, in the order of the members. -/
def checkMembers (shape : Shape) : Members → Except Mismatch Unit
  | [] => .ok ()
  | (key, value) :: rest =>
      match shape.fields.find? (·.name = key) with
      | none => checkMembers shape rest
      | some field => do
          field.check value
          checkMembers shape rest

/-- The first required field that no member fills. -/
def checkPresence (members : Members) : List Field → Except Mismatch Unit
  | [] => .ok ()
  | field :: rest =>
      if field.presence = .required && (members.find? field.name).isNone then
        .error (.missing field.name)
      else checkPresence members rest

/-- The members that an array of `length` items stands for. -/
def pair (shape : Shape) (surplus : String) (length : Nat) :
    List Field → List Json → Except Mismatch Members
  | [], [] => .ok []
  | [], _ :: _ => .error (.wrongLength length surplus)
  | field :: fields, [] =>
      if field.presence = .defaulted then pair shape surplus length fields []
      else
        .error (.wrongLength length
          ("struct " ++ shape.name ++ " with " ++ toString shape.fields.length ++ " elements"))
  | field :: fields, item :: items => do
      field.check item
      let rest ← pair shape surplus length fields items
      return (field.name, item) :: rest

def membersWith (shape : Shape) (surplus : String) : Decoder Members
  | .object members => do
      shape.checkMembers members
      checkPresence members shape.fields
      return members
  | .array items => shape.pair surplus items.length shape.fields items
  | other => .error (.wrongType other ("struct " ++ shape.name))

def members (shape : Shape) : Decoder Members :=
  shape.membersWith "fewer elements in array"

/-- The members of a record that was set aside when it was met, and is read later. -/
def keptMembers (shape : Shape) : Decoder Members :=
  let count := shape.fields.length
  shape.membersWith
    (if count = 1 then "1 element in sequence" else toString count ++ " elements in sequence")

end Shape

namespace Members

/-- The value of a field, or what stands for a missing one. -/
def get {α : Type} (members : Members) (key : String) (decode : Decoder α) (missing : α) :
    Except Mismatch α :=
  match members.find? key with
  | some value => decode value
  | none => .ok missing

def need {α : Type} (members : Members) (key : String) (decode : Decoder α) :
    Except Mismatch α :=
  match members.find? key with
  | some value => decode value
  | none => .error (.missing key)

end Members

end LintBridge.Json
