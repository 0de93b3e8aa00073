import LintBridge.Json.Decoder

/-!
# Checks

A check says whether a value has a shape and what is wrong with it otherwise.  Nothing
of the value is kept.

A mixed record sets the members aside that are not its own, and each of its parts takes
its members from those.  So a wrong or missing member of its own is met before one of a
part, and it never comes as an array.
-/

set_option autoImplicit false

namespace LintBridge.Json

abbrev Check := Decoder Unit

namespace Check

def by' {α : Type} (decode : Decoder α) : Check :=
  fun value => (decode value).map fun _ => ()

def text : Check :=
  by' Decoder.text

def bool : Check :=
  by' Decoder.bool

def int32 : Check :=
  by' Decoder.int32

def nat32 : Check :=
  by' Decoder.nat32

def any : Check :=
  fun _ => .ok ()

def fraction : Check
  | .integer _ | .decimal _ => .ok ()
  | other => .error (.wrongType other "f32")

def option (check : Check) : Check :=
  by' (Decoder.option check)

def list (check : Check) : Check :=
  by' (Decoder.list check)

def texts : Check :=
  list text

def dictionary (key value : Check) : Check
  | .object members => members.forM fun member => do
      key (.string member.1)
      value member.2
  | other => .error (.wrongType other "map")

/-- One of some words, in the wording of a list. -/
def word (known : List String) : Check :=
  let quoted := known.map fun word => "`" ++ word ++ "`"
  let wording :=
    match quoted with
    | [first, second] => first ++ " or " ++ second
    | words => "one of " ++ String.intercalate ", " words
  by' (Decoder.word wording fun word => if known.contains word then some () else none)

def anyOf (name : String) (checks : List Check) : Check := fun value =>
  if checks.any fun check => (check value).isOk then .ok () else .error (.noVariant name)

end Check

namespace Field

def required (name : String) (check : Check) : Field :=
  ⟨name, .required, check⟩

def optional (name : String) (check : Check) : Field :=
  ⟨name, .optional, check.option⟩

/-- A field that may be missing, also at the end of an array. -/
def defaulted (name : String) (check : Check) : Field :=
  ⟨name, .defaulted, check⟩

end Field

inductive Part where
  | fields (list : List Field)
  /-- All members that are not the record's own. -/
  | others (check : Check)

namespace Check

def record (name : String) (fields : List Field) : Check :=
  by' (Shape.mk name fields).members

/-- A record that was set aside when it was met. -/
def keptRecord (name : String) (fields : List Field) : Check :=
  by' (Shape.mk name fields).keptMembers

def mixed (name : String) (own : List Field) (parts : List Part) : Check
  | .object members => do
      let shape : Shape := ⟨name, own⟩
      shape.checkMembers members
      Shape.checkPresence members own
      let left := members.filter fun member => !own.any (·.name = member.1)
      parts.forM fun
        | .fields list => do
            (Shape.mk name list).checkMembers left
            Shape.checkPresence left list
        | .others check => left.forM fun member => check member.2
  | other => .error (.wrongType other ("struct " ++ name))

end Check

end LintBridge.Json
