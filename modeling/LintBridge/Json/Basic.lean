/-!
# JSON values

An object keeps its members by the order of their keys and has each key once; a
member that is put in again replaces the earlier one.  A number is an integer
where it was written as one and fits 64 bits, and a binary fraction otherwise.
-/

set_option autoImplicit false

namespace LintBridge

inductive Json where
  | null
  | bool (value : Bool)
  | integer (value : Int)
  | decimal (value : Float)
  | string (value : String)
  | array (items : List Json)
  | object (members : List (String × Json))
  deriving Inhabited

namespace Json

abbrev Members := List (String × Json)

namespace Members

def insert (key : String) (value : Json) : Members → Members
  | [] => [(key, value)]
  | (k, v) :: rest =>
      if key < k then (key, value) :: (k, v) :: rest
      else if key = k then (key, value) :: rest
      else (k, v) :: insert key value rest

def ofList (members : List (String × Json)) : Members :=
  members.foldl (fun done m => insert m.1 m.2 done) []

def find? (key : String) (members : Members) : Option Json :=
  (List.find? (fun m => m.1 = key) members).map (·.2)

end Members

/-- An object of the given members; the last one of a key counts. -/
def ofMembers (members : List (String × Json)) : Json :=
  .object (Members.ofList members)

def member? (key : String) : Json → Option Json
  | .object members => Members.find? key members
  | _ => none

end Json

end LintBridge
