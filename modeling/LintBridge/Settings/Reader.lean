import LintBridge.Json.Decoder
import LintBridge.Json.Reader
import LintBridge.LintError
import LintBridge.Settings.Basic

/-!
# Settings as JSON

The shape of the settings, and the closed schema that a settings text is checked against.
-/

set_option autoImplicit false

/-!
## Settings as JSON

Every member may be missing.  The two optional paths are written only where they are
set.
-/

namespace LintBridge

open Json

namespace LintSettings

def shape : Shape :=
  ⟨"LintSettings",
    [.of "enabled" Decoder.bool .defaulted, .of "executable" Decoder.text .defaulted,
     .of "nodeInterpreter" Decoder.text .defaulted, .of "configFile" Decoder.text .defaulted,
     .of "customRulesPath" Decoder.text .defaulted,
     .of "treatAllAsWarnings" Decoder.bool .defaulted]⟩

def decode : Decoder LintSettings := fun value => do
  let members ← shape.members value
  return { enabled := ← members.get "enabled" Decoder.bool false
           executable := ← members.get "executable" Decoder.text ""
           nodeInterpreter := ← members.get "nodeInterpreter" Decoder.text ""
           configFile := ← members.get "configFile" Decoder.text ""
           customRulesPath := ← members.get "customRulesPath" Decoder.text ""
           treatAllAsWarnings := ← members.get "treatAllAsWarnings" Decoder.bool false }

/-- A member that is left out where its text is empty. -/
def optionalMember (key text : String) : List (String × Json) :=
  if text = "" then [] else [(key, .string text)]

/-- The members in the order in which they are declared. -/
def members (settings : LintSettings) : List (String × Json) :=
  [("enabled", .bool settings.enabled), ("executable", .string settings.executable),
   ("nodeInterpreter", .string settings.nodeInterpreter)]
    ++ optionalMember "configFile" settings.configFile
    ++ optionalMember "customRulesPath" settings.customRulesPath
    ++ [("treatAllAsWarnings", .bool settings.treatAllAsWarnings)]

def toJson (settings : LintSettings) : Json :=
  .ofMembers settings.members

end LintSettings

namespace LintConfiguration

/-- Paths are texts here. -/
def path : Decoder String
  | .string text => .ok text
  | other => .error (.wrongType other "path string")

def shape : Shape :=
  ⟨"LintConfiguration",
    [.of "workingDir" path .required, .of "target" Decoder.text .required,
     .of "interpreter" Decoder.text .required, .of "executable" Decoder.text .required,
     .of "configFile" Decoder.text .required, .of "rulesDir" Decoder.text .required]⟩

def decode : Decoder LintConfiguration := fun value => do
  let members ← shape.members value
  return { workingDirectory := .ofText (← members.need "workingDir" path)
           target := ← members.need "target" Decoder.text
           interpreter := ← members.need "interpreter" Decoder.text
           executable := ← members.need "executable" Decoder.text
           configFile := ← members.need "configFile" Decoder.text
           rulesDirectory := ← members.need "rulesDir" Decoder.text }

def toJson (config : LintConfiguration) : Json :=
  .ofMembers
    [("workingDir", .string config.workingDirectory.text), ("target", .string config.target),
     ("interpreter", .string config.interpreter), ("executable", .string config.executable),
     ("configFile", .string config.configFile), ("rulesDir", .string config.rulesDirectory)]

end LintConfiguration

end LintBridge

/-!
## Reading settings

A settings text is checked against a closed schema before it is taken apart: it is an
object, each member is known, and the member's value is of the known type.  Members
are looked at in the order of their keys.
-/

namespace LintBridge

namespace Settings

inductive SchemaType where
  | object
  | boolean
  | string
  deriving DecidableEq, Repr

namespace SchemaType

def name : SchemaType → String
  | object => "object"
  | boolean => "boolean"
  | string => "string"

def admits : SchemaType → Json → Bool
  | object, .object _ => true
  | boolean, .bool _ => true
  | string, .string _ => true
  | _, _ => false

end SchemaType

def typeOf? : String → Option SchemaType
  | "$schema" => some .string
  | "enabled" => some .boolean
  | "executable" => some .string
  | "nodeInterpreter" => some .string
  | "configFile" => some .string
  | "customRulesPath" => some .string
  | "treatAllAsWarnings" => some .boolean
  | _ => none

inductive SchemaFault where
  | wrongType (value : Json) (expected : SchemaType) (pointer : String)
  | unknownMember (key : String)

def SchemaFault.message : SchemaFault → String
  | wrongType value expected pointer =>
      value.compact ++ " is not of type \"" ++ expected.name ++ "\" at " ++ pointer
  | unknownMember key =>
      "Additional properties are not allowed ('" ++ key ++ "' was unexpected) at "

def checkMembers : Json.Members → Except SchemaFault Unit
  | [] => .ok ()
  | (key, value) :: rest =>
      match typeOf? key with
      | none => .error (.unknownMember key)
      | some type =>
          if type.admits value then checkMembers rest
          else .error (.wrongType value type ("/" ++ key))

def check : Json → Except SchemaFault Unit
  | .object members => checkMembers members
  | other => .error (.wrongType other .object "")

end Settings

namespace LintSettings

def ofValue (value : Json) : Except LintError LintSettings :=
  match Settings.check value with
  | .error fault => .error (.config ("Settings validation failed: " ++ fault.message))
  | .ok () => (decode value).mapError fun m => .config ("Invalid settings: " ++ m.message)

def ofText (text : String) : Except LintError LintSettings :=
  match Json.read text with
  | .error misread => .error (.config ("Invalid JSON: " ++ misread.message))
  | .ok value => ofValue value

end LintSettings

end LintBridge
