import LintBridge.Decimal.Signed
import LintBridge.Markup.Attribute
import LintBridge.Markup.Reader
import LintBridge.Markup.Reference
import LintBridge.Report.Basic
import LintBridge.Text.Basic
import LintBridge.Text.Quoted

/-!
# Elements of reports

What the elements of a report say, and what is wrong with a text that is none.
-/

set_option autoImplicit false

/-!
## Malformed reports

Every way in which a text fails to be a report, and its wording.
-/

namespace LintBridge

inductive Malformed where
  | markup (misread : Markup.Misread)
  | attributes (fault : Markup.AttributeFault)
  | reference (fault : Markup.ReferenceFault)
  | otherRoot (name : String)
  | secondRoot
  | notAnInteger (key value : String)
  | unclosed (name : String)
  | noRoot
  deriving DecidableEq, Repr

namespace Malformed

def message : Malformed → String
  | markup misread => misread.fault.message ++ " at byte " ++ toString misread.byte
  | attributes fault => fault.message
  | reference fault => fault.message
  | otherRoot name => "expected <checkstyle> root, found <" ++ name ++ ">"
  | secondRoot => "multiple root elements"
  | notAnInteger key value =>
      "attribute '" ++ key ++ "' is not an integer: " ++ Text.quoted value
  | unclosed name => "unexpected end of input inside <" ++ name ++ ">"
  | noRoot => "missing <checkstyle> root element"

end Malformed

end LintBridge

/-!
## Attributes of report elements

An element tells its properties by attributes.  A missing text is empty, a missing
number zero and a missing severity that of an error; a number may have blanks
around it.
-/

namespace LintBridge.Markup.Tag

def text? (tag : Tag) (key : String) : Except Malformed (Option String) :=
  match Attribute.find key tag.attributes with
  | .error fault => .error (.attributes fault)
  | .ok none => .ok none
  | .ok (some value) =>
      match decodeValue value with
      | .error fault => .error (.reference fault)
      | .ok text => .ok (some text)

/-- The value of a key, empty where there is none. -/
def text (tag : Tag) (key : String) : Except Malformed String :=
  (tag.text? key).map (·.getD "")

def integer (tag : Tag) (key : String) : Except Malformed Int32 :=
  match tag.text? key with
  | .error fault => .error fault
  | .ok none => .ok 0
  | .ok (some value) =>
      match Decimal.readInt32 (Text.trimChars value.toList) with
      | some n => .ok n
      | none => .error (.notAnInteger key value)

def issue (tag : Tag) : Except Malformed Issue := do
  let source ← tag.text "source"
  let line ← tag.integer "line"
  let column ← tag.integer "column"
  let severity ← tag.text? "severity"
  let message ← tag.text "message"
  return { source, line, column, severity := .ofWord? severity, message }

end LintBridge.Markup.Tag
