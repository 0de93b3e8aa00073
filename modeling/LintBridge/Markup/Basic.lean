/-!
# Tags and events of a marked-up document

A document is a series of events: an element begins or ends, an empty element
stands alone, or something passes that carries no structure (text, comments,
instructions, declarations).
-/

set_option autoImplicit false

namespace LintBridge.Markup

def isSpace (c : Char) : Bool :=
  c = ' ' || c = '\t' || c = '\n' || c = '\r'

/-- What stands between the angle brackets of a tag that begins an element,
without the slash of an empty one. -/
structure Tag where
  content : List Char
  deriving DecidableEq, Repr

namespace Tag

/-- The name reaches to the first white space. -/
def name (tag : Tag) : String :=
  String.ofList (tag.content.takeWhile (!isSpace ·))

end Tag

inductive Event where
  | opening (tag : Tag)
  | empty (tag : Tag)
  | closing
  | aside
  deriving DecidableEq, Repr

inductive Fault where
  | openTag
  | openComment
  | openData
  | openDoctype
  | openInstruction
  | unknownDeclaration
  | doctypeWithoutName
  | unexpectedEnd (found : String)
  | mismatchedEnd (expected found : String)
  deriving DecidableEq, Repr

namespace Fault

def message : Fault → String
  | openTag => "syntax error: tag not closed: `>` not found before end of input"
  | openComment => "syntax error: comment not closed: `-->` not found before end of input"
  | openData => "syntax error: CDATA not closed: `]]>` not found before end of input"
  | openDoctype => "syntax error: DOCTYPE not closed: `>` not found before end of input"
  | openInstruction =>
      "syntax error: processing instruction or xml declaration not closed: "
        ++ "`?>` not found before end of input"
  | unknownDeclaration => "syntax error: unknown or missed symbol in markup"
  | doctypeWithoutName =>
      "ill-formed document: `<!DOCTYPE>` declaration does not contain a name of a document type"
  | unexpectedEnd found =>
      "ill-formed document: close tag `</" ++ found ++ ">` does not match any open tag"
  | mismatchedEnd expected found =>
      "ill-formed document: expected `</" ++ expected ++ ">`, but `</" ++ found
        ++ ">` was found"

end Fault

end LintBridge.Markup
