import LintBridge.Uri.Basic

/-!
# Open documents

What the server knows of the editor's documents, and what follows when the editor tells
of one.  An opened or saved text is linted at once; a changed one later, unless it has
changed again by then.  The version tells whether it has.
-/

set_option autoImplicit false

namespace LintBridge.Editor

structure OpenDocument where
  text : String
  version : Int32
  deriving DecidableEq, Repr

/-- The open documents by address, in the order of opening. -/
structure Documents where
  entries : List (Uri × OpenDocument)
  deriving DecidableEq, Repr

inductive DocumentEvent where
  | opened (uri : Uri) (text : String) (version : Int32)
  /-- Each text is the whole document; the last one counts. -/
  | changed (uri : Uri) (version : Int32) (texts : List String)
  | saved (uri : Uri) (text? : Option String)
  | closed (uri : Uri)
  deriving DecidableEq, Repr

structure Validation where
  uri : Uri
  text : String
  version? : Option Int32
  deriving DecidableEq, Repr

structure Edit where
  uri : Uri
  text : String
  version : Int32
  deriving DecidableEq, Repr

def Edit.validation (edit : Edit) : Validation :=
  ⟨edit.uri, edit.text, some edit.version⟩

inductive Consequence where
  | nothing
  | validate (v : Validation)
  /-- To be validated when the document rests. -/
  | postpone (edit : Edit)
  | clear (uri : Uri)
  deriving DecidableEq, Repr

namespace Documents

def empty : Documents :=
  ⟨[]⟩

def find? (docs : Documents) (uri : Uri) : Option OpenDocument :=
  (docs.entries.find? (·.1 = uri)).map (·.2)

/-- Replaces the document in a list, or puts it at the end. -/
def putIn (uri : Uri) (doc : OpenDocument) :
    List (Uri × OpenDocument) → List (Uri × OpenDocument)
  | [] => [(uri, doc)]
  | (other, old) :: rest =>
      if other = uri then (uri, doc) :: rest else (other, old) :: putIn uri doc rest

def put (docs : Documents) (uri : Uri) (doc : OpenDocument) : Documents :=
  ⟨putIn uri doc docs.entries⟩

def drop (docs : Documents) (uri : Uri) : Documents :=
  ⟨docs.entries.filter (·.1 ≠ uri)⟩

def isAt (docs : Documents) (uri : Uri) (version : Int32) : Bool :=
  match docs.find? uri with
  | some doc => doc.version = version
  | none => false

def apply (docs : Documents) : DocumentEvent → Documents × Consequence
  | .opened uri text version =>
      (docs.put uri ⟨text, version⟩, .validate ⟨uri, text, some version⟩)
  | .changed uri version texts =>
      match texts.getLast? with
      | none => (docs, .nothing)
      | some text => (docs.put uri ⟨text, version⟩, .postpone ⟨uri, text, version⟩)
  | .saved uri (some text) =>
      match docs.find? uri with
      | some doc =>
          (docs.put uri { doc with text }, .validate ⟨uri, text, some doc.version⟩)
      | none => (docs, .validate ⟨uri, text, none⟩)
  | .saved uri none =>
      match docs.find? uri with
      | some doc => (docs, .validate ⟨uri, doc.text, some doc.version⟩)
      | none => (docs, .nothing)
  | .closed uri => (docs.drop uri, .clear uri)

def validations (docs : Documents) : List Validation :=
  docs.entries.map fun (uri, doc) => ⟨uri, doc.text, some doc.version⟩

end Documents

end LintBridge.Editor
