import LintBridge.Proofs.Decimal.Integers
import LintBridge.Proofs.Markup.Attributes
import LintBridge.Proofs.Markup.Reading
import LintBridge.Proofs.Markup.References
import LintBridge.Proofs.Report.Meaning
import Mathlib.Data.List.Forall2

/-!
# Spelled reports

Which texts spell a report.  A report has many spellings: attributes stand in any order
and among others, one may be left out where its value is the usual one, elements that
say nothing may stand inside the root, and text, comments, data sections and
instructions anywhere.  Every spelling of a report is parsed as that report.

A number too has many spellings, with blanks around it, a sign or none, and zeros in front, and
is read exactly: what spells no number of 32 bits is malformed, and only a missing one stands for
zero.
-/

set_option autoImplicit false

/-! ## Numbers -/

namespace LintBridge.Markup.Tag

open Decimal Result Text

variable {tag : Tag} {key value : String}

theorem integer_of_value (given : tag.text? key = .ok (some value)) :
    tag.integer key
      = (readInt32 (trimChars value.toList)).elim (.error (.notAnInteger key value)) .ok := by
  simp only [integer, given]
  cases readInt32 (trimChars value.toList) <;> rfl

theorem integer_eq_ok_iff (given : tag.text? key = .ok (some value)) {n : Int32} :
    tag.integer key = .ok n ↔ SpellsInteger n.toInt value.toList := by
  rw [integer_of_value given, ← readInt32_eq_some_iff]
  cases readInt32 (trimChars value.toList) <;> simp

theorem integer_eq_error_iff (given : tag.text? key = .ok (some value)) :
    tag.integer key = .error (.notAnInteger key value) ↔ ¬ NamesInt32 value.toList := by
  rw [integer_of_value given, ← readInt32_eq_none_iff]
  cases readInt32 (trimChars value.toList) <;> simp

/-- The place of an issue is told by the numbers under two keys. -/
theorem integer_of_issue {issue : Issue} (told : tag.issue = .ok issue) :
    tag.integer "line" = .ok issue.line ∧ tag.integer "column" = .ok issue.column := by
  obtain ⟨source, -, told⟩ := bind_eq_ok_iff.mp told
  obtain ⟨line, readLine, told⟩ := bind_eq_ok_iff.mp told
  obtain ⟨column, readColumn, told⟩ := bind_eq_ok_iff.mp told
  obtain ⟨severity, -, told⟩ := bind_eq_ok_iff.mp told
  obtain ⟨message, -, told⟩ := bind_eq_ok_iff.mp told
  cases told
  exact ⟨readLine, readColumn⟩

/-- The number under a key is `i` exactly where the value spells `i` and `i` has 32 bits.  A value
that spells no such number is malformed, a missing one stands for zero, and one that cannot be
read is malformed as it stands.  An issue has its place from two numbers of this kind. -/
theorem integer_reads_exactly (tag : Tag) (key : String) :
    (∀ value, tag.text? key = .ok (some value) →
      (∀ i : Int, (∃ n, tag.integer key = .ok n ∧ n.toInt = i)
        ↔ FitsInt32 i ∧ SpellsInteger i value.toList)
      ∧ (tag.integer key = .error (.notAnInteger key value) ↔ ¬ NamesInt32 value.toList))
    ∧ (tag.text? key = .ok none → tag.integer key = .ok 0)
    ∧ (∀ malformed, tag.text? key = .error malformed → tag.integer key = .error malformed)
    ∧ ∀ issue, tag.issue = .ok issue →
      tag.integer "line" = .ok issue.line ∧ tag.integer "column" = .ok issue.column := by
  refine ⟨fun value given => ⟨fun i => ⟨?_, ?_⟩, integer_eq_error_iff given⟩, ?_, ?_,
    fun issue => integer_of_issue⟩
  · rintro ⟨n, read, rfl⟩
    exact ⟨fitsInt32_toInt n, (integer_eq_ok_iff given).mp read⟩
  · rintro ⟨fits, spelled⟩
    rw [← toInt_ofInt fits] at spelled
    exact ⟨Int32.ofInt i, (integer_eq_ok_iff given).mpr spelled, toInt_ofInt fits⟩
  · intro missing
    simp only [integer, missing]
  · intro malformed unreadable
    simp only [integer, unreadable]

/-- The lowest number of 32 bits among wide blanks and zeros, one above the highest, and a value
that cannot be read. -/
def outermostTag : Tag :=
  ⟨"error line='\u3000-0002147483648\u2003' column='2147483648' message='&'".toList⟩

/-- A number behind a sign, and no other one. -/
def signedTag : Tag :=
  ⟨"error column=' +07'".toList⟩

theorem outermost_numbers :
    outermostTag.text? "line" = .ok (some "\u3000-0002147483648\u2003")
      ∧ (∃ n, outermostTag.integer "line" = .ok n ∧ n.toInt = -2147483648)
      ∧ outermostTag.text? "column" = .ok (some "2147483648")
      ∧ outermostTag.integer "column" = .error (.notAnInteger "column" "2147483648")
      ∧ ¬ NamesInt32 "2147483648".toList
      ∧ outermostTag.text? "severity" = .ok none
      ∧ outermostTag.integer "severity" = .ok 0
      ∧ outermostTag.text? "message" = .error (.reference (.unterminated 0 1))
      ∧ outermostTag.integer "message" = .error (.reference (.unterminated 0 1))
      ∧ signedTag.issue = .ok ⟨"", 0, 7, .error, ""⟩
      ∧ signedTag.integer "line" = .ok 0
      ∧ signedTag.integer "column" = .ok 7 := by
  have line : outermostTag.text? "line" = .ok (some "\u3000-0002147483648\u2003") := rfl
  have lowest : readInt32 (trimChars "\u3000-0002147483648\u2003".toList)
      = some (-2147483648) := rfl
  have column : outermostTag.text? "column" = .ok (some "2147483648") := rfl
  have beyond : outermostTag.integer "column" = .error (.notAnInteger "column" "2147483648") := rfl
  have missing : outermostTag.text? "severity" = .ok none := rfl
  have unreadable : outermostTag.text? "message" = .error (.reference (.unterminated 0 1)) := rfl
  have told : signedTag.issue = .ok ⟨"", 0, 7, .error, ""⟩ := rfl
  refine ⟨line, ?_, column, beyond, ?_, missing, ?_, unreadable, ?_, told, ?_⟩
  · exact (((integer_reads_exactly outermostTag "line").1 _ line).1 _).mpr
      ⟨by decide, readInt32_eq_some_iff.mp lowest⟩
  · exact ((integer_reads_exactly outermostTag "column").1 _ column).2.mp beyond
  · exact (integer_reads_exactly outermostTag "severity").2.1 missing
  · exact (integer_reads_exactly outermostTag "message").2.2.1 _ unreadable
  · exact (integer_reads_exactly signedTag "line").2.2.2 _ told

end LintBridge.Markup.Tag

namespace LintBridge.Report

open Markup Decimal

/-! ## Attributes -/

/-- The attributes give a key a text. -/
def Gives (attributes : List Attribute) (key text : String) : Prop :=
  ∃ one ∈ attributes, one.key = key ∧ SpellsValue text.toList one.value

def Lacks (attributes : List Attribute) (key : String) : Prop :=
  ∀ one ∈ attributes, one.key ≠ key

instance (attributes : List Attribute) (key : String) : Decidable (Lacks attributes key) :=
  List.decidableBAll ..

def SpellsText? (attributes : List Attribute) (key : String) : Option String → Prop
  | none => Lacks attributes key
  | some text => Gives attributes key text

/-- A text, which may be left out where it is empty. -/
def SpellsText (attributes : List Attribute) (key text : String) : Prop :=
  Gives attributes key text ∨ text = "" ∧ Lacks attributes key

/-- A number, which may be left out where it is zero. -/
def SpellsNumber (attributes : List Attribute) (key : String) (n : Int32) : Prop :=
  (∃ text : String, SpellsInteger n.toInt text.toList ∧ Gives attributes key text)
    ∨ n = 0 ∧ Lacks attributes key

/-- A severity.  Every other word than that of an error stands for a warning. -/
def SpellsSeverity (attributes : List Attribute) : Severity → Prop
  | .error => Gives attributes "severity" "error" ∨ Lacks attributes "severity"
  | .warning => ∃ word, word ≠ "error" ∧ Gives attributes "severity" word

/-! ## Elements -/

/-- An element with a name and attributes whose keys differ. -/
structure Bears (element : Element) (name : String) (attributes : List Attribute) : Prop where
  spells : SpellsTag name.toList attributes element.tag
  distinct : (attributes.map Attribute.key).Nodup

/-- An element that spells an issue. -/
def SpellsIssue (issue : Issue) (element : Element) : Prop :=
  ∃ attributes, Bears element "error" attributes
    ∧ SpellsText attributes "source" issue.source
    ∧ SpellsNumber attributes "line" issue.line
    ∧ SpellsNumber attributes "column" issue.column
    ∧ SpellsSeverity attributes issue.severity
    ∧ SpellsText attributes "message" issue.message

/-- An element that spells a file section.  Elements of other names may stand among the
issues. -/
def SpellsFile (file : FileReport) (element : Element) : Prop :=
  ∃ attributes, Bears element "file" attributes
    ∧ SpellsText attributes "name" file.name
    ∧ List.Forall₂ SpellsIssue file.issues (issueElements element.children)

/-- The elements inside the root. -/
inductive SpellsSection : Option FileReport → List Element → Prop where
  | absent {children : List Element} (others : ∀ child ∈ children, child.name ≠ "file") :
      SpellsSection none children
  | present {file : FileReport} {element : Element} {before after : List Element}
      (others : ∀ child ∈ before, child.name ≠ "file") (spells : SpellsFile file element) :
      SpellsSection (some file) (before ++ element :: after)

/-- The elements of a document. -/
def SpellsDocument (report : Report) (elements : List Element) : Prop :=
  ∃ root attributes, elements = [root] ∧ Bears root "checkstyle" attributes
    ∧ SpellsText? attributes "version" report.version
    ∧ SpellsSection report.file root.children

/-- The texts of a report. -/
def Spells (report : Report) (text : String) : Prop :=
  ∃ elements, SpellsContent elements text.toList ∧ SpellsDocument report elements

/-! ## Every spelling is understood -/

namespace Bears

variable {element : Element} {name : String} {attributes : List Attribute}

theorem name_eq (bears : Bears element name attributes) : element.name = name := by
  rw [Element.name, bears.spells.name_eq, String.ofList_toList]

theorem text?_gives (bears : Bears element name attributes) {key text : String}
    (gives : Gives attributes key text) : element.tag.text? key = .ok (some text) := by
  obtain ⟨one, member, rfl, spells⟩ := gives
  rw [Tag.text?, bears.spells.attributes bears.distinct,
    Attribute.find_of_mem bears.distinct member]
  simp only [decodeValue_spellsValue spells]

theorem text?_lacks (bears : Bears element name attributes) {key : String}
    (lacks : Lacks attributes key) : element.tag.text? key = .ok none := by
  rw [Tag.text?, bears.spells.attributes bears.distinct, Attribute.find_of_lacks lacks]

theorem text?_spelled (bears : Bears element name attributes) {key : String}
    {text? : Option String} (spells : SpellsText? attributes key text?) :
    element.tag.text? key = .ok text? := by
  cases text? with
  | none => exact bears.text?_lacks spells
  | some text => exact bears.text?_gives spells

theorem text_spelled (bears : Bears element name attributes) {key text : String}
    (spells : SpellsText attributes key text) : element.tag.text key = .ok text := by
  rcases spells with gives | ⟨rfl, lacks⟩
  · rw [Tag.text, bears.text?_gives gives]
    rfl
  · rw [Tag.text, bears.text?_lacks lacks]
    rfl

theorem integer_spelled (bears : Bears element name attributes) {key : String} {n : Int32}
    (spells : SpellsNumber attributes key n) : element.tag.integer key = .ok n := by
  rcases spells with ⟨text, named, gives⟩ | ⟨rfl, lacks⟩
  · exact (Tag.integer_eq_ok_iff (bears.text?_gives gives)).mpr named
  · rw [Tag.integer, bears.text?_lacks lacks]

theorem severity_spelled (bears : Bears element name attributes) {severity : Severity}
    (spells : SpellsSeverity attributes severity) :
    ∃ word?, element.tag.text? "severity" = .ok word? ∧ Severity.ofWord? word? = severity := by
  cases severity with
  | error =>
      rcases spells with gives | lacks
      · exact ⟨_, bears.text?_gives gives, rfl⟩
      · exact ⟨_, bears.text?_lacks lacks, rfl⟩
  | warning =>
      obtain ⟨word, other, gives⟩ := spells
      exact ⟨_, bears.text?_gives gives, if_neg other⟩

end Bears

theorem SpellsIssue.issue_eq {issue : Issue} {element : Element}
    (spells : SpellsIssue issue element) : element.tag.issue = .ok issue := by
  obtain ⟨attributes, bears, source, line, column, severity, message⟩ := spells
  obtain ⟨word?, word, meant⟩ := bears.severity_spelled severity
  rw [Tag.issue, bears.text_spelled source, bears.integer_spelled line,
    bears.integer_spelled column, word, bears.text_spelled message]
  simp only [bind, Except.bind, pure, Except.pure, meant]

theorem map_issue_spelled {issues : List Issue} {elements : List Element}
    (spell : List.Forall₂ SpellsIssue issues elements) :
    elements.map (·.tag.issue) = issues.map .ok := by
  induction spell with
  | nil => rfl
  | cons first _ ih => rw [List.map_cons, List.map_cons, first.issue_eq, ih]

theorem sectionMeans_spelled {file? : Option FileReport} {children : List Element}
    (spells : SpellsSection file? children) :
    SectionMeans (children.find? (·.name = "file")) file? := by
  cases spells with
  | absent others =>
      have nowhere : children.find? (·.name = "file") = none := by
        simpa [List.find?_eq_none] using others
      rw [nowhere]
      trivial
  | @present file element before after others spells =>
      obtain ⟨attributes, bears, name, issues⟩ := spells
      have nowhere : before.find? (·.name = "file") = none := by
        simpa [List.find?_eq_none] using others
      have first : (before ++ element :: after).find? (·.name = "file") = some element := by
        rw [List.find?_append, nowhere, Option.none_or, List.find?_cons_of_pos]
        simp only [bears.name_eq, decide_true]
      rw [first]
      exact ⟨bears.text_spelled name, map_issue_spelled issues⟩

theorem means_spelled {report : Report} {elements : List Element}
    (spells : SpellsDocument report elements) : Means elements report := by
  obtain ⟨root, attributes, alone, bears, version, file⟩ := spells
  exact ⟨root, alone, bears.name_eq, bears.text?_spelled version, sectionMeans_spelled file⟩

theorem parse_value_of_spells {report : Report} {text : String} (spells : Spells report text) :
    (parse text).value = .ok report := by
  obtain ⟨elements, content, document⟩ := spells
  obtain ⟨events, read, spelled⟩ := read_spellsContent content
  rw [parse_value_eq_ok_iff, read]
  exact (Collector.run_document spelled report).mpr (means_spelled document)

end LintBridge.Report
