import LintBridge.Proofs.Document.Diagnostics

/-!
# What becomes of an issue

Every issue of a report is looked at once.  One that lies in the text is annotated.  One that
lies behind its last line is dropped, and the log tells so.  One whose line is no positive
number is dropped before the lines of the text are asked for, and nothing tells of it: the
annotations and the entries of the log make up for all issues exactly where every issue has a
positive line (`annotations_account`).
-/

set_option autoImplicit false

namespace LintBridge

namespace Issue

/-- The issue lies behind the last line of the text. -/
def LiesBehind (text : List Char) (issue : Issue) : Prop :=
  text.count '\n' + 1 < issue.line.toInt

instance (text : List Char) (issue : Issue) : Decidable (issue.LiesBehind text) :=
  inferInstanceAs (Decidable (_ < _))

/-- What is said of an issue that is dropped. -/
def dropText (text : List Char) (issue : Issue) : String :=
  "Dropping stale issue '" ++ issue.source ++ "' at line " ++ toString issue.line.toInt
    ++ " (" ++ toString (text.count '\n' + 1) ++ " lines in document)"

def dropEntry (text : List Char) (issue : Issue) : LogEntry :=
  ⟨.debug, issue.dropText text⟩

/-- The annotation of an issue on the line that it names. -/
def annotationIn? (allWarnings : Bool) (text : List Char) (issue : Issue) : Option Annotation :=
  ((LineTable.ofText text).line? issue.editorLine).map
    (issue.onLine allWarnings issue.editorLine)

variable (allWarnings : Bool) {text : List Char} {issue : Issue}

theorem staleText_ofText (text : List Char) (issue : Issue) :
    issue.staleText (.ofText text) = issue.dropText text := by
  unfold staleText dropText
  rw [LineTable.ofText_count]

theorem annotate_value_of_liesIn (lies : issue.LiesIn text) :
    (issue.annotate allWarnings (.ofText text)).value = issue.annotationIn? allWarnings text := by
  obtain ⟨a, annotated, -⟩ := annotate_of_liesIn allWarnings lies
  obtain ⟨range, there, rfl⟩ := annotate_eq_some annotated
  rw [annotated, annotationIn?, there, Option.map_some]

theorem annotate_log_of_liesIn (lies : issue.LiesIn text) :
    (issue.annotate allWarnings (.ofText text)).log = [] := by
  obtain ⟨a, annotated, -⟩ := annotate_of_liesIn allWarnings lies
  obtain ⟨range, there, -⟩ := annotate_eq_some annotated
  simp only [annotate, lineNumber?_eq, lies.1, if_true, there, Logged.log_pure]

theorem annotate_log_of_liesBehind (behind : issue.LiesBehind text) :
    (issue.annotate allWarnings (.ofText text)).log = [issue.dropEntry text] := by
  have positive : 1 ≤ issue.line.toInt := by
    unfold LiesBehind at behind
    omega
  have absent : (LineTable.ofText text).line? issue.editorLine = none := by
    have count := LineTable.ofText_count text
    unfold LiesBehind at behind
    apply List.getElem?_eq_none
    rw [LineTable.count] at count
    unfold editorLine
    omega
  simp only [annotate, lineNumber?_eq, positive, if_true, absent]
  rw [staleText_ofText]
  rfl

theorem annotate_log_of_nonpositive (before : issue.line.toInt < 1) :
    (issue.annotate allWarnings (.ofText text)).log = [] := by
  have early : ¬ 1 ≤ issue.line.toInt := by omega
  simp only [annotate, lineNumber?_eq, early, if_false, Logged.log_pure]

theorem place_cases (text : List Char) (issue : Issue) :
    issue.line.toInt < 1 ∧ ¬ issue.LiesIn text ∧ ¬ issue.LiesBehind text ∨
      ¬ issue.line.toInt < 1 ∧ issue.LiesIn text ∧ ¬ issue.LiesBehind text ∨
      ¬ issue.line.toInt < 1 ∧ ¬ issue.LiesIn text ∧ issue.LiesBehind text := by
  unfold LiesIn LiesBehind
  omega

end Issue

section

variable (allWarnings : Bool) (text : List Char) (issues : List Issue)

theorem annotateAll_value :
    (annotateAll allWarnings (.ofText text) issues).value.map some
      = (issues.filter (·.LiesIn text)).map (·.annotationIn? allWarnings text) := by
  induction issues with
  | nil => rfl
  | cons issue rest ih =>
      simp only [annotateAll, Logged.value_bind, Logged.value_pure, List.map_append, ih]
      by_cases lies : issue.LiesIn text
      · obtain ⟨a, annotated, -⟩ := Issue.annotate_of_liesIn allWarnings lies
        have same := Issue.annotate_value_of_liesIn allWarnings lies
        rw [annotated] at same
        simp [annotated, lies, ← same]
      · simp [Issue.annotate_of_not_liesIn allWarnings lies, lies]

theorem annotateAll_log :
    (annotateAll allWarnings (.ofText text) issues).log
      = (issues.filter (·.LiesBehind text)).map (·.dropEntry text) := by
  induction issues with
  | nil => rfl
  | cons issue rest ih =>
      simp only [annotateAll, Logged.log_bind, Logged.log_pure, List.append_nil, ih]
      rcases issue.place_cases text with
        ⟨before, -, notBehind⟩ | ⟨-, lies, notBehind⟩ | ⟨-, -, behind⟩
      · simp [Issue.annotate_log_of_nonpositive allWarnings before, notBehind]
      · simp [Issue.annotate_log_of_liesIn allWarnings lies, notBehind]
      · simp [Issue.annotate_log_of_liesBehind allWarnings behind, behind]

theorem length_eq_places :
    issues.length = (issues.filter (·.LiesIn text)).length
      + (issues.filter (·.LiesBehind text)).length + issues.countP (·.line.toInt < 1) := by
  induction issues with
  | nil => rfl
  | cons issue rest ih =>
      rcases issue.place_cases text with
        ⟨before, outside, notBehind⟩ | ⟨notBefore, lies, notBehind⟩ | ⟨notBefore, outside, behind⟩
      · simp [before, outside, notBehind, ih]
        omega
      · simp [notBefore, lies, notBehind, ih]
        omega
      · simp [notBefore, outside, behind, ih]
        omega

end

/-- Each issue in the text becomes one annotation and each one behind it one entry of the log,
in the order of the report; the others have neither. -/
theorem annotations_account (allWarnings : Bool) (text : List Char) (report : Report) :
    let mapped := report.annotations allWarnings (.ofText text)
    mapped.value.map some
        = (report.issues.filter (·.LiesIn text)).map (·.annotationIn? allWarnings text)
      ∧ mapped.log = (report.issues.filter (·.LiesBehind text)).map (·.dropEntry text)
      ∧ report.issues.length
          = mapped.value.length + mapped.log.length + report.issues.countP (·.line.toInt < 1)
      ∧ (report.issues.length = mapped.value.length + mapped.log.length
          ↔ ∀ issue ∈ report.issues, 1 ≤ issue.line.toInt) := by
  intro mapped
  have shown : mapped.value.map some
      = (report.issues.filter (·.LiesIn text)).map (·.annotationIn? allWarnings text) :=
    annotateAll_value allWarnings text report.issues
  have told : mapped.log = (report.issues.filter (·.LiesBehind text)).map (·.dropEntry text) :=
    annotateAll_log allWarnings text report.issues
  have count : report.issues.length
      = mapped.value.length + mapped.log.length + report.issues.countP (·.line.toInt < 1) := by
    have sameLength := congrArg List.length shown
    rw [List.length_map, List.length_map] at sameLength
    rw [told, List.length_map, sameLength]
    exact length_eq_places text report.issues
  refine ⟨shown, told, count, ?_⟩
  have none_before : report.issues.countP (·.line.toInt < 1) = 0
      ↔ ∀ issue ∈ report.issues, 1 ≤ issue.line.toInt := by
    simp [List.countP_eq_zero]
  rw [← none_before]
  omega

/-- No line, a negative one, and one from which no more can be taken away. -/
theorem nonpositive_lines_untold :
    let issues : List Issue := [⟨"r", 0, 0, .error, "m"⟩, ⟨"r", -3, 0, .error, "m"⟩,
      ⟨"r", -2147483648, 0, .error, "m"⟩]
    let report : Report := ⟨none, some ⟨"a.coffee", issues⟩⟩
    let mapped := report.annotations false (.ofText ['x'])
    mapped.value = [] ∧ mapped.log = []
      ∧ report.issues.length ≠ mapped.value.length + mapped.log.length := by
  decide

end LintBridge
