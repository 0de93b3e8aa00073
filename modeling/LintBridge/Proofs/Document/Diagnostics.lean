import LintBridge.Diagnostic
import LintBridge.Proofs.Document.Lines
import LintBridge.Proofs.Document.Positions

/-!
# From issues to diagnostics

The line table measures a document in bytes, an editor in lines and UTF-16 units, and
the two are computed by scans that know nothing of each other.  The range of a line
in bytes is that line in the editor (`ofBytes?_line`), so no annotation is lost on its
way to the editor, and which diagnostics it gets can be said without bytes:
`Issue.diagnosticIn`.
-/

set_option autoImplicit false

namespace LintBridge

open Text

/-! ## Byte ranges of lines in the editor -/

namespace EditorRange

theorem ofBytes?_inLine {front line : List Char} (behind : List Char) {n : Nat}
    (reached : Position.start.pastAll front = ⟨n, 0⟩) (inLine : '\n' ∉ line) :
    ofBytes? (front ++ (line ++ behind)) ⟨length8 front, length8 front + length8 line⟩
      = some ⟨⟨n, 0⟩, ⟨n, length16 line⟩⟩ := by
  have first := Position.ofOffset?_append front (line ++ behind)
  have last := Position.ofOffset?_append (front ++ line) behind
  rw [reached] at first
  rw [Position.pastAll_append, reached, Position.pastAll_of_lineFeed_notMem inLine,
    length8_append, List.append_assoc, Nat.zero_add] at last
  simp only [ofBytes?, first, last]
  rfl

theorem ofBytes?_ranges (rest : List Char) (front : List Char) (k n : Nat) (line : Line)
    (reached : Position.start.pastAll front = ⟨k, 0⟩)
    (found : (Line.ofText rest)[n]? = some line) :
    ∃ range, (Line.ranges (length8 front) (Line.ofText rest))[n]? = some range
      ∧ ofBytes? (front ++ rest) range = some ⟨⟨k + n, 0⟩, ⟨k + n, length16 line.text⟩⟩ := by
  induction rest using Line.induction_on_lines generalizing front k n with
  | last rest inLine =>
      rw [Line.ofText_last inLine] at found ⊢
      cases n with
      | zero =>
          cases found
          have here := ofBytes?_inLine [] reached inLine
          rw [List.append_nil] at here
          exact ⟨_, rfl, here⟩
      | succ n => cases found
  | cut before rest inLine ih =>
      rw [Line.ofText_cut inLine] at found ⊢
      have whole := Line.ended_whole before
      cases n with
      | zero =>
          cases found
          have here := ofBytes?_inLine ((Line.ended before).ending ++ rest) reached
            (Line.lineFeed_notMem_ended inLine)
          rw [← List.append_assoc (Line.ended before).text, whole, List.append_assoc] at here
          exact ⟨_, rfl, here⟩
      | succ n =>
          have next : Position.start.pastAll (front ++ (before ++ ['\n'])) = ⟨k + 1, 0⟩ := by
            simp only [Position.pastAll_append, reached,
              Position.pastAll_of_lineFeed_notMem inLine]
            rfl
          obtain ⟨range, there, shown⟩ := ih (front ++ (before ++ ['\n'])) (k + 1) n next found
          refine ⟨range, ?_, ?_⟩
          · simp only [Line.ranges, List.getElem?_cons_succ]
            rw [← there, Nat.add_assoc, ← length8_append, whole, ← length8_append]
          · rw [List.append_assoc, List.append_assoc, List.singleton_append] at shown
            rw [shown, Nat.add_right_comm, Nat.add_assoc]

theorem ofBytes?_line {text : List Char} {n : Nat} {line : Line}
    (found : (Line.ofText text)[n]? = some line) :
    ∃ range, (LineTable.ofText text).line? n = some range
      ∧ ofBytes? text range = some ⟨⟨n, 0⟩, ⟨n, length16 line.text⟩⟩ := by
  obtain ⟨range, there, shown⟩ := ofBytes?_ranges text [] 0 n line rfl found
  rw [LineTable.line?, LineTable.ofText_lines]
  rw [List.nil_append, Nat.zero_add] at shown
  exact ⟨range, there, shown⟩

end EditorRange

/-! ## The diagnostic of an issue -/

namespace Issue

/-- The issue lies on a line of the text. -/
def LiesIn (text : List Char) (issue : Issue) : Prop :=
  1 ≤ issue.line.toInt ∧ issue.line.toInt ≤ text.count '\n' + 1

instance (text : List Char) (issue : Issue) : Decidable (issue.LiesIn text) :=
  inferInstanceAs (Decidable (_ ∧ _))

/-- The line of an issue, counted from zero. -/
def editorLine (issue : Issue) : Nat :=
  issue.line.toInt.toNat - 1

/-- The text of a line, without its end. -/
def lineText (text : List Char) (n : Nat) : List Char :=
  ((Line.ofText text)[n]?.map Line.text).getD []

/-- What an editor shows of an issue that lies in the text. -/
def diagnosticIn (allWarnings : Bool) (text : List Char) (issue : Issue) : Diagnostic :=
  { range := ⟨⟨issue.editorLine, 0⟩,
      ⟨issue.editorLine, length16 (lineText text issue.editorLine)⟩⟩,
    severity := if allWarnings || issue.severity = .warning then .warning else .error,
    code := issue.source,
    message := "CoffeeLint: " ++ trim issue.message ++ " (" ++ issue.source ++ ")" }

theorem shownSeverity_eq (allWarnings : Bool) (issue : Issue) :
    issue.shownSeverity allWarnings
      = if allWarnings || issue.severity = .warning then .warning else .error := by
  cases allWarnings <;> cases severity : issue.severity <;> simp [shownSeverity, severity]

theorem lineNumber?_eq (issue : Issue) :
    issue.lineNumber? = if 1 ≤ issue.line.toInt then some issue.editorLine else none := by
  unfold lineNumber? editorLine
  by_cases positive : 1 ≤ issue.line.toInt
  · have reached : 0 ≤ issue.line.toInt - 1 := by omega
    simp only [positive, reached, if_true, Option.some.injEq]
    omega
  · have short : ¬ 0 ≤ issue.line.toInt - 1 := by omega
    simp only [positive, short, if_false]

theorem annotate_eq_some {allWarnings : Bool} {lines : LineTable} {issue : Issue}
    {a : Annotation} (annotated : (issue.annotate allWarnings lines).value = some a) :
    ∃ range, lines.line? issue.editorLine = some range
      ∧ a = issue.onLine allWarnings issue.editorLine range := by
  unfold annotate at annotated
  rw [lineNumber?_eq] at annotated
  by_cases positive : 1 ≤ issue.line.toInt
  · cases found : lines.line? issue.editorLine with
    | none => simp [positive, found] at annotated
    | some range =>
        simp only [positive, if_true, found, Logged.value_pure, Option.some.injEq] at annotated
        exact ⟨range, rfl, annotated.symm⟩
  · simp [positive] at annotated

theorem annotate_of_liesIn (allWarnings : Bool) {text : List Char} {issue : Issue}
    (lies : issue.LiesIn text) :
    ∃ a, (issue.annotate allWarnings (.ofText text)).value = some a
      ∧ Diagnostic.ofAnnotation? text a = some (issue.diagnosticIn allWarnings text) := by
  obtain ⟨positive, inside⟩ := lies
  have below : issue.editorLine < (Line.ofText text).length := by
    rw [Line.ofText_length]
    unfold editorLine
    omega
  have found := List.getElem?_eq_getElem below
  obtain ⟨range, there, shown⟩ := EditorRange.ofBytes?_line found
  refine ⟨issue.onLine allWarnings issue.editorLine range, ?_, ?_⟩
  · simp only [annotate, lineNumber?_eq, positive, if_true, there]
    rfl
  · simp only [Diagnostic.ofAnnotation?, onLine, shown, Option.map_some, shownSeverity_eq,
      diagnosticIn, lineText, found, Option.getD_some]
    rfl

theorem annotate_of_not_liesIn (allWarnings : Bool) {text : List Char} {issue : Issue}
    (beyond : ¬ issue.LiesIn text) :
    (issue.annotate allWarnings (.ofText text)).value = none := by
  unfold annotate
  rw [lineNumber?_eq]
  by_cases positive : 1 ≤ issue.line.toInt
  · have behind : (LineTable.ofText text).line? issue.editorLine = none := by
      apply List.getElem?_eq_none
      have count := LineTable.ofText_count text
      rw [LineTable.count] at count
      unfold LiesIn at beyond
      unfold editorLine
      omega
    simp only [positive, if_true, behind]
    rfl
  · simp only [positive, if_false]
    rfl

end Issue

theorem annotateAll_diagnostics (allWarnings : Bool) (text : List Char) (issues : List Issue) :
    (annotateAll allWarnings (.ofText text) issues).value.map (Diagnostic.ofAnnotation? text)
      = (issues.filter (·.LiesIn text)).map fun issue =>
          some (issue.diagnosticIn allWarnings text) := by
  induction issues with
  | nil => rfl
  | cons issue rest ih =>
      simp only [annotateAll, Logged.value_bind, Logged.value_pure, List.map_append, ih,
        List.filter_cons]
      by_cases lies : issue.LiesIn text
      · obtain ⟨a, annotated, shown⟩ := Issue.annotate_of_liesIn allWarnings lies
        simp [annotated, shown, lies]
      · simp [Issue.annotate_of_not_liesIn allWarnings lies, lies]

/-- In a text of fewer than 2³² bytes the annotations of a report become, one by one and
in order, the diagnostics of the issues that lie in the text, and no counter of the walk
to an offset overflows. -/
theorem annotations_diagnostics (text : List Char) (short : length8 text < 4294967296)
    (report : Report) (allWarnings : Bool) :
    (report.annotations allWarnings (.ofText text)).value.map (Diagnostic.ofAnnotation? text)
        = ((report.issues.filter (·.LiesIn text)).map fun issue =>
            some (issue.diagnosticIn allWarnings text))
      ∧ (∀ issue : Issue, Diagnostic.severityNumber (issue.diagnosticIn allWarnings text).severity
          = if allWarnings = true ∨ issue.severity = .warning then 2 else 1)
      ∧ ∀ offset, Position.walk32? offset 0 .start text
          = some (Position.walk offset 0 .start text) := by
  refine ⟨annotateAll_diagnostics allWarnings text report.issues, fun issue => ?_,
    fun offset => Position.walk32?_eq_walk (Nat.le_refl 0) (by omega)⟩
  cases allWarnings <;> cases severity : issue.severity <;>
    simp [Issue.diagnosticIn, Diagnostic.severityNumber, severity]

/-- Two kinds of line ends, and characters of one to four bytes. -/
def mixedText : List Char :=
  "a\r\n😀é\r\r\n€".toList

def scatteredReport : Report :=
  ⟨none, some ⟨"a", [⟨"r", 2, 5, .warning, " m "⟩, ⟨"r", 0, 0, .error, ""⟩,
    ⟨"s", -2147483648, 0, .error, ""⟩, ⟨"s", 3, 0, .error, "n"⟩, ⟨"t", 4, 0, .error, ""⟩]⟩⟩

theorem scattered_diagnostics :
    length8 mixedText < 4294967296 ∧
      (scatteredReport.annotations false (.ofText mixedText)).value.map
          (Diagnostic.ofAnnotation? mixedText)
        = [some ⟨⟨⟨1, 0⟩, ⟨1, 4⟩⟩, .warning, "r", "CoffeeLint: m (r)"⟩,
           some ⟨⟨⟨2, 0⟩, ⟨2, 1⟩⟩, .error, "s", "CoffeeLint: n (s)"⟩] := by
  have short : length8 mixedText < 4294967296 := by decide
  refine ⟨short, (annotations_diagnostics mixedText short scatteredReport false).1.trans ?_⟩
  decide

end LintBridge
