import LintBridge.Proofs.Console.ExitCode
import LintBridge.Proofs.Json.Writing

/-!
# Outcomes as JSON

A decoder takes back what became of a file from the value that tells it.  Where the document
has fewer bytes than 64 bits can count, that value has a text of its own, so nothing of it is
lost on paper.
-/

set_option autoImplicit false

namespace LintBridge

open Json

/-! ## Taking values back -/

namespace Json

@[simp] theorem natural_ofNat (n : Nat) : Decoder.natural (.ofNat n) = .ok n := by
  simp [Decoder.natural, ofNat]

@[simp] theorem text_string (text : String) : Decoder.text (.string text) = .ok text := rfl

@[simp] theorem int32_ofInt32 (n : Int32) : Decoder.int32 (.ofInt32 n) = .ok n := by
  simp [Decoder.int32, ofInt32, Decimal.int32?, Decimal.fitsInt32_toInt]

theorem list_map {α β : Type} {decode : Decoder β} {toJson : α → Json} {read : α → β}
    (back : ∀ a, decode (toJson a) = .ok (read a)) (list : List α) :
    Decoder.list decode (.array (list.map toJson)) = .ok (list.map read) := by
  rw [Decoder.list]
  induction list with
  | nil => rfl
  | cons a rest ih =>
      rw [List.map_cons, List.mapM_cons, back, ih]
      rfl

end Json

theorem TextRange.decode_toJson (range : TextRange) : decode range.toJson = .ok range := by
  have admits : shape.Admits [("start", .ofNat range.start), ("end", .ofNat range.stop)] :=
    { pass := by simp [shape, Field.of, Except.map]
      there := by simp [shape, Field.of]
      distinct := by simp }
  unfold decode toJson
  rw [admits.members]
  simp [admits.need, bind, Except.bind, pure, Except.pure]

@[simp] theorem Severity.decode_toJson (severity : Severity) :
    decode severity.toJson = .ok severity := by
  cases severity <;> rfl

theorem Annotation.decode_toJson (a : Annotation) : decode a.toJson = .ok a := by
  have admits : shape.Admits
      [("range", a.range.toJson), ("line", .ofNat a.line), ("column", .ofInt32 a.column),
       ("severity", a.severity.toJson), ("source", .string a.source),
       ("message", .string a.message)] :=
    { pass := by simp [shape, Field.of, Except.map, TextRange.decode_toJson]
      there := by simp [shape, Field.of]
      distinct := by simp }
  unfold decode toJson
  rw [admits.members]
  simp [admits.need, bind, Except.bind, pure, Except.pure, TextRange.decode_toJson]

namespace SkipReason

def ofName? : String → Option SkipReason
  | "notCoffeeScript" => some .notCoffeeScript
  | "emptyContent" => some .emptyContent
  | "disabled" => some .disabled
  | "invalidSettings" => some .invalidSettings
  | _ => none

def decode : Decoder SkipReason :=
  Decoder.word "one of `notCoffeeScript`, `emptyContent`, `disabled`, `invalidSettings`" ofName?

theorem decode_name (reason : SkipReason) : decode (.string reason.name) = .ok reason := by
  cases reason <;> rfl

end SkipReason

namespace LintOutcome

def shape : Shape :=
  ⟨"LintOutcome", [.of "status" Decoder.text .required, .of "value" Decoder.any .required]⟩

/-- Takes back an outcome; its status tells the shape of its value. -/
def decode : Decoder LintOutcome := fun value => do
  let members ← shape.members value
  match ← members.need "status" Decoder.text with
  | "skipped" => (members.need "value" SkipReason.decode).map .skipped
  | "annotated" => (members.need "value" (Decoder.list Annotation.decode)).map .annotated
  | "failed" => (members.need "value" Decoder.text).map .failed
  | status => .error (.unknownWord status "one of `skipped`, `annotated`, `failed`")

theorem decode_toJson (outcome : LintOutcome) : decode outcome.toJson = .ok outcome := by
  have admits : ∀ status value,
      shape.Admits [("status", .string status), ("value", value)] := fun status value =>
    { pass := by simp [shape, Field.of, Except.map, Decoder.any]
      there := by simp [shape, Field.of]
      distinct := by simp }
  unfold decode
  cases outcome with
  | skipped reason =>
      rw [toJson, (admits ..).members]
      simp [(admits ..).need, bind, Except.bind, SkipReason.decode_name, Except.map]
  | annotated annotations =>
      rw [toJson, (admits ..).members]
      simp [(admits ..).need, bind, Except.bind, list_map Annotation.decode_toJson, Except.map]
  | failed message =>
      rw [toJson, (admits ..).members]
      simp [(admits ..).need, bind, Except.bind, Except.map]

end LintOutcome

/-! ## Values with a text -/

theorem fits64_nat {n : Nat} (small : n < 18446744073709551616) : Fits64 n := by
  constructor <;> omega

theorem fits64_int32 (n : Int32) : Fits64 n.toInt := by
  obtain ⟨low, high⟩ := Decimal.fitsInt32_toInt n
  constructor <;> omega

/-- The numbers of the annotation have 64 bits. -/
structure Annotation.Fits (a : Annotation) : Prop where
  start : a.range.start < 18446744073709551616
  stop : a.range.stop < 18446744073709551616
  line : a.line < 18446744073709551616

theorem Annotation.Fits.plain {a : Annotation} (fits : a.Fits) (depth : Nat) :
    Plain (depth + 2) a.toJson := by
  have range : Plain (depth + 1) a.range.toJson :=
    plain_ofMembers (List.forall_mem_cons.mpr ⟨plain_integer (fits64_nat fits.start) depth,
      List.forall_mem_singleton.mpr (plain_integer (fits64_nat fits.stop) depth)⟩)
  refine plain_ofMembers fun m member => ?_
  simp only [List.mem_cons, List.not_mem_nil, or_false] at member
  rcases member with rfl | rfl | rfl | rfl | rfl | rfl
  · exact range
  · exact fits64_nat fits.line
  · exact fits64_int32 a.column
  · trivial
  · trivial
  · trivial

namespace LintOutcome

/-- What was found, if the linter came to that. -/
def annotations : LintOutcome → List Annotation
  | annotated annotations => annotations
  | skipped _ | failed _ => []

theorem plain_toJson {outcome : LintOutcome} (fit : ∀ a ∈ outcome.annotations, a.Fits)
    (depth : Nat) : Plain (depth + 4) outcome.toJson := by
  cases outcome with
  | skipped reason =>
      exact plain_ofMembers (List.forall_mem_cons.mpr ⟨trivial,
        List.forall_mem_singleton.mpr trivial⟩)
  | failed message =>
      exact plain_ofMembers (List.forall_mem_cons.mpr ⟨trivial,
        List.forall_mem_singleton.mpr trivial⟩)
  | annotated annotations =>
      have all : Plain (depth + 3) (.array (annotations.map Annotation.toJson)) := by
        intro item member
        obtain ⟨a, there, rfl⟩ := List.mem_map.mp member
        exact (fit a there).plain depth
      exact plain_ofMembers (List.forall_mem_cons.mpr ⟨trivial,
        List.forall_mem_singleton.mpr all⟩)

end LintOutcome

/-! ## Outcomes of a document -/

theorem Issue.editorLine_lt (issue : Issue) : issue.editorLine < 2147483648 := by
  have bound := (Decimal.fitsInt32_toInt issue.line).2
  unfold editorLine
  omega

theorem Issue.annotate_fits {allWarnings : Bool} {text : List Char} {issue : Issue}
    {a : Annotation} (small : Text.length8 text < 18446744073709551616)
    (annotated : (issue.annotate allWarnings (.ofText text)).value = some a) : a.Fits := by
  obtain ⟨range, found, rfl⟩ := annotate_eq_some annotated
  obtain ⟨first, last⟩ := LineTable.line?_le found
  exact ⟨Nat.lt_of_le_of_lt first small, Nat.lt_of_le_of_lt last small,
    Nat.lt_trans issue.editorLine_lt (by decide)⟩

theorem exists_of_mem_annotateAll {allWarnings : Bool} {lines : LineTable} {issues : List Issue}
    {a : Annotation} (member : a ∈ (annotateAll allWarnings lines issues).value) :
    ∃ issue ∈ issues, (issue.annotate allWarnings lines).value = some a := by
  induction issues with
  | nil => cases member
  | cons issue rest ih =>
      simp only [annotateAll, Logged.value_bind, Logged.value_pure, List.mem_append,
        Option.mem_toList] at member
      rcases member with first | later
      · exact ⟨issue, List.mem_cons_self, first⟩
      · obtain ⟨other, among, annotated⟩ := ih later
        exact ⟨other, List.mem_cons_of_mem _ among, annotated⟩

theorem annotateAll_fits {allWarnings : Bool} {text : List Char} {issues : List Issue}
    (small : Text.length8 text < 18446744073709551616) :
    ∀ a ∈ (annotateAll allWarnings (.ofText text) issues).value, a.Fits := by
  intro a member
  obtain ⟨issue, -, annotated⟩ := exists_of_mem_annotateAll member
  exact Issue.annotate_fits small annotated

/-- Whatever becomes of a document, its annotations are those of a list of issues. -/
theorem Annotator.annotate_annotations {σ : Type} (serve : Job.Server σ) (s : σ) (a : Annotator)
    (path : Path) (content : String) :
    ∃ issues, ((a.annotate path content).run serve s).1.annotations
      = (annotateAll a.settings.treatAllAsWarnings (.ofText content.toList) issues).value := by
  cases gated : ((a.gate path content).run serve s).1 with
  | some reason =>
      rw [annotate_of_skips gated]
      exact ⟨[], rfl⟩
  | none =>
      rw [(annotate_of_passes gated).1]
      generalize ((a.lintText path content).run serve ((a.gate path content).run serve s).2).1
        = result
      cases result with
      | error e => exact ⟨[], rfl⟩
      | ok result =>
          simp only [concluded, judge]
          split
          · exact ⟨[], rfl⟩
          · cases seen : result.report with
            | none => exact ⟨[], rfl⟩
            | some report =>
                simp only [Logged.value_bind, Logged.value_pure, LintOutcome.annotations]
                exact ⟨report.issues, rfl⟩

/-- What is found in a document of fewer bytes than 64 bits can count has numbers of 64
bits. -/
theorem Annotator.annotate_fits {σ : Type} (serve : Job.Server σ) (s : σ) (a : Annotator)
    (path : Path) {content : String}
    (small : Text.length8 content.toList < 18446744073709551616) :
    ∀ x ∈ ((a.annotate path content).run serve s).1.annotations, x.Fits := by
  obtain ⟨issues, found⟩ := annotate_annotations serve s a path content
  rw [found]
  exact annotateAll_fits small

end LintBridge
