import LintBridge.Proofs.Report.Spelling

/-!
# Transmission of reports

Every report can be written down, so that it has a spelling, and is understood from any
of its spellings.
-/

set_option autoImplicit false

namespace LintBridge.Report

open Markup

/-! ## Writing -/

def writeAttribute (key value : String) : List Char :=
  ' ' :: (key.toList ++ '=' :: '"' :: (escape value.toList ++ ['"']))

def writeTag (name : String) (attributes : List (String × String)) : Tag :=
  ⟨name.toList ++ attributes.flatMap fun one => writeAttribute one.1 one.2⟩

def issueAttributes (issue : Issue) : List (String × String) :=
  [("source", issue.source), ("line", String.ofList (Decimal.write issue.line.toInt)),
   ("column", String.ofList (Decimal.write issue.column.toInt)),
   ("severity", issue.severity.name), ("message", issue.message)]

def issueElement (issue : Issue) : Element :=
  .mk (writeTag "error" (issueAttributes issue)) []

def fileElement (file : FileReport) : Element :=
  .mk (writeTag "file" [("name", file.name)]) (file.issues.map issueElement)

def rootElement (report : Report) : Element :=
  .mk (writeTag "checkstyle" (report.version.toList.map fun version => ("version", version)))
    (report.file.toList.map fileElement)

/-- The text of an element whose inside is known. -/
def writeElement (name : String) (element : Element) (inner : List Char) : List Char :=
  startTag element.tag ++ (inner ++ (endTag name.toList [] ++ []))

def writeIssues (issues : List Issue) : List Char :=
  issues.flatMap fun issue => emptyTag (issueElement issue).tag

def writeFile (file : FileReport) : List Char :=
  writeElement "file" (fileElement file) (writeIssues file.issues)

def write (report : Report) : String :=
  String.ofList (writeElement "checkstyle" (rootElement report)
    (report.file.toList.flatMap writeFile))

/-! ## What is written spells the report -/

/-- The attributes that a tag is written with. -/
def written (attributes : List (String × String)) : List Attribute :=
  attributes.map fun one => ⟨one.1, escape one.2.toList⟩

theorem spellsAttribute_write {key : String} (named : IsName key.toList) (value : String) :
    SpellsAttribute ⟨key, escape value.toList⟩ (writeAttribute key value) := by
  have spells := @SpellsAttribute.mk [' '] key.toList [] [] (escape value.toList) '"'
    (by decide) (by decide) named (by decide) (by decide) (.inl rfl) (quote_notMem_escape _)
  rw [String.ofList_toList] at spells
  exact spells

theorem spellsAttributes_write {attributes : List (String × String)}
    (named : ∀ one ∈ attributes, IsName one.1.toList) :
    SpellsAttributes (written attributes)
      (attributes.flatMap fun one => writeAttribute one.1 one.2) := by
  induction attributes with
  | nil => exact .nil (by decide)
  | cons one attributes ih =>
      obtain ⟨here, later⟩ := List.forall_mem_cons.mp named
      exact .cons (spellsAttribute_write here one.2) (ih later)

theorem spellsTag_write {name : String} {attributes : List (String × String)}
    (isName : IsName name.toList) (named : ∀ one ∈ attributes, IsName one.1.toList) :
    SpellsTag name.toList (written attributes) (writeTag name attributes) :=
  .mk isName (spellsAttributes_write named)

theorem gives_written {attributes : List (String × String)} {key value : String}
    (member : (key, value) ∈ attributes) : Gives (written attributes) key value :=
  ⟨_, List.mem_map.mpr ⟨_, member, rfl⟩, rfl, spellsValue_escape _⟩

/-- Keys that attributes may be written with. -/
def AreKeys (keys : List String) : Prop :=
  (∀ key ∈ keys, IsName key.toList) ∧ keys.Nodup

instance (keys : List String) : Decidable (AreKeys keys) :=
  have : Decidable (∀ key ∈ keys, IsName key.toList) := List.decidableBAll ..
  inferInstanceAs (Decidable (_ ∧ _))

theorem bears_write {name : String} {attributes : List (String × String)} {keys : List String}
    (children : List Element) (isName : IsName name.toList) (areKeys : AreKeys keys)
    (keyed : attributes.map Prod.fst = keys) :
    Bears (.mk (writeTag name attributes) children) name (written attributes) := by
  subst keyed
  refine ⟨spellsTag_write isName fun one member => ?_, ?_⟩
  · exact areKeys.1 one.1 (List.mem_map.mpr ⟨one, member, rfl⟩)
  · rw [written, List.map_map]
    exact areKeys.2

theorem bears_issue (issue : Issue) :
    Bears (issueElement issue) "error" (written (issueAttributes issue)) :=
  bears_write [] (by decide)
    (by decide : AreKeys ["source", "line", "column", "severity", "message"]) rfl

theorem bears_file (file : FileReport) :
    Bears (fileElement file) "file" (written [("name", file.name)]) :=
  bears_write _ (by decide) (by decide : AreKeys ["name"]) rfl

theorem bears_root (report : Report) :
    Bears (rootElement report) "checkstyle"
      (written (report.version.toList.map fun version => ("version", version))) := by
  cases version : report.version with
  | none =>
      rw [rootElement, version]
      exact bears_write _ (by decide) (by decide : AreKeys []) rfl
  | some text =>
      rw [rootElement, version]
      exact bears_write _ (by decide) (by decide : AreKeys ["version"]) rfl

theorem spellsNumber_write {attributes : List (String × String)} {key : String} {n : Int32}
    (member : (key, String.ofList (Decimal.write n.toInt)) ∈ attributes) :
    SpellsNumber (written attributes) key n := by
  refine .inl ⟨_, ?_, gives_written member⟩
  rw [String.toList_ofList]
  exact Decimal.spellsInteger_write n.toInt

theorem spellsIssue_issueElement (issue : Issue) : SpellsIssue issue (issueElement issue) := by
  refine ⟨_, bears_issue issue, .inl (gives_written ?_), spellsNumber_write ?_,
    spellsNumber_write ?_, ?_, .inl (gives_written ?_)⟩
  · simp [issueAttributes]
  · simp [issueAttributes]
  · simp [issueAttributes]
  · have member : ("severity", issue.severity.name) ∈ issueAttributes issue := by
      simp [issueAttributes]
    cases severity : issue.severity with
    | error =>
        rw [severity] at member
        exact .inl (gives_written member)
    | warning =>
        rw [severity] at member
        exact ⟨_, by decide, gives_written member⟩
  · simp [issueAttributes]

theorem issueElements_fileElement (file : FileReport) :
    issueElements (fileElement file).children = file.issues.map issueElement := by
  refine List.filter_eq_self.mpr fun element member => ?_
  obtain ⟨issue, _, rfl⟩ := List.mem_map.mp member
  exact decide_eq_true (bears_issue issue).name_eq

theorem spellsFile_fileElement (file : FileReport) : SpellsFile file (fileElement file) := by
  refine ⟨_, bears_file file, .inl (gives_written (List.mem_singleton.mpr rfl)), ?_⟩
  rw [issueElements_fileElement, List.forall₂_map_right_iff]
  exact List.forall₂_same.mpr fun issue _ => spellsIssue_issueElement issue

theorem spellsDocument_rootElement (report : Report) :
    SpellsDocument report [rootElement report] := by
  refine ⟨_, _, rfl, bears_root report, ?_, ?_⟩
  · cases report.version with
    | none => exact fun _ member => by cases member
    | some text => exact gives_written (List.mem_singleton.mpr rfl)
  · rw [rootElement]
    cases report.file with
    | none => exact .absent fun _ member => by cases member
    | some file =>
        exact @SpellsSection.present file _ [] [] (fun _ member => by cases member)
          (spellsFile_fileElement file)

theorem spellsContent_writeElement {name : String} {attributes : List Attribute}
    {element : Element} {inner : List Char} (bears : Bears element name attributes)
    (within : SpellsContent element.children inner) :
    SpellsContent [element] (writeElement name element inner) := by
  obtain ⟨tag, children⟩ := element
  exact .pair bears.spells within (by decide) .nil

theorem spellsContent_writeIssues (issues : List Issue) :
    SpellsContent (issues.map issueElement) (writeIssues issues) := by
  induction issues with
  | nil => exact .nil
  | cons issue issues ih => exact .empty (bears_issue issue).spells ih

theorem spells_write (report : Report) : Spells report (write report) := by
  refine ⟨[rootElement report], ?_, spellsDocument_rootElement report⟩
  rw [write, String.toList_ofList]
  refine spellsContent_writeElement (bears_root report) ?_
  rw [rootElement]
  cases report.file with
  | none => exact .nil
  | some file =>
      have section_ := spellsContent_writeElement (bears_file file)
        (spellsContent_writeIssues file.issues)
      simpa [writeFile] using section_

/-! ## Transmission -/

/-- Every report has a spelling, and from any of its spellings it is understood. -/
theorem parse_spelled (report : Report) :
    (∃ text, Spells report text) ∧
      ∀ text, Spells report text → (parse text).value = .ok report :=
  ⟨⟨write report, spells_write report⟩, fun _ spells => parse_value_of_spells spells⟩

/-! A spelling with a numbered character, an element that says nothing, attributes left
out, and a bracket inside quotes. -/

def oddReport : Report :=
  ⟨some "1<", some ⟨"", [⟨"", 7, 0, .error, "\"&"⟩]⟩⟩

def oddText : String :=
  "<?xml version='1.0'?>\n<checkstyle\tversion = '&#x31;&lt;'><note a='>'>]]></note >"
    ++ "<file><error\n line='+07' message='\"&amp;' /></file></checkstyle>"

def oddRoot : Tag := ⟨"checkstyle\tversion = '&#x31;&lt;'".toList⟩

def oddNote : Tag := ⟨"note a='>'".toList⟩

def oddFile : Tag := ⟨"file".toList⟩

def oddError : Tag := ⟨"error\n line='+07' message='\"&amp;' ".toList⟩

def oddElement : Element :=
  .mk oddRoot [.mk oddNote [], .mk oddFile [.mk oddError []]]

theorem spellsTag_oddRoot :
    SpellsTag "checkstyle".toList [⟨"version", "&#x31;&lt;".toList⟩] oddRoot := by
  have version : SpellsAttribute ⟨"version", "&#x31;&lt;".toList⟩ _ :=
    @SpellsAttribute.mk ['\t'] "version".toList [' '] [' '] "&#x31;&lt;".toList '\'' (by decide)
      (by decide) (by decide) (by decide) (by decide) (.inr rfl) (by decide)
  exact .mk (by decide) (.cons version (@SpellsAttributes.nil [] (by decide)))

theorem spellsTag_oddNote : SpellsTag "note".toList [⟨"a", ['>']⟩] oddNote := by
  have a : SpellsAttribute ⟨"a", ['>']⟩ _ :=
    @SpellsAttribute.mk [' '] "a".toList [] [] ['>'] '\'' (by decide) (by decide) (by decide)
      (by decide) (by decide) (.inr rfl) (by decide)
  exact .mk (by decide) (.cons a (@SpellsAttributes.nil [] (by decide)))

theorem spellsTag_oddFile : SpellsTag "file".toList [] oddFile :=
  .mk (by decide) (@SpellsAttributes.nil [] (by decide))

theorem spellsTag_oddError :
    SpellsTag "error".toList [⟨"line", "+07".toList⟩, ⟨"message", "\"&amp;".toList⟩] oddError := by
  have line : SpellsAttribute ⟨"line", "+07".toList⟩ _ :=
    @SpellsAttribute.mk ['\n', ' '] "line".toList [] [] "+07".toList '\'' (by decide)
      (by decide) (by decide) (by decide) (by decide) (.inr rfl) (by decide)
  have message : SpellsAttribute ⟨"message", "\"&amp;".toList⟩ _ :=
    @SpellsAttribute.mk [' '] "message".toList [] [] "\"&amp;".toList '\'' (by decide)
      (by decide) (by decide) (by decide) (by decide) (.inr rfl) (by decide)
  exact .mk (by decide) (.cons line (.cons message (@SpellsAttributes.nil [' '] (by decide))))

theorem spellsContent_odd : SpellsContent [oddElement] oddText.toList := by
  have parts : oddText.toList
      = "<?".toList ++ ("xml version='1.0'".toList ++ "?>".toList) ++ ("\n".toList
        ++ (startTag oddRoot ++ ((startTag oddNote ++ ("]]>".toList ++ []
          ++ (endTag "note".toList [' '] ++ (startTag oddFile ++ (emptyTag oddError ++ []
            ++ (endTag "file".toList [] ++ []))))))
          ++ (endTag "checkstyle".toList [] ++ [])))) := by
    decide +kernel
  have noEnd : '>' ∉ '?' :: "xml version='1.0'".toList := by decide
  have declaration : SpellsAside ("<?".toList ++ ("xml version='1.0'".toList ++ "?>".toList)) :=
    .instruction fun found => noEnd (found.subset (List.mem_cons_of_mem _ (List.mem_cons_self ..)))
  have nothing : IsGap [] := by decide
  have space : IsGap [' '] := by decide
  have file : SpellsContent [.mk oddFile [.mk oddError []]] _ :=
    .pair spellsTag_oddFile (.empty spellsTag_oddError .nil) nothing .nil
  have text : SpellsContent [] ("]]>".toList ++ []) := .aside (.text (by decide)) .nil
  have note : SpellsContent [.mk oddNote [], .mk oddFile [.mk oddError []]] _ :=
    .pair spellsTag_oddNote text space file
  rw [parts]
  exact .aside declaration (.aside (.text (by decide))
    (.pair spellsTag_oddRoot note (by decide) .nil))

theorem gives_oddVersion :
    Gives [⟨"version", "&#x31;&lt;".toList⟩] "version" "1<" := by
  have numeral : Text.Numeral 16 49 ['3', '1'] :=
    .more (.digit (d := 3) (by decide) (.inl rfl)) (d := 1) (by decide) (.inl rfl)
  have one : SpellsChar '1' "&#x31;".toList :=
    .reference (@Reference.Refers.number '1' .sixteen _ (by decide) numeral)
  have less : SpellsChar '<' "&lt;".toList :=
    spellsChar_name (by decide : ("lt".toList, '<') ∈ Reference.entities)
  exact ⟨_, List.mem_singleton.mpr rfl, rfl, .cons one (.cons less .nil)⟩

theorem spellsIssue_odd :
    SpellsIssue ⟨"", 7, 0, .error, "\"&"⟩ (.mk oddError []) := by
  have numeral : Text.Numeral 10 7 ['0', '7'] :=
    .more (.digit (d := 0) (by decide) (.inl rfl)) (d := 7) (by decide) (.inl rfl)
  have seven : Decimal.SpellsInteger (7 : Int32).toInt "+07".toList :=
    ⟨[], "+07".toList, [], .plus numeral, List.forall_mem_nil _, List.forall_mem_nil _, rfl⟩
  have ampersand : SpellsChar '&' "&amp;".toList :=
    spellsChar_name (by decide : ("amp".toList, '&') ∈ Reference.entities)
  have message : SpellsValue ['"', '&'] "\"&amp;".toList :=
    .cons (.raw (by decide)) (.cons ampersand .nil)
  refine ⟨_, ⟨spellsTag_oddError, by decide⟩, .inr ⟨rfl, by decide⟩, .inl ⟨"+07", seven, ?_⟩,
    .inr ⟨rfl, by decide⟩, .inr (by decide), .inl ?_⟩
  · exact ⟨_, List.mem_cons_self .., rfl, spellsValue_raw (by decide)⟩
  · exact ⟨_, List.mem_cons_of_mem _ (List.mem_cons_self ..), rfl, message⟩

theorem spells_odd : Spells oddReport oddText := by
  have file : SpellsFile ⟨"", [⟨"", 7, 0, .error, "\"&"⟩]⟩ (.mk oddFile [.mk oddError []]) :=
    ⟨_, ⟨spellsTag_oddFile, by decide⟩, .inr ⟨rfl, by decide⟩, .cons spellsIssue_odd .nil⟩
  have section_ : SpellsSection oddReport.file oddElement.children :=
    @SpellsSection.present _ _ [.mk oddNote []] [] (by decide) file
  exact ⟨[oddElement], spellsContent_odd, oddElement, _, rfl, ⟨spellsTag_oddRoot, by decide⟩,
    gives_oddVersion, section_⟩

theorem parse_odd : Spells oddReport oddText ∧ (parse oddText).value = .ok oddReport :=
  ⟨spells_odd, (parse_spelled oddReport).2 oddText spells_odd⟩

end LintBridge.Report
