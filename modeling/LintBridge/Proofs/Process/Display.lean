import LintBridge.Machine.Server
import LintBridge.Proofs.Lint.Decision
import LintBridge.Proofs.Path.Texts
import LintBridge.Proofs.Text.Basic

/-!
# Shown command lines

A command is shown in the log before it is started and in the errors that tell of it.  Where the
parts are texts without double quotes, a reader takes them back from what is shown: a quote opens
and closes a part, and a space ends one that no quotes surround.  So the text tells the program
and its arguments, and so do the line of the log and the message of an error around it.  Bytes
that belong to no character are shown alike, and the directory of a command is not shown.
-/

set_option autoImplicit false

namespace LintBridge

/-! ## Reading shown parts -/

namespace CommandLine

/-- Where a reader of shown parts stands. -/
inductive ShownPlace where
  | start
  | bare (reversed : List Char)
  | quoted (reversed : List Char)
  deriving DecidableEq, Repr

/-- The parts that are shown, the first of them from a place on. -/
def readParts : ShownPlace → List Char → List String
  | .start, [] => []
  | .start, c :: rest =>
      if c = '"' then readParts (.quoted []) rest else readParts (.bare [c]) rest
  | .bare reversed, [] => [String.ofList reversed.reverse]
  | .bare reversed, c :: rest =>
      if c = ' ' then String.ofList reversed.reverse :: readParts .start rest
      else readParts (.bare (c :: reversed)) rest
  | .quoted reversed, [] => [String.ofList reversed.reverse]
  | .quoted reversed, c :: rest =>
      if c = '"' then readParts (.bare reversed) rest
      else readParts (.quoted (c :: reversed)) rest

theorem readParts_bare {text : List Char} (clear : ' ' ∉ text) (reversed rest : List Char) :
    readParts (.bare reversed) (text ++ rest)
      = readParts (.bare (text.reverse ++ reversed)) rest := by
  induction text generalizing reversed with
  | nil => rfl
  | cons c text ih =>
      obtain ⟨other, clear⟩ := List.ne_and_not_mem_of_not_mem_cons clear
      rw [List.cons_append, readParts, if_neg other.symm, ih clear, List.reverse_cons,
        List.append_assoc, List.singleton_append]

theorem readParts_quoted {text : List Char} (clear : '"' ∉ text) (reversed rest : List Char) :
    readParts (.quoted reversed) (text ++ '"' :: rest)
      = readParts (.bare (text.reverse ++ reversed)) rest := by
  induction text generalizing reversed with
  | nil => rw [List.nil_append, readParts, if_pos rfl, List.reverse_nil, List.nil_append]
  | cons c text ih =>
      obtain ⟨other, clear⟩ := List.ne_and_not_mem_of_not_mem_cons clear
      rw [List.cons_append, readParts, if_neg other.symm, ih clear, List.reverse_cons,
        List.append_assoc, List.singleton_append]

theorem readParts_showText {text : String} (clear : '"' ∉ text.toList) (rest : List Char) :
    readParts .start (showText text ++ rest) = readParts (.bare text.toList.reverse) rest := by
  unfold showText
  split
  · have inside := readParts_quoted clear [] rest
    rw [List.append_nil] at inside
    rw [List.cons_append, List.cons_append, readParts, if_pos rfl, List.append_assoc,
      List.singleton_append, inside]
  · rename_i bare
    simp only [Bool.or_eq_true, decide_eq_true_eq, List.any_eq_true, not_or, not_exists] at bare
    obtain ⟨given, bare⟩ := bare
    have blank : ' ' ∉ text.toList := fun member => bare ' ' ⟨member, by decide⟩
    cases chars : text.toList with
    | nil => exact absurd (String.toList_eq_nil_iff.mp chars) given
    | cons c later =>
        rw [chars] at clear blank
        have other : '"' ≠ c := List.ne_of_not_mem_cons clear
        rw [List.cons_append, readParts, if_neg other.symm,
          readParts_bare (List.not_mem_of_not_mem_cons blank), List.reverse_cons]

theorem readParts_showTexts {texts : List String} (clear : ∀ text ∈ texts, '"' ∉ text.toList) :
    readParts .start (showTexts texts) = texts := by
  induction texts with
  | nil => rfl
  | cons text rest ih =>
      obtain ⟨first, later⟩ := List.forall_mem_cons.mp clear
      cases rest with
      | nil =>
          have alone := readParts_showText first []
          rw [List.append_nil] at alone
          rw [showTexts, alone, readParts, List.reverse_reverse, String.ofList_toList]
      | cons next rest =>
          rw [showTexts, readParts_showText first, readParts, if_pos rfl, ih later,
            List.reverse_reverse, String.ofList_toList]
          exact List.cons_ne_nil next rest

/-- The part is a text without a double quote. -/
def Plain (part : String) : Prop :=
  ∃ text : String, part = Text.Stray.keepText text ∧ '"' ∉ text.toList

theorem plain_iff {part : String} :
    Plain part ↔ part = Text.Stray.keepText (Text.Stray.shown part)
      ∧ '"' ∉ (Text.Stray.shown part).toList := by
  constructor
  · rintro ⟨text, rfl, clear⟩
    rw [Text.Stray.shown_keepText]
    exact ⟨rfl, clear⟩
  · rintro ⟨same, clear⟩
    exact ⟨_, same, clear⟩

instance : DecidablePred Plain := fun _ => decidable_of_iff _ plain_iff.symm

/-- All parts of the command are texts without double quotes. -/
def Unquoted (command : CommandLine) : Prop :=
  ∀ part ∈ command.program :: command.args, Plain part

instance : DecidablePred Unquoted := fun command =>
  inferInstanceAs (Decidable (∀ part ∈ command.program :: command.args, Plain part))

namespace Unquoted

variable {command : CommandLine} (plain : command.Unquoted)
include plain

theorem clear : ∀ text ∈ command.texts, '"' ∉ text.toList := by
  intro text member
  obtain ⟨part, inside, rfl⟩ := List.mem_map.mp member
  exact (plain_iff.mp (plain part inside)).2

theorem parts_eq : command.texts.map Text.Stray.keepText = command.program :: command.args := by
  have kept : ∀ part ∈ command.program :: command.args,
      (Text.Stray.keepText ∘ Text.Stray.shown) part = id part :=
    fun part member => (plain_iff.mp (plain part member)).1.symm
  rw [texts, List.map_map]
  exact (List.map_congr_left kept).trans (List.map_id _)

end Unquoted

/-- The same program with the same arguments, wherever it runs. -/
def SameCall (first second : CommandLine) : Prop :=
  first.program = second.program ∧ first.args = second.args

theorem display_eq_iff {first second : CommandLine} (plain : first.Unquoted)
    (plain' : second.Unquoted) : first.display = second.display ↔ first.SameCall second := by
  constructor
  · intro same
    have shown := congrArg (readParts .start) (String.ofList_injective same)
    rw [readParts_showTexts plain.clear, readParts_showTexts plain'.clear] at shown
    have parts := congrArg (List.map Text.Stray.keepText) shown
    rw [plain.parts_eq, plain'.parts_eq] at parts
    exact List.cons.inj parts
  · rintro ⟨program, args⟩
    rw [display, display, texts, texts, program, args]

end CommandLine

/-! ## The message of an error -/

/-- Where a mark does not come again behind its place, what stands in front of it is told. -/
theorem front_eq_of_mark {mark : Char} {front back front' back' : List Char}
    (last : mark ∉ back) (last' : mark ∉ back')
    (same : front ++ mark :: back = front' ++ mark :: back') : front = front' := by
  have between : ∀ {between back back' : List Char}, mark ∉ back →
      mark :: back = between ++ mark :: back' → between = [] := by
    intro between back back' last same
    cases between with
    | nil => rfl
    | cons c between =>
        obtain ⟨-, rest⟩ := List.cons.inj same
        exact absurd (rest ▸ List.mem_append_right between (List.mem_cons_self ..)) last
  rcases List.append_eq_append_iff.mp same with ⟨more, rfl, rest⟩ | ⟨more, rfl, rest⟩
  · rw [between last rest, List.append_nil]
  · rw [between last' rest, List.append_nil]

theorem OsError.apostrophe_notMem (e : OsError) : '\'' ∉ e.message.toList := by
  cases e with
  | other text => exact text.property
  | _ => decide

namespace LintError

/-- The command that is quoted in the error. -/
def quoted? : LintError → Option String
  | launch command _ => some command
  | timeout command _ => some command
  | _ => none

/-- An apostrophe stands behind the command, and none behind that. -/
theorem message_launch (command : String) (cause : OsError) :
    ∃ back, '\'' ∉ back ∧ (launch command cause.message).message.toList
      = "Failed to launch '".toList ++ command.toList ++ '\'' :: back := by
  have told : (launch command cause.message).message
      = "Failed to launch '" ++ command ++ "': " ++ cause.message := rfl
  have mark : "': ".toList = '\'' :: [':', ' '] := by decide
  refine ⟨[':', ' '] ++ cause.message.toList, ?_, ?_⟩
  · rw [List.mem_append, not_or]
    exact ⟨by decide, cause.apostrophe_notMem⟩
  · rw [told, String.toList_append, String.toList_append, String.toList_append, mark,
      List.append_assoc, List.cons_append]

theorem message_timeout (command : String) (micros : Nat) :
    ∃ back, '\'' ∉ back ∧ (timeout command micros).message.toList
      = "Command '".toList ++ command.toList ++ '\'' :: back := by
  have told : (timeout command micros).message
      = "Command '" ++ command ++ "' is timed out after " ++ toString (micros / 1000) ++ "ms." := rfl
  have mark : "' is timed out after ".toList = '\'' :: " is timed out after ".toList := by decide
  have digits : (toString (micros / 1000)).toList = Nat.toDigits 10 (micros / 1000) := by
    simp [toString, Nat.repr]
  refine ⟨" is timed out after ".toList ++ Nat.toDigits 10 (micros / 1000) ++ "ms.".toList, ?_, ?_⟩
  · rw [List.mem_append, List.mem_append, not_or, not_or]
    exact ⟨⟨by decide, (Text.numeral_toDigits _).notMem (by decide) (by decide)⟩, by decide⟩
  · rw [told, String.toList_append, String.toList_append, String.toList_append,
      String.toList_append, mark, digits]
    simp only [List.append_assoc, List.cons_append]

theorem message_io (message : String) :
    (io message).message.toList = "I/O error: ".toList ++ message.toList :=
  String.toList_append

end LintError

namespace CommandLine

/-- What can go wrong with a command. -/
inductive FailsWith (command : CommandLine) (budget : Nat) : LintError → Prop where
  | launch (cause : OsError) : FailsWith command budget (.launch command.display cause.message)
  | timeout : FailsWith command budget (.timeout command.display budget)
  | watching (cause : OsError) : FailsWith command budget (.io cause.message)

theorem execute_fails {σ : Type} {serve : Job.Server σ} {s : σ} {command : CommandLine}
    {budget : Nat} {e : LintError} (failed : ((command.execute budget).run serve s).1 = .error e) :
    command.FailsWith budget e := by
  obtain ⟨reply, -, value⟩ := command.execute_launches budget
  rw [value] at failed
  cases reply with
  | error cause =>
      cases failed
      exact .launch cause
  | ok observation =>
      simp only [captured] at failed
      cases seen : observation.capture with
      | error cause =>
          rw [seen] at failed
          cases failed
          exact .watching cause
      | ok captured =>
          rw [seen, Result.mapError_ok, executed] at failed
          split at failed
          · cases failed
            exact .timeout
          · cases failed

/-- Which command an error quotes can be read off its message: the kinds of errors begin with
letters of their own, and the command reaches to the last apostrophe. -/
theorem FailsWith.display_eq {first second : CommandLine} {budget budget' : Nat}
    {e e' : LintError} (fails : first.FailsWith budget e) (fails' : second.FailsWith budget' e')
    (quotes : e.quoted?.isSome = true) (same : e.message = e'.message) :
    first.display = second.display := by
  have texts := congrArg String.toList same
  cases fails with
  | launch cause =>
      obtain ⟨back, last, message⟩ := LintError.message_launch first.display cause
      rw [message] at texts
      cases fails' with
      | launch cause' =>
          obtain ⟨back', last', message'⟩ := LintError.message_launch second.display cause'
          rw [message'] at texts
          exact String.toList_inj.mp (List.append_cancel_left (front_eq_of_mark last last' texts))
      | timeout =>
          obtain ⟨back', -, message'⟩ := LintError.message_timeout second.display budget'
          rw [message'] at texts
          cases congrArg List.head? texts
      | watching cause' =>
          rw [LintError.message_io] at texts
          cases congrArg List.head? texts
  | timeout =>
      obtain ⟨back, last, message⟩ := LintError.message_timeout first.display budget
      rw [message] at texts
      cases fails' with
      | launch cause' =>
          obtain ⟨back', -, message'⟩ := LintError.message_launch second.display cause'
          rw [message'] at texts
          cases congrArg List.head? texts
      | timeout =>
          obtain ⟨back', last', message'⟩ := LintError.message_timeout second.display budget'
          rw [message'] at texts
          exact String.toList_inj.mp (List.append_cancel_left (front_eq_of_mark last last' texts))
      | watching cause' =>
          rw [LintError.message_io] at texts
          cases congrArg List.head? texts
  | watching cause => cases quotes

/-! ## What is told of a run -/

/-- The line of the log that a run begins with. -/
def announcement (command : CommandLine) : LogEntry :=
  ⟨.info, "Running coffeelint command: " ++ command.display⟩

theorem execute_requests {σ : Type} (serve : Job.Server σ) (s : σ) (command : CommandLine)
    (budget : Nat) :
    ∃ rest, (command.execute budget).requests serve s
      = .log command.announcement :: .launch command budget :: rest :=
  ⟨_, rfl⟩

theorem announcement_eq_iff {first second : CommandLine} :
    first.announcement = second.announcement ↔ first.display = second.display := by
  simp [announcement]

/-- Commands of texts without double quotes are shown alike exactly where they are the same
call.  A run begins with a line of the log that tells the call which is started next, and the
message of an error that quotes the command tells it too. -/
theorem display_identifies {first second : CommandLine} (plain : first.Unquoted)
    (plain' : second.Unquoted) :
    (first.display = second.display ↔ first.SameCall second) ∧
    ∀ {σ τ : Type} (serve : Job.Server σ) (serve' : Job.Server τ) (s : σ) (t : τ)
      (budget budget' : Nat),
      (∃ line rest line' rest',
        (first.execute budget).requests serve s = .log line :: .launch first budget :: rest
        ∧ (second.execute budget').requests serve' t
          = .log line' :: .launch second budget' :: rest'
        ∧ (line = line' ↔ first.SameCall second))
      ∧ ∀ e e', ((first.execute budget).run serve s).1 = .error e →
        ((second.execute budget').run serve' t).1 = .error e' →
        e.quoted?.isSome = true → e.message = e'.message →
          first.SameCall second := by
  have shown := display_eq_iff plain plain'
  refine ⟨shown, fun serve serve' s t budget budget' => ⟨?_, ?_⟩⟩
  · obtain ⟨rest, requests⟩ := execute_requests serve s first budget
    obtain ⟨rest', requests'⟩ := execute_requests serve' t second budget'
    exact ⟨_, rest, _, rest', requests, requests', announcement_eq_iff.trans shown⟩
  · intro e e' failed failed' quotes same
    exact shown.mp ((execute_fails failed).display_eq (execute_fails failed') quotes same)

/-- One part with a space and a line break, an empty one and a wide blank, shown in two
directories. -/
def blankCall (directory : String) : CommandLine :=
  ⟨"my lint", ["", "\n", "\u2003a"], some (.ofText directory)⟩

theorem blankCall_identified :
    (blankCall "/here").Unquoted ∧ (blankCall "/there").Unquoted
      ∧ (CommandLine.mk "lint" ["a b"] none).Unquoted
      ∧ (CommandLine.mk "lint" ["a", "b"] none).Unquoted
      ∧ (blankCall "/here").display = (blankCall "/there").display
      ∧ (CommandLine.mk "lint" ["a b"] none).display ≠ (CommandLine.mk "lint" ["a", "b"] none).display
      ∧ ∃ e, (((blankCall "/here").execute 100).run (Machine.serveWith Machine.refusing)
          .empty).1 = .error e
        ∧ (((blankCall "/there").execute 200).run (Machine.serveWith Machine.refusing)
          .empty).1 = .error e
        ∧ e.quoted?.isSome = true
        ∧ (blankCall "/here").SameCall (blankCall "/there") := by
  have here : (blankCall "/here").Unquoted := by decide
  have there : (blankCall "/there").Unquoted := by decide
  have one : (CommandLine.mk "lint" ["a b"] none).Unquoted := by decide
  have two : (CommandLine.mk "lint" ["a", "b"] none).Unquoted := by decide
  have apart : ¬ (CommandLine.mk "lint" ["a b"] none).SameCall
      (CommandLine.mk "lint" ["a", "b"] none) := by
    rintro ⟨-, args⟩
    exact absurd args (by decide)
  refine ⟨here, there, one, two, (display_identifies here there).1.mpr ⟨rfl, rfl⟩,
    fun same => apart ((display_identifies one two).1.mp same), ?_⟩
  refine ⟨.launch (blankCall "/here").display OsError.notFound.message, rfl, rfl, rfl, ?_⟩
  exact ((display_identifies here there).2 (Machine.serveWith Machine.refusing)
    (Machine.serveWith Machine.refusing) .empty .empty 100 200).2 _ _ rfl rfl rfl rfl

/-! ## Commands that are shown alike -/

/-- A program of one byte that is no character. -/
def strayCall (byte : UInt8) : CommandLine :=
  ⟨Text.Stray.ofBytes [byte], [], none⟩

/-- A script by its name in a directory. -/
def toolCall (directory : String) : CommandLine :=
  .forScript "/bin/sh" "tool" (.ofText directory)

/-- Two directories with different scripts of one name. -/
def twinTree : FileTree :=
  ⟨[(["d1"], .directory), (["d1", "tool"], .file [1] true), (["d2"], .directory),
    (["d2", "tool"], .file [2] true)]⟩

/-- Different programs may be shown alike, and so may calls that run different scripts. -/
theorem strayCalls_shown_alike :
    (∀ byte ∈ [255, 254], '"' ∉ (strayCall byte).program.toList)
      ∧ (strayCall 255).display = (strayCall 254).display
      ∧ (strayCall 255).program ≠ (strayCall 254).program
      ∧ (toolCall "/d1").Unquoted ∧ (toolCall "/d2").Unquoted
      ∧ (toolCall "/d1").announcement = (toolCall "/d2").announcement
      ∧ twinTree.read ["d1"] (.ofText "tool") = .ok [1]
      ∧ twinTree.read ["d2"] (.ofText "tool") = .ok [2] := by
  refine ⟨by decide +kernel, by decide +kernel, by decide +kernel, by decide +kernel,
    by decide +kernel, by decide +kernel, Result.eq_ok_of_toOption (by decide +kernel),
    Result.eq_ok_of_toOption (by decide +kernel)⟩

end CommandLine

end LintBridge
