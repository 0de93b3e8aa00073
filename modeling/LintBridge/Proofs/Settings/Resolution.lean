import LintBridge.Machine.Server
import LintBridge.Proofs.Lint.Beside
import LintBridge.Proofs.Lint.Decision

/-!
# What is checked and what is run

A path of the settings is looked at from the directory of the program, as seen from the
project root, and opened once more by the linter, which runs in the root.  A path that
begins at the root of all files leads to the same place both times; a relative one does if
the two directories are the same.
-/

set_option autoImplicit false

namespace LintBridge

namespace Path

theorem pieces_ofText_ne_nil (text : String) : (ofText text).pieces ≠ [] :=
  (isText_iff.1 ⟨text, rfl⟩).1

theorem two_le_length_join {directory other : Path} (some_ : directory ≠ empty)
    (proper : directory.pieces ≠ []) (proper' : other.pieces ≠ []) :
    2 ≤ (directory.join other).pieces.length := by
  have there : 1 ≤ directory.pieces.length := List.length_pos_iff.2 proper
  have more : 1 ≤ other.pieces.length := List.length_pos_iff.2 proper'
  cases absolute : other.isAbsolute with
  | true =>
      obtain ⟨pieces, rest, rfl⟩ := exists_of_isAbsolute absolute
      have one : 1 ≤ pieces.length := List.length_pos_iff.2 rest
      rw [Path.join, absolute, Bool.true_or, if_pos rfl, List.length_cons]
      omega
  | false =>
      rw [join_of_relative some_ absolute]
      split
      next slash =>
        have long : directory.pieces.length ≠ 1 := by
          intro one
          obtain ⟨piece, same⟩ := List.length_eq_one_iff.1 one
          rw [same] at slash
          have blank : piece = "" := by simpa using slash
          exact some_ (congrArg Path.mk (blank ▸ same))
        rw [List.length_append, List.length_dropLast]
        omega
      next =>
        rw [List.length_append]
        omega

theorem isAbsolute_join {directory other : Path} (proper : other.pieces ≠ [])
    (absolute : directory.isAbsolute = true ∨ other.isAbsolute = true) :
    (directory.join other).isAbsolute = true := by
  cases given : other.isAbsolute with
  | true =>
      rw [Path.join, given, Bool.true_or, if_pos rfl]
      exact given
  | false =>
      obtain absolute : directory.isAbsolute = true := absolute.resolve_right (by simp [given])
      obtain ⟨more, some_, rfl⟩ := exists_of_isAbsolute absolute
      have apart : Path.mk ("" :: more) ≠ empty := by
        intro same
        exact some_ (List.cons.inj (congrArg Path.pieces same)).2
      rw [join_of_relative apart given]
      split
      next =>
        rw [List.dropLast_cons_of_ne_nil some_, List.cons_append]
        exact isAbsolute_cons (by simp [proper])
      next =>
        rw [List.cons_append]
        exact isAbsolute_cons (by simp [some_])

end Path

namespace FileTree

variable {tree : FileTree} {current other : Location} {path : Path}

theorem node_of_absolute (absolute : path.isAbsolute = true) :
    tree.node current path = tree.node other path := by
  unfold FileTree.node locate
  rw [if_pos absolute, if_pos absolute]

theorem node_empty : tree.node current Path.empty = .error .notFound := by
  unfold FileTree.node locate
  rw [if_neg (by decide), if_pos rfl]

theorem kind_eq_some_iff {kind : FileKind} :
    tree.kind current path = some kind ↔
      ∃ location node, tree.node current path = .ok (location, node) ∧ kindOf node = kind := by
  unfold FileTree.kind
  split
  next failed => simp [failed]
  next location node found => simp [found]

end FileTree

theorem Machine.kind_run {launch : Launcher} {m : Machine} (path : Path) :
    (Job.kind path).run (serveWith launch) m = (m.tree.kind m.current path, m) := rfl

/-! ## One path -/

section

variable {root : Path} {value : String}

theorem resolveText_empty : resolveText root "" = "" :=
  if_pos rfl

theorem ofText_resolveText (isText : (resolve root value).IsText) (set : value ≠ "") :
    Path.ofText (resolveText root value) = resolve root value := by
  rw [resolveText, if_neg set, isText.ofText_text]

theorem slash_mem_resolveText (isText : (resolve root value).IsText) (proper : root.pieces ≠ [])
    (some_ : root ≠ Path.empty) (set : value ≠ "") : '/' ∈ (resolveText root value).toList := by
  have long := Path.two_le_length_join some_ proper (Path.pieces_ofText_ne_nil value)
  by_cases slash : '/' ∈ (resolveText root value).toList
  · exact slash
  · have same := ofText_resolveText isText set
    rw [Path.ofText_of_clean slash] at same
    rw [← resolve, ← same] at long
    exact absurd long (by simp)

/-- The value names a path that is seen alike from both places.  Its text is all of it, and
it begins at the root of all files unless the places are the same. -/
structure Anchored (root : Path) (value : String) (current directory : Location) : Prop where
  isText : (resolve root value).IsText
  seen : root.isAbsolute = true ∨ (Path.ofText value).isAbsolute = true ∨ directory = current

theorem Anchored.node {tree : FileTree} {current directory : Location}
    (anchored : Anchored root value current directory) :
    tree.node directory (resolve root value) = tree.node current (resolve root value) := by
  have proper := Path.pieces_ofText_ne_nil value
  rcases anchored.seen with absolute | absolute | same
  · exact FileTree.node_of_absolute (Path.isAbsolute_join proper (.inl absolute))
  · exact FileTree.node_of_absolute (Path.isAbsolute_join proper (.inr absolute))
  · rw [same]

/-- From the directory the text leads to what was checked, and that is of the kind. -/
def OpensChecked (m : Machine) (directory : Location) (root : Path) (value text : String)
    (kind : FileKind) : Prop :=
  ∃ location node, m.tree.node m.current (resolve root value) = .ok (location, node) ∧
    FileTree.kindOf node = kind ∧ m.tree.node directory (.ofText text) = .ok (location, node)

theorem opensChecked {m : Machine} {directory : Location} {kind : FileKind} (set : value ≠ "")
    (anchored : Anchored root value m.current directory)
    (found : m.tree.kind m.current (resolve root value) = some kind) :
    OpensChecked m directory root value (resolveText root value) kind := by
  obtain ⟨location, node, there, sort⟩ := FileTree.kind_eq_some_iff.1 found
  refine ⟨location, node, there, sort, ?_⟩
  rw [ofText_resolveText anchored.isText set, anchored.node, there]

end

/-! ## All paths -/

namespace LintSettings

variable {launch : Machine.Launcher} {m : Machine} {settings : LintSettings} {root : Path}

/-- The paths of the settings lead to what they should. -/
structure Checked (settings : LintSettings) (m : Machine) (root : Path) : Prop where
  set : settings.executable ≠ ""
  executable : m.tree.kind m.current (resolve root settings.executable) = some .file
  interpreter : settings.nodeInterpreter ≠ "" →
    m.tree.kind m.current (resolve root settings.nodeInterpreter) = some .file
  configFile : settings.configFile ≠ "" →
    m.tree.kind m.current (resolve root settings.configFile) = some .file
  rulesPath : settings.customRulesPath ≠ "" →
    m.tree.kind m.current (resolve root settings.customRulesPath) = some .directory

theorem leadsTo_run (kind : FileKind) (value : String) :
    (leadsTo kind root value).run (Machine.serveWith launch) m
      = (decide (m.tree.kind m.current (resolve root value) = some kind), m) := by
  rw [leadsTo, Job.bind_eq_andThen, Job.run_andThen, Machine.kind_run, Job.run_pure]

theorem isSetAnd_run (kind : FileKind) (value : String) :
    (isSetAnd kind root value).run (Machine.serveWith launch) m
      = (decide (value ≠ "" ∧ m.tree.kind m.current (resolve root value) = some kind), m) := by
  by_cases blank : value = ""
  · simp [isSetAnd, blank]
  · rw [isSetAnd, if_neg blank, leadsTo_run]
    simp [blank]

theorem isUnsetOr_run (kind : FileKind) (value : String) :
    (isUnsetOr kind root value).run (Machine.serveWith launch) m
      = (decide (value ≠ "" → m.tree.kind m.current (resolve root value) = some kind), m) := by
  by_cases blank : value = ""
  · simp [isUnsetOr, blank]
  · rw [isUnsetOr, if_neg blank, leadsTo_run]
    simp [blank]

theorem problems_eq_nil_iff :
    ((settings.problems root).run (Machine.serveWith launch) m).1 = [] ↔
      settings.Checked m root := by
  unfold problems
  simp only [Job.bind_eq_andThen, Job.run_andThen, isSetAnd_run, isUnsetOr_run, Job.run_pure]
  simp only [List.append_eq_nil_iff, ite_eq_left_iff, decide_eq_true_eq, List.cons_ne_nil,
    imp_false, not_not]
  constructor
  · rintro ⟨⟨⟨⟨set, executable⟩, interpreter⟩, configFile⟩, rulesPath⟩
    exact ⟨set, executable, interpreter, configFile, rulesPath⟩
  · rintro ⟨set, executable, interpreter, configFile, rulesPath⟩
    exact ⟨⟨⟨⟨set, executable⟩, interpreter⟩, configFile⟩, rulesPath⟩

end LintSettings

/-- A path of the settings, and what a configuration has for it. -/
structure SettingsPath where
  value : String
  text : String
  kind : FileKind

namespace LintConfiguration

variable {launch : Machine.Launcher} {m : Machine} {settings : LintSettings} {root : Path}

/-- The paths that the linter opens. -/
def paths (config : LintConfiguration) (settings : LintSettings) : List SettingsPath :=
  [⟨settings.nodeInterpreter, config.interpreter, .file⟩,
    ⟨settings.executable, config.executable, .file⟩,
    ⟨settings.configFile, config.configFile, .file⟩,
    ⟨settings.customRulesPath, config.rulesDirectory, .directory⟩]

theorem mem_paths {target : String} {path : SettingsPath}
    (member : path ∈ (settings.configuration root target).paths settings) :
    path.text = resolveText root path.value := by
  simp only [paths, LintSettings.configuration, List.mem_cons, List.not_mem_nil, or_false]
    at member
  rcases member with rfl | rfl | rfl | rfl <;> rfl

theorem checked_of_mem_paths (checked : settings.Checked m root) {target : String}
    {path : SettingsPath} (member : path ∈ (settings.configuration root target).paths settings)
    (set : path.value ≠ "") :
    m.tree.kind m.current (resolve root path.value) = some path.kind := by
  simp only [paths, List.mem_cons, List.not_mem_nil, or_false] at member
  rcases member with rfl | rfl | rfl | rfl
  · exact checked.interpreter set
  · exact checked.executable
  · exact checked.configFile set
  · exact checked.rulesPath set

theorem set_of_mem_paths {target : String} {path : SettingsPath}
    (member : path ∈ (settings.configuration root target).paths settings)
    (some_ : path.text ≠ "") : path.value ≠ "" := by
  intro blank
  rw [mem_paths member, blank, resolveText_empty] at some_
  exact some_ rfl

/-- The program that is started is one of the paths, in the root. -/
theorem command_of_paths (config : LintConfiguration) (settings : LintSettings) :
    config.command.directory? = some config.workingDirectory ∧
      config.command.program ∈ (config.paths settings).map (Text.Stray.keepText ·.text) := by
  unfold command CommandLine.forScript paths
  split <;> simp

/-- The answer to the question for the version. -/
def versionOf : Except LintError ProcessOutcome → Except LintError String
  | .error e => .error e
  | .ok outcome => .ok (if outcome.success then Text.trim outcome.out else "")

variable {config : LintConfiguration} {budget : Nat}

theorem doesExist_run (path : Path) :
    (Job.doesExist path).run (Machine.serveWith launch) m
      = ((m.tree.kind m.current path).isSome, m) := by
  rw [Job.doesExist, Job.bind_eq_andThen, Job.run_andThen, Machine.kind_run, Job.run_pure]

theorem asks_doesExist (path : Path) : (Job.doesExist path).Asks (·.startsProcess = false) :=
  Job.Asks.andThen (Job.asks_request rfl) fun _ => trivial

theorem version_launches
    (there : (m.tree.kind m.current (.ofText config.executable)).isSome = true) :
    Job.Launches (Machine.serveWith launch) m (config.version budget) config.versionCommand
      budget fun reply =>
        versionOf (config.versionCommand.executed budget
          (config.versionCommand.captured reply)) := by
  refine .behind (asks_doesExist _) ?_
  rw [doesExist_run, there]
  refine .andThen (config.versionCommand.execute_launches budget) versionOf ?_ ?_
  · intro executed
    cases executed <;> trivial
  · intro executed _
    cases executed <;> rfl

theorem asked_of_starts {exchange : Exchange}
    (member : exchange ∈ Job.starts ((config.version budget).talk (Machine.serveWith launch) m)) :
    exchange.request = .launch config.versionCommand budget ∧
      (m.tree.kind m.current (.ofText config.executable)).isSome = true := by
  cases there : (m.tree.kind m.current (.ofText config.executable)).isSome with
  | false =>
      have idle : Job.starts ((config.version budget).talk (Machine.serveWith launch) m) = [] := by
        unfold version
        rw [Job.bind_eq_andThen, Job.talk_andThen, Job.starts_append,
          Job.starts_of_asks (asks_doesExist _), doesExist_run, there, List.nil_append]
        rfl
      rw [idle] at member
      cases member
  | true =>
      have launches : Job.Launches (Machine.serveWith launch) m (config.version budget) _ _ _ :=
        version_launches there
      obtain ⟨reply, once, -⟩ := launches
      rw [once, List.mem_singleton] at member
      exact ⟨by rw [member], rfl⟩

theorem set_of_isSome {target : String}
    (there : (m.tree.kind m.current
      (.ofText (settings.configuration root target).executable)).isSome = true) :
    settings.executable ≠ "" := by
  intro blank
  have nowhere : Path.ofText (resolveText root settings.executable) = Path.empty := by
    rw [blank, resolveText_empty]
    rfl
  rw [LintSettings.configuration, nowhere, FileTree.kind, FileTree.node_empty] at there
  cases there

/-- What is checked is what runs.  In the directory of the root the linter opens what was
checked in valid settings; and the executable that is tested before the version is asked for
is the one that was checked, and the one that is opened then. -/
theorem opens_what_was_checked {directory : Location} (proper : root.pieces ≠ [])
    (rootThere : m.tree.node m.current root = .ok (directory, .directory))
    (target : String) (budget : Nat) :
    let config := settings.configuration root target
    let asked := Job.starts ((config.version budget).talk (Machine.serveWith launch) m)
    config.command.directory? = some root
      ∧ config.command.program ∈ (config.paths settings).map (Text.Stray.keepText ·.text)
      ∧ (((settings.problems root).run (Machine.serveWith launch) m).1 = [] →
          (∀ path ∈ config.paths settings, path.text ≠ "" →
              Anchored root path.value m.current directory →
              '/' ∈ path.text.toList
                ∧ OpensChecked m directory root path.value path.text path.kind)
          ∧ ((resolve root settings.executable).IsText →
              OpensChecked m m.current root settings.executable config.executable .file
                ∧ ∃ reply, asked = [⟨.launch config.versionCommand budget, reply⟩]))
      ∧ (∀ exchange ∈ asked, exchange.request = .launch config.versionCommand budget
          ∧ (m.tree.kind m.current (.ofText config.executable)).isSome = true
          ∧ (Anchored root settings.executable m.current directory →
              m.tree.node directory (.ofText config.executable)
                = m.tree.node m.current (.ofText config.executable))) := by
  intro config asked
  have some_ : root ≠ Path.empty := by
    rintro rfl
    rw [FileTree.node_empty] at rootThere
    cases rootThere
  obtain ⟨inRoot, program⟩ := config.command_of_paths settings
  refine ⟨inRoot, program, ?valid, ?version⟩
  case valid =>
    intro valid
    have checked := LintSettings.problems_eq_nil_iff.1 valid
    refine ⟨?_, ?_⟩
    · intro path member some_text anchored
      have set := set_of_mem_paths member some_text
      rw [mem_paths member]
      exact ⟨slash_mem_resolveText anchored.isText proper some_ set,
        opensChecked set anchored (checked_of_mem_paths checked member set)⟩
    · intro isText
      have tested : OpensChecked m m.current root settings.executable config.executable .file :=
        opensChecked checked.set ⟨isText, .inr (.inr rfl)⟩ checked.executable
      obtain ⟨location, node, -, sort, found⟩ := id tested
      have there := FileTree.kind_eq_some_iff.2 ⟨location, node, found, sort⟩
      obtain ⟨reply, once, -⟩ := version_launches (by rw [there]; rfl)
      exact ⟨tested, reply, once⟩
  case version =>
    intro exchange member
    obtain ⟨request, there⟩ := asked_of_starts member
    refine ⟨request, there, fun anchored => ?_⟩
    have text : Path.ofText config.executable = resolve root settings.executable :=
      ofText_resolveText anchored.isText (set_of_isSome there)
    rw [text, anchored.node]

/-- A project with a linter, and with another one in a directory of the project's name. -/
def nestedMachine : Machine :=
  { tree := ⟨[(["node"], .file [] true), (["p"], .directory), (["p", "lint"], .file [1] true),
      (["p", "c.json"], .file [] false), (["p", "rules"], .directory), (["p", "p"], .directory),
      (["p", "p", "lint"], .file [2] true)]⟩
    current := [], clock := 0, copies := 0, entries := [] }

/-- All paths of the linter in its project. -/
def nestedSettings : LintSettings :=
  ⟨true, "lint", "/node", "c.json", "rules", false⟩

/-- From a root at the root of all files the linter opens what was checked. -/
theorem nested_opens_checked :
    let config := nestedSettings.configuration (.ofText "/p") "a.coffee"
    (∀ path ∈ config.paths nestedSettings,
        OpensChecked nestedMachine ["p"] (.ofText "/p") path.value path.text path.kind)
      ∧ ∃ reply, Job.starts ((config.version 1000).talk (Machine.serveWith Machine.refusing) nestedMachine)
          = [⟨.launch config.versionCommand 1000, reply⟩] := by
  intro config
  have valid : ((nestedSettings.problems (.ofText "/p")).run (Machine.serveWith Machine.refusing) nestedMachine).1 = [] :=
    LintSettings.problems_eq_nil_iff.2 ⟨by decide, by decide +kernel, fun _ => by decide +kernel,
      fun _ => by decide +kernel, fun _ => by decide +kernel⟩
  have plain (value : String) : (resolve (.ofText "/p") value).IsText :=
    Path.IsText.join ⟨"/p", rfl⟩ ⟨value, rfl⟩
  have rootThere : nestedMachine.tree.node nestedMachine.current (.ofText "/p")
      = .ok (["p"], .directory) := by
    decide +kernel
  obtain ⟨-, -, opens, -⟩ := opens_what_was_checked (by decide) rootThere "a.coffee" 1000
  obtain ⟨opened, -, once⟩ := (opens valid).imp_right fun tested => tested (plain _)
  refine ⟨fun path member => ?_, once⟩
  have some_ : path.text ≠ "" := by
    revert path
    decide +kernel
  exact (opened path member some_ ⟨plain _, .inl (by decide +kernel)⟩).2

/-- From a relative root it opens another file. -/
theorem nested_opens_other :
    let root := Path.ofText "p"
    let config := nestedSettings.configuration root "a.coffee"
    ((nestedSettings.problems root).run (Machine.serveWith Machine.refusing) nestedMachine).1 = []
      ∧ config.command.directory? = some root
      ∧ nestedMachine.tree.node nestedMachine.current root = .ok (["p"], .directory)
      ∧ nestedMachine.tree.node nestedMachine.current (resolve root nestedSettings.executable)
          = .ok (["p", "lint"], .file [1] true)
      ∧ nestedMachine.tree.node ["p"] (.ofText config.executable)
          = .ok (["p", "p", "lint"], .file [2] true) :=
  ⟨LintSettings.problems_eq_nil_iff.2 ⟨by decide, by decide +kernel, fun _ => by decide +kernel,
      fun _ => by decide +kernel, fun _ => by decide +kernel⟩,
    by decide +kernel, by decide +kernel, by decide +kernel, by decide +kernel⟩

end LintConfiguration

end LintBridge
