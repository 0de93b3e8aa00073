import LintBridge.Proofs.Lint.Sharing

/-!
# Buffers that are linted side by side

A schedule tells which of the jobs makes the next request.  Whatever it says, each event
keeps the files shared, so each linter reads the text of its own buffer.
-/

set_option autoImplicit false

namespace LintBridge

open FileTree (pathOf longestPath)

section

variable {σ : Type} {host : FileHost σ} {s : σ} {buffers : List Buffer} {states : Nat → Conduct}
  {past : List (Event σ)} {s' : σ} {k : Nat} {b : Buffer} {copy path : Path} {place : Location}
  {tree : FileTree} {stage : Stage}

/-! ## One event -/

/-- An event changes free places and what its own job made there, and nothing that was there
at the beginning. -/
def OnlyOwn (host : FileHost σ) (s : σ) (past : List (Event σ)) (e : Event σ) : Prop :=
  ∀ location,
    (host.tree e.passage.after).get? location ≠ (host.tree e.passage.before).get? location →
      (host.tree s).get? location = none ∧
        ((host.tree e.passage.before).get? location = none ∨
          LastMadeBy host location e.place past)

variable {c : Conduct} {left : σ} {e : Event σ}

theorem Stage.Stays.concat (stays : stage.Stays host s buffers past tree k b) {after : FileTree}
    (apart : ∀ copy place, Live host s buffers past tree k b copy place →
      after.get? place = tree.get? place ∧ ∀ made, ¬ e.passage.Makes host made place) :
    stage.Stays host s buffers (past ++ [e]) after k b := by
  have kept {copy : Path} {place : Location} (live : Live host s buffers past tree k b copy place) :
      Live host s buffers (past ++ [e]) after k b copy place := by
    obtain ⟨same, unmade⟩ := apart copy place live
    exact { live with owner := live.owner.later unmade, there := by rw [same]; exact live.there }
  cases stage with
  | unread => trivial
  | unsaved => trivial
  | removed => trivial
  | saved => exact stays
  | created copy =>
      obtain ⟨place, live⟩ := stays
      exact ⟨place, kept live⟩
  | spoiled copy =>
      obtain ⟨place, live⟩ := stays
      exact ⟨place, kept live⟩
  | filled copy =>
      obtain ⟨place, live, executable, there⟩ := stays
      exact ⟨place, kept live, executable, by rw [(apart copy place live).1, there]⟩

theorem not_makes (none_ : e.passage.request.made? e.passage.reply = none) (copy : Path)
    (place : Location) : ¬ e.passage.Makes host copy place := by
  intro makes
  cases none_.symm.trans makes.1

theorem Live.apart (live : Live host s buffers past tree k b copy place) {j : Nat}
    {other : Buffer} {copy' : Path} {place' : Location} (differs : j ≠ k)
    (live' : Live host s buffers past tree j other copy' place') : place' ≠ place := by
  rintro rfl
  exact differs (live'.owner.unique live.owner)

theorem Live.onlyOwn
    (live : Live host s buffers past (host.tree e.passage.before) e.place b copy place)
    (rest : ∀ location, location ≠ place →
      (host.tree e.passage.after).get? location = (host.tree e.passage.before).get? location) :
    OnlyOwn host s past e := by
  intro location changed
  have here : location = place := by
    by_contra apart
    exact changed (rest location apart)
  subst here
  exact ⟨live.free.get?_eq_none, .inr live.owner⟩

theorem onlyOwn_of_same (same : host.tree e.passage.after = host.tree e.passage.before) :
    OnlyOwn host s past e :=
  fun _ changed => absurd (by rw [same]) changed

theorem Informed.early {start : Location} (told : Informed tree start b c)
    (early : c.stage = .unread ∨ c.stage = .unsaved ∨ ∃ copy, c.stage = .created copy)
    (stage : Stage) : Informed tree start b { c with stage } where
  current := told.current
  root := told.root
  file path known := by
    have seen := told.file path known
    rcases early with same | same | ⟨copy, same⟩
    · rw [same] at seen
      exact seen.elim
    · rw [same] at seen
      exact seen.elim
    · rw [same] at seen
      exact seen.elim

namespace Shared

variable (shared : Shared host s buffers states past s')

include shared

theorem next (found : buffers[k]? = some b) (current : host.current left = host.current s')
    (told : Informed (host.tree s) (host.current s) b c)
    (stays : c.stage.Stays host s buffers (past ++ [e]) (host.tree left) k b)
    (others : ∀ j other copy place, j ≠ k →
      Live host s buffers past (host.tree s') j other copy place →
        (host.tree left).get? place = (host.tree s').get? place ∧
          ∀ made, ¬ e.passage.Makes host made place)
    (kept : ∀ location, (host.tree left).get? location = (host.tree s).get? location ∨
      (∃ copy, c.stage.copy? = some copy ∧
        (host.tree s).IsFree (host.current s) copy location) ∨
      (host.tree left).get? location = (host.tree s').get? location ∧
        ∀ copy, (states k).stage.copy? = some copy →
          ¬ (host.tree s).IsFree (host.current s) copy location) :
    Shared host s buffers (Function.update states k c) (past ++ [e]) left where
  current := current.trans shared.current
  kept location := by
    -- As at the beginning, a copy of this job, or what another job has there.
    rcases kept location with same | ⟨copy, held, free⟩ | ⟨same, foreign⟩
    · exact .inl same
    · exact .inr ⟨k, b, copy, found, by rw [Function.update_self]; exact held, free⟩
    · rcases shared.kept location with before | ⟨j, other, copy, at_, held, free⟩
      · exact .inl (same.trans before)
      · have elsewhere : j ≠ k := by
          rintro rfl
          exact foreign copy held free
        exact .inr ⟨j, other, copy, at_, by rw [Function.update_of_ne elsewhere]; exact held, free⟩
  told j other at_ := by
    by_cases here : j = k
    · subst here
      cases found.symm.trans at_
      rw [Function.update_self]
      exact told
    · rw [Function.update_of_ne here]
      exact shared.told j other at_
  stays j other at_ := by
    by_cases here : j = k
    · subst here
      cases found.symm.trans at_
      rw [Function.update_self]
      exact stays
    · rw [Function.update_of_ne here]
      exact (shared.stays j other at_).concat fun copy place live =>
        others j other copy place here live

theorem quiet (found : buffers[k]? = some b) (current : host.current left = host.current s')
    (same : host.tree left = host.tree s')
    (none_ : e.passage.request.made? e.passage.reply = none)
    (told : Informed (host.tree s) (host.current s) b c)
    (held : c.stage.copy? = (states k).stage.copy?)
    (stays : c.stage.Stays host s buffers past (host.tree s') k b) :
    Shared host s buffers (Function.update states k c) (past ++ [e]) left := by
  refine shared.next found current told ?_ (fun j other copy place _ _ =>
    ⟨by rw [same], fun made => not_makes none_ made place⟩) fun location => ?_
  · exact stays.concat fun copy place _ =>
      ⟨by rw [same], fun made => not_makes none_ made place⟩
  · by_cases own : ∃ copy, (states k).stage.copy? = some copy ∧
        (host.tree s).IsFree (host.current s) copy location
    · rw [← held] at own
      exact .inr (.inl own)
    · refine .inr (.inr ⟨by rw [same], fun copy here free => own ⟨copy, here, free⟩⟩)

theorem touched (found : buffers[k]? = some b) (current : host.current left = host.current s')
    (live : Live host s buffers past (host.tree s') k b copy place)
    (none_ : e.passage.request.made? e.passage.reply = none)
    (told : Informed (host.tree s) (host.current s) b c)
    (stays : c.stage.Stays host s buffers (past ++ [e]) (host.tree left) k b)
    (held : (states k).stage.copy? = some copy)
    (rest : ∀ location, location ≠ place →
      (host.tree left).get? location = (host.tree s').get? location)
    (ends : c.stage.copy? = some copy ∨ (host.tree left).get? place = none) :
    Shared host s buffers (Function.update states k c) (past ++ [e]) left := by
  refine shared.next found current told stays (fun j other copy' place' apart live' =>
    ⟨rest place' (live.apart apart live'), fun made => not_makes none_ made place'⟩)
    fun location => ?_
  by_cases here : location = place
  · subst here
    rcases ends with held' | gone
    · exact .inr (.inl ⟨copy, held', live.free⟩)
    · exact .inl (gone.trans live.free.get?_eq_none.symm)
  · refine .inr (.inr ⟨rest location here, fun copy' held' free => here ?_⟩)
    cases held.symm.trans held'
    exact free.unique live.free

theorem created (found : buffers[k]? = some b) (unsaved : (states k).stage = .unsaved)
    (coffee : b.path.isCoffeeScript = true)
    (names : Copy.Names (host.current s) b.annotator.root b.path copy)
    (new : ∀ other ∈ buffers, (host.tree s).locate true (host.current s) other.path
      ≠ (host.tree s).locate false (host.current s) copy)
    {directory : Path} {before after : String} (current : host.current left = host.current s')
    (made : (host.tree s').create (host.current s) copy = .ok (some (host.tree left))) :
    OnlyOwn host s past ⟨k, s', .createCopy directory before after, .ok copy, left⟩ ∧
      Shared host s buffers
        (Function.update states k { states k with stage := .created copy })
        (past ++ [⟨k, s', .createCopy directory before after, .ok copy, left⟩]) left := by
  obtain ⟨place, nothing, puts⟩ := FileTree.puts_of_create made
  have free := shared.isFree_eq nothing
  have makes : Passage.Makes host ⟨s', .createCopy directory before after, .ok copy, left⟩ copy
      place := ⟨rfl, by rw [shared.current]; exact nothing⟩
  have only {other : Path} {place' : Location}
      (makes' : Passage.Makes host ⟨s', .createCopy directory before after, .ok copy, left⟩ other
        place') : place' = place := by
    obtain ⟨same, free'⟩ := makes'
    cases same
    exact free'.unique makes.2
  constructor
  · intro location changed
    have here : location = place := by
      by_contra apart
      exact changed (puts.rest location apart)
    subst here
    exact ⟨free.get?_eq_none, .inl nothing.get?_eq_none⟩
  · have live : Live host s buffers
        (past ++ [⟨k, s', .createCopy directory before after, .ok copy, left⟩]) (host.tree left) k
        b copy place :=
      { coffee, names, free, new, owner := .made rfl makes, there := ⟨[], false, puts.there⟩ }
    have told := (shared.told k b found).early (.inr (.inl unsaved)) (.created copy)
    refine shared.next found current told ⟨_, live⟩
      (fun j other copy' place' _ live' => ?_) fun location => ?_
    -- Where another job's copy stands nothing can be made.
    · have apart : place' ≠ place := by
        rintro rfl
        obtain ⟨bytes, executable, there⟩ := live'.there
        cases there.symm.trans nothing.get?_eq_none
      exact ⟨puts.rest place' apart, fun made makes' => apart (only makes')⟩
    · by_cases here : location = place
      · subst here
        exact .inr (.inl ⟨copy, rfl, free⟩)
      · refine .inr (.inr ⟨puts.rest location here, fun copy' held => ?_⟩)
        rw [unsaved] at held
        cases held

theorem written (found : buffers[k]? = some b) (held : (states k).stage = .created copy)
    {reply : Except OsError Unit} (current : host.current left = host.current s')
    (writes : (host.tree s').Writes (host.current s) copy (Text.encode b.content) reply
      (host.tree left)) :
    OnlyOwn host s past ⟨k, s', .write copy (Text.encode b.content), reply, left⟩ ∧
      Shared host s buffers
        (Function.update states k { states k with stage := Stage.ofWritten copy reply })
        (past ++ [⟨k, s', .write copy (Text.encode b.content), reply, left⟩]) left := by
  have stays := shared.stays k b found
  rw [held] at stays
  obtain ⟨place, live⟩ := stays
  obtain ⟨bytes, executable, there⟩ := live.there
  obtain ⟨bytes', full, puts⟩ := writes.puts (live.locate shared.alike there true)
  refine ⟨live.onlyOwn puts.rest, ?_⟩
  have later : Live host s buffers
      (past ++ [⟨k, s', .write copy (Text.encode b.content), reply, left⟩]) (host.tree left) k b
      copy place :=
    { live with owner := live.owner.later fun made => not_makes rfl made place,
                there := ⟨bytes', executable, puts.there⟩ }
  have told := (shared.told k b found).early (.inr (.inr ⟨copy, held⟩))
    (Stage.ofWritten copy reply)
  have before : (states k).stage.copy? = some copy := by
    rw [held]
    rfl
  cases reply with
  | ok _ =>
      have filled := puts.there
      rw [full rfl] at filled
      exact shared.touched found current live rfl told ⟨place, later, executable, filled⟩ before
        puts.rest (.inl rfl)
  | error e =>
      exact shared.touched found current live rfl told ⟨place, later⟩ before puts.rest (.inl rfl)

theorem removed (found : buffers[k]? = some b) (held : (states k).stage.copy? = some copy)
    (current : host.current left = host.current s')
    (gone : host.tree left = (host.tree s').remove (host.current s) copy) :
    OnlyOwn host s past ⟨k, s', .remove copy, (), left⟩ ∧
      Shared host s buffers (Function.update states k { states k with stage := .removed })
        (past ++ [⟨k, s', .remove copy, (), left⟩]) left := by
  obtain ⟨place, live⟩ := (shared.stays k b found).live held
  obtain ⟨bytes, executable, there⟩ := live.there
  rw [FileTree.remove_of_file (live.locate shared.alike there false)] at gone
  have below := live.free.ne_root
  have rest (location : Location) (apart : location ≠ place) :
      (host.tree left).get? location = (host.tree s').get? location := by
    rw [gone, FileTree.get?_clear _ below, if_neg apart]
  refine ⟨live.onlyOwn rest, ?_⟩
  have told : Informed (host.tree s) (host.current s) b { states k with stage := .removed } :=
    { shared.told k b found with file := fun _ _ => trivial }
  refine shared.touched found current live rfl told trivial held rest (.inr ?_)
  rw [gone, FileTree.get?_clear _ below, if_pos rfl]

theorem informed_canonical (project : IsProject (host.tree s) (host.current s) buffers)
    (found : buffers[k]? = some b) {file : Path}
    (allowed : (states k).Allows b.annotator b.path b.content (.canonical file))
    {reply : Except OsError Path} (told : ∀ path' : Path, reply = .ok path' →
      (host.tree s').canonical (host.current s) file = .ok path') :
    Informed (host.tree s) (host.current s) b
      ((states k).hear b.content (.canonical file) reply) := by
  have informed := shared.told k b found
  have known {path : Path} (same : Except.toOption reply = some path) : ∃ place node,
      (host.tree s').node (host.current s) file = .ok (place, node) ∧ path = pathOf place ∧
        Path.weight (pathOf place).pieces ≤ longestPath + 1 := by
    cases reply with
    | error e => cases same
    | ok path' =>
        cases same
        obtain ⟨place, node, at_, short, same⟩ := FileTree.canonical_eq_ok_iff.1 (told path rfl)
        exact ⟨place, node, at_, same, short⟩
  cases asked : (states k).root? with
  | none =>
      have rootFile : file = b.annotator.root := by
        rcases allowed with ⟨-, same, -⟩ | ⟨some_, -⟩
        · exact same
        · rw [asked] at some_
          cases some_
      simp only [Conduct.hear, asked]
      refine { informed with root := fun path same directory at_ => ?_ }
      obtain ⟨place, node, now, rfl, short⟩ := known same
      rw [rootFile] at now
      cases now.symm.trans (shared.node_eq project at_)
      exact ⟨rfl, short⟩
  | some root' =>
      have holder : (states k).holder? b.path = some file := by
        rcases allowed with ⟨none_, -⟩ | ⟨-, same⟩
        · rw [asked] at none_
          cases none_
        · exact same
      simp only [Conduct.hear, asked]
      rw [← asked]
      refine ⟨informed.current, informed.root, fun path same => ?_⟩
      obtain ⟨place, node, now, rfl, short⟩ := known same
      have stays := shared.stays k b found
      unfold Conduct.holder? at holder
      dsimp only
      generalize (states k).stage = stage at holder stays ⊢
      cases stage with
      | saved =>
          cases holder
          intro place' node' at_
          cases now.symm.trans (shared.node_eq project at_)
          exact ⟨rfl, short⟩
      | filled copy =>
          cases holder
          obtain ⟨place', live, executable, there⟩ := stays
          have copied := FileTree.node_eq_ok_iff.2 (live.locate shared.alike there true)
          cases now.symm.trans copied
          intro other free
          cases free.unique live.free
          exact ⟨rfl, short⟩
      | _ => cases holder

end Shared

theorem mem_args_commandFor (a : Annotator) (target : String) :
    Text.Stray.keepText target ∈ (a.commandFor target).args := by
  have member (command : CommandLine) (args : List String) (inside : target ∈ args) :
      Text.Stray.keepText target ∈ (command.withArgs args).args :=
    List.mem_append_right _ (List.mem_map_of_mem inside)
  exact member _ _ (by simp [LintSettings.configuration])

theorem directory?_commandFor (a : Annotator) (target : String) :
    (a.commandFor target).directory? = some a.root := by
  unfold Annotator.commandFor LintConfiguration.lintCommand LintConfiguration.command
    CommandLine.forScript
  split <;> rfl

/-- A linter that is started finds the text of its job in the file that it is started on. -/
def Hits (host : FileHost σ) (s : σ) (buffers : List Buffer) (e : Event σ) : Prop :=
  ∀ command budget, e.passage.request = .launch command budget →
    ∃ b target, buffers[e.place]? = some b ∧ command = b.annotator.commandFor target ∧
      Text.Stray.keepText target ∈ command.args ∧ ∀ root directory, command.directory? = some root →
        (host.tree e.passage.before).node (host.current s) root = .ok (directory, .directory) →
          b.Opens (host.tree e.passage.before) (host.current s) directory target

theorem Informed.home_eq {start : Location} (told : Informed tree start b c) {directory : Path}
    (beside : c.Beside b.annotator b.path directory) :
    directory = Copy.home start b.annotator.root b.path := by
  rcases beside with ⟨absolute, rfl⟩ | ⟨relative, path, known, rfl⟩
  · rw [Copy.home, if_pos absolute]
  · rw [Copy.home, if_neg (by simp [relative]), told.current path known]

theorem Shared.hits (shared : Shared host s buffers states past e.passage.before)
    (project : IsProject (host.tree s) (host.current s) buffers)
    (found : buffers[e.place]? = some b)
    (allowed : (states e.place).Allows b.annotator b.path b.content e.passage.request) :
    Hits host s buffers e := by
  intro command budget same
  rw [same] at allowed
  obtain ⟨-, target, rfl, aims⟩ := allowed
  refine ⟨b, target, found, rfl, mem_args_commandFor _ _, fun root directory there at_ => ?_⟩
  rw [directory?_commandFor] at there
  cases there
  exact shared.opens project found aims at_

theorem Shared.step (shared : Shared host s buffers states past s')
    (project : IsProject (host.tree s) (host.current s) buffers) (found : buffers[k]? = some b)
    {r : Request} {reply : r.Reply} (allowed : (states k).Allows b.annotator b.path b.content r)
    (new : ∀ copy ∈ r.made? reply, ∀ other ∈ buffers,
      (host.tree s).locate true (host.current s) other.path
        ≠ (host.tree s).locate false (host.current s) copy)
    (current : host.current left = host.current s')
    (answers : (host.tree s').Answers (host.current s) r reply (host.tree left))
    (idle : r.startsProcess = true → host.tree left = host.tree s') :
    OnlyOwn host s past ⟨k, s', r, reply, left⟩ ∧
      Shared host s buffers (Function.update states k ((states k).hear b.content r reply))
        (past ++ [⟨k, s', r, reply, left⟩]) left := by
  have informed := shared.told k b found
  have stays := shared.stays k b found
  cases r with
  | log entry =>
      exact ⟨onlyOwn_of_same answers, shared.quiet found current answers rfl informed rfl stays⟩
  | kind file =>
      exact ⟨onlyOwn_of_same answers, shared.quiet found current answers rfl informed rfl stays⟩
  | clock =>
      exact ⟨onlyOwn_of_same answers, shared.quiet found current answers rfl informed rfl stays⟩
  | launch command budget =>
      have same := idle rfl
      exact ⟨onlyOwn_of_same same, shared.quiet found current same rfl informed rfl stays⟩
  | currentDirectory =>
      obtain ⟨same, told⟩ := answers
      refine ⟨onlyOwn_of_same same, shared.quiet found current same rfl
        ⟨fun path known => ?_, informed.root, informed.file⟩ rfl stays⟩
      cases reply with
      | error e => cases known
      | ok path' =>
          cases known
          exact told path rfl
  | canonical file =>
      obtain ⟨same, told⟩ := answers
      have stage :
          ((states k).hear b.content (.canonical file) reply).stage = (states k).stage := by
        cases root : (states k).root? <;> simp only [Conduct.hear, root]
      refine ⟨onlyOwn_of_same same, shared.quiet found current same rfl
        (shared.informed_canonical project found allowed told) (by rw [stage]) ?_⟩
      rw [stage]
      exact stays
  | read file =>
      obtain ⟨unread, rfl⟩ := allowed
      obtain ⟨same, told⟩ := answers
      refine ⟨onlyOwn_of_same same, shared.quiet found current same rfl
        (informed.early (.inl unread) _) ?_ ?_⟩
      · rw [unread]
        cases reply with
        | error e => rfl
        | ok bytes =>
            simp only [Conduct.hear, Stage.ofRead]
            split <;> rfl
      · cases reply with
        | error e => trivial
        | ok bytes =>
            simp only [Conduct.hear, Stage.ofRead]
            split
            next text =>
              rw [text] at told
              exact shared.read_eq project (List.mem_of_getElem? found) told.symm
            next => trivial
  | createCopy directory before after =>
      obtain ⟨unsaved, coffee, beside, rfl, rfl⟩ := allowed
      cases reply with
      | error refused =>
          exact ⟨onlyOwn_of_same answers,
            shared.quiet found current answers rfl informed rfl stays⟩
      | ok copy =>
          obtain ⟨⟨letters, some_, clean, same⟩, made⟩ := answers
          rw [informed.home_eq beside] at same
          exact shared.created found unsaved coffee ⟨letters, some_, clean, same⟩
            (new copy rfl) current made
  | write file bytes =>
      obtain ⟨created, rfl⟩ := allowed
      exact shared.written found created current answers
  | remove file =>
      have held : (states k).stage.copy? = some file := by
        rcases allowed with stage | stage <;> rw [stage] <;> rfl
      exact shared.removed found held current answers

/-- Copies get new names: no document is where one of them is made.  A document that is
missing could otherwise be saved, as far as its job can see, by another job's copy. -/
def NewNames (host : FileHost σ) (s : σ) (buffers : List Buffer) (events : List (Event σ)) : Prop :=
  ∀ e ∈ events, ∀ copy ∈ e.passage.request.made? e.passage.reply, ∀ b ∈ buffers,
    (host.tree s).locate true (host.current s) b.path
      ≠ (host.tree s).locate false (host.current s) copy

instance (host : FileHost σ) (s : σ) (buffers : List Buffer) (events : List (Event σ)) :
    Decidable (NewNames host s buffers events) :=
  inferInstanceAs (Decidable (∀ e ∈ events, ∀ copy ∈ e.passage.request.made? e.passage.reply,
    ∀ b ∈ buffers, (host.tree s).locate true (host.current s) b.path
      ≠ (host.tree s).locate false (host.current s) copy))

theorem shared_initial :
    Shared host s buffers (fun _ => .initial) [] s where
  current := rfl
  kept _ := .inl rfl
  told _ _ _ := ⟨nofun, nofun, nofun⟩
  stays _ _ _ := trivial

/-- An event between those of other jobs. -/
structure Undisturbed (host : FileHost σ) (s : σ) (buffers : List Buffer) (past : List (Event σ))
    (e : Event σ) : Prop where
  hits : Hits host s buffers e
  onlyOwn : OnlyOwn host s past e

/-- The protocols of the jobs.  Where there is no job nothing is allowed. -/
def protocols (buffers : List Buffer) (place : Nat) : Protocol Conduct :=
  match buffers[place]? with
  | some b => b.annotator.conduct b.path b.content
  | none => ⟨fun _ _ => False, fun c _ _ => c⟩

end

namespace Buffer

variable {σ : Type}

/-- Each linter reads the text of its own buffer.  Where any number of documents are
annotated side by side, in whatever order their requests come, and nothing else changes
the files, a linter that is started finds its text in the file that it is started on, and
no job changes what another one made or what was there before. -/
theorem linted_side_by_side (host : FileHost σ) (s : σ) (buffers : List Buffer)
    (schedule : List Nat) (project : IsProject (host.tree s) (host.current s) buffers)
    (idle : ∀ command budget s',
      host.tree (host.serve (.launch command budget) s').2 = host.tree s')
    (new : NewNames host s buffers
      (Job.events host.serve (buffers.map Buffer.job) schedule s)) :
    ∀ before event after,
      Job.events host.serve (buffers.map Buffer.job) schedule s = before ++ event :: after →
        Undisturbed host s buffers before event := by
  intro before event after split
  have step : ∀ (states : Nat → Conduct) (past : List (Event σ)) (s' : σ) (place : Nat)
      (r : Request), Shared host s buffers states past s' →
      (protocols buffers place).allows (states place) r →
      ⟨place, Job.pass host.serve s' r⟩ ∈
        Job.events host.serve (buffers.map Buffer.job) schedule s →
        Undisturbed host s buffers past ⟨place, Job.pass host.serve s' r⟩ ∧
          Shared host s buffers (Function.update states place
              ((protocols buffers place).after (states place) r (host.serve r s').1))
            (past ++ [⟨place, Job.pass host.serve s' r⟩]) (host.serve r s').2 := by
    intro states past s' place r shared allowed inside
    cases found : buffers[place]? with
    | none => simp [protocols, found] at allowed
    | some b =>
        have protocol : protocols buffers place = b.annotator.conduct b.path b.content := by
          simp [protocols, found]
        rw [protocol] at allowed ⊢
        have quiet : r.startsProcess = true → host.tree (host.serve r s').2 = host.tree s' := by
          intro starts
          cases r with
          | launch command budget => exact idle command budget s'
          | _ => cases starts
        have answers := host.answers r s'
        rw [shared.current] at answers
        have kept := shared.step project found allowed (new _ inside) (host.stays r s') answers
          quiet
        exact ⟨⟨Shared.hits shared project found allowed, kept.1⟩, kept.2⟩
  have keeps : ∀ (place : Nat) (job : Job LintOutcome),
      (buffers.map Buffer.job)[place]? = some job →
      job.Keeps (protocols buffers place) (fun c _ => c.stage.copy? = none) .initial := by
    intro place job at_
    rw [List.getElem?_map] at at_
    obtain ⟨b, found, rfl⟩ := Option.map_eq_some_iff.1 at_
    have protocol : protocols buffers place = b.annotator.conduct b.path b.content := by
      simp [protocols, found]
    rw [protocol]
    exact b.annotator.annotate_keeps b.path b.content
  exact Job.events_keep step keeps shared_initial (fun e member => member) split

/-- A project with a link to it, a document, and a linter that is only a name. -/
def linkedMachine : Machine :=
  { tree := ⟨[(["p"], .directory), (["l"], .link ⟨["p"]⟩), (["p", "lint"], .file [] true),
      (["p", "a.coffee"], .file [120] false)]⟩
    current := [], clock := 0, copies := 0, entries := [] }

/-- A linter that only looks at the files. -/
def idleLinter : Machine.Launcher := fun tree _ _ _ =>
  .ok (⟨[⟨.ok (some (.code 0)), false, .closed⟩, ⟨.ok none, false, .nothing⟩], []⟩, tree)

/-- Two texts of one document, linted from the project and from the link to it. -/
def rivalBuffers : List Buffer :=
  [⟨.new (.ofText "l") ⟨true, "lint", "", "", "", false⟩, .ofText "p/a.coffee", "y"⟩,
    ⟨.new (.ofText "p") ⟨true, "lint", "", "", "", false⟩, .ofText "p/a.coffee", "z"⟩]

theorem rivals_undisturbed :
    let host := Machine.host idleLinter
    let schedule := (List.range 26).map (· % 2)
    let events := Job.events host.serve (rivalBuffers.map Buffer.job) schedule linkedMachine
    IsProject (host.tree linkedMachine) (host.current linkedMachine) rivalBuffers ∧
      (∀ command budget m, host.tree (host.serve (.launch command budget) m).2 = host.tree m) ∧
      NewNames host linkedMachine rivalBuffers events ∧
      (events.filter (·.passage.request.startsProcess)).length = 2 ∧
      ∀ before event after, events = before ++ event :: after →
        Undisturbed host linkedMachine rivalBuffers before event := by
  intro host schedule events
  have project : IsProject (host.tree linkedMachine) (host.current linkedMachine) rivalBuffers := by
    decide +kernel
  have idle : ∀ command budget m,
      host.tree (host.serve (.launch command budget) m).2 = host.tree m := fun _ _ _ => rfl
  have new : NewNames host linkedMachine rivalBuffers events := by decide +kernel
  exact ⟨project, idle, new, by decide +kernel,
    linted_side_by_side host linkedMachine rivalBuffers schedule project idle new⟩

end Buffer

end LintBridge
