import LintBridge.Bench.Launch
import LintBridge.Proofs.Process.Watching

/-!
# Processes of the bench

The scripts that the tests start show nothing but what some process may show.
-/

set_option autoImplicit false

namespace LintBridge

namespace Flow

/-- A process that has ended, and whose readers have sent nothing yet of these chunks. -/
def unheard (chunks : List Chunk) : Flow :=
  ⟨true, fun stream => piecesOf stream chunks, fun _ => [], fun _ => false⟩

theorem update_piecesOf (c : Chunk) (rest : List Chunk) :
    Function.update (fun stream => piecesOf stream (c :: rest)) c.stream (piecesOf c.stream rest)
      = fun stream => piecesOf stream rest := by
  funext other
  by_cases same : other = c.stream
  · subst same
    simp
  · have differs : c.stream ≠ other := fun back => same back.symm
    simp [piecesOf, Function.update_of_ne same, differs]

theorem unheard_cons (c : Chunk) (rest : List Chunk) :
    ∃ between, (unheard (c :: rest)).Next between ∧ between.Hears (.chunk c) (unheard rest) := by
  have there : (unheard (c :: rest)).unread c.stream = c.bytes :: piecesOf c.stream rest := by
    simp [unheard, piecesOf]
  let between : Flow :=
    { unheard rest with sent := Function.update (fun _ => []) c.stream [c.bytes] }
  have sends : (unheard (c :: rest)).Next between := by
    simpa [between, unheard, update_piecesOf] using Next.sends _ c.stream there
  have first : between.sent c.stream = [c.bytes] := by simp [between]
  have heard : between.Hears (.chunk c) (unheard rest) := by
    simpa [between, unheard] using Hears.chunk between first
  exact ⟨between, sends, heard⟩

/-- Looks that each show a chunk may come before other looks. -/
theorem shows_unheard {exit : Exit} {glances : List Glance} {queued : List Chunk}
    (reads : List (Option Exit × Chunk)) (seen : ∀ read ∈ reads, ∀ e ∈ read.1, e = exit)
    (onward : (unheard []).Shows exit glances queued) :
    (unheard (reads.map (·.2))).Shows exit
      (reads.map (fun read => ⟨.ok read.1, false, .chunk read.2⟩) ++ glances) queued := by
  induction reads with
  | nil => exact onward
  | cons read reads ih =>
      obtain ⟨between, sends, heard⟩ := unheard_cons read.2 (reads.map (·.2))
      have first : ∀ e ∈ read.1, True ∧ e = exit := fun e known =>
        ⟨trivial, seen read List.mem_cons_self e known⟩
      exact .looks (by simpa [unheard] using first) (.single sends) heard
        (ih fun other member => seen other (List.mem_cons_of_mem _ member))

theorem shows_closed {exit : Exit} {exit? : Option Exit} (seen : ∀ e ∈ exit?, e = exit) :
    (unheard []).Shows exit [⟨.ok exit?, false, .closed⟩, ⟨.ok exit?, false, .nothing⟩] [] := by
  have known : ∀ e ∈ exit?, True ∧ e = exit := fun e there => ⟨trivial, seen e there⟩
  refine .goesOn (.closes _ .out rfl) (.goesOn (.closes _ .err rfl) ?_)
  refine .looks (by simpa [unheard] using known) .refl (.closed _ (fun _ => rfl) ?_) ?_
  · rintro (_ | _) <;> rfl
  · exact .looks (by simpa [unheard] using known) .refl (.nothing _) (.ends _)

end Flow

theorem Writer.shows_shell (s : Shell.State) : ∃ p : Writer, p.Shows s.observation := by
  let sent := s.sent.reverse.filter fun x => x.time < s.limit
  let exitAt (time : Nat) : Option Exit := if s.time ≤ time then s.exit? else none
  let reads := (timesOf sent).flatMap fun time =>
    (readsAt time sent).map fun chunk => (exitAt time, chunk)
  let exit := s.exit?.getD .signal
  have ended : ∀ e ∈ s.exit?, e = exit := by
    intro e known
    simp [exit, Option.mem_def.mp known]
  have endedAt (time : Nat) : ∀ e ∈ exitAt time, e = exit := by
    intro e known
    by_cases reached : s.time ≤ time
    · exact ended e (by simpa [exitAt, reached] using known)
    · simp [exitAt, reached] at known
  have seen : ∀ read ∈ reads, ∀ e ∈ read.1, e = exit := by
    intro read member
    obtain ⟨time, -, member⟩ := List.mem_flatMap.mp member
    obtain ⟨chunk, -, rfl⟩ := List.mem_map.mp member
    exact endedAt time
  have same : reads.map (fun read => (⟨.ok read.1, false, .chunk read.2⟩ : Glance))
      = (timesOf sent).flatMap fun time =>
        (readsAt time sent).map fun chunk => ⟨.ok (exitAt time), false, .chunk chunk⟩ := by
    simp [reads, List.map_flatMap, Function.comp_def]
  refine ⟨⟨exit, fun stream => piecesOf stream (reads.map (·.2))⟩, .goesOn (.exits _) ?_⟩
  simp only [Shell.State.observation]
  split
  · have last : (Flow.unheard []).Shows exit [⟨.ok (exitAt s.held), true, .nothing⟩] [] :=
      .givesUp (fun e known => ⟨rfl, endedAt s.held e known⟩) (.ends _)
    have shows := Flow.shows_unheard reads seen last
    rwa [same] at shows
  · have shows := Flow.shows_unheard reads seen (Flow.shows_closed ended)
    rwa [same] at shows

/-- What is seen of a process that the bench starts is what some process may show. -/
theorem Writer.shows_launched {tree last : FileTree} {current : Location}
    {command : CommandLine} {budget : Nat} {o : Observation}
    (launched : tree.launch current command budget = .ok (o, last)) :
    ∃ p : Writer, p.Shows o := by
  simp only [FileTree.launch] at launched
  split at launched
  · cases launched
  split at launched
  · cases launched
  · split at launched
    · cases launched
    · split at launched
      · cases launched
        exact ⟨⟨.signal, fun _ => []⟩, .givesUp nofun (.ends _)⟩
      · cases launched
        exact Writer.shows_shell _
  · cases launched

end LintBridge
