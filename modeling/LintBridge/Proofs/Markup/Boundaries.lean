import LintBridge.Proofs.Markup.Elements
import LintBridge.Proofs.Text.Basic

/-!
# Where the events of a text end

Every event is completed by a bracket, at one byte of the text.  What a beginning of the text
completes, the whole text completes at the same bytes, and whatever else the whole text
completes lies behind.  So the byte at which the outermost element ends is the same for every
beginning that holds it.
-/

set_option autoImplicit false

namespace LintBridge.Markup

open Text

namespace Reader

/-- The events of the characters to come, each with the byte behind its last character. -/
def placed (r : Reader) (byte : Nat) : List Char → List (Event × Nat)
  | [] => []
  | c :: rest =>
      match r.step c with
      | .error _ => []
      | .ok (event?, next) =>
          (event?.map (·, byte + c.utf8Size)).toList ++ next.placed (byte + c.utf8Size) rest

variable {r next : Reader} {c : Char}

theorem placed_of_error {misread : Misread} (refused : r.step c = .error misread) (byte : Nat)
    (rest : List Char) : r.placed byte (c :: rest) = [] := by
  rw [placed, refused]

theorem placed_of_ok {event? : Option Event} (stepped : r.step c = .ok (event?, next))
    (byte : Nat) (rest : List Char) :
    r.placed byte (c :: rest)
      = (event?.map (·, byte + c.utf8Size)).toList ++ next.placed (byte + c.utf8Size) rest := by
  rw [placed, stepped]

theorem run_events (r : Reader) (byte : Nat) (done : List Event) (text : List Char) :
    (r.run done text).1 = done.reverse ++ (r.placed byte text).map Prod.fst := by
  induction text generalizing r byte done with
  | nil => simp [run, placed]
  | cons c rest ih =>
      rw [run]
      cases stepped : r.step c with
      | error misread => simp [placed_of_error stepped]
      | ok result =>
          obtain ⟨event?, next⟩ := result
          have later := ih next (byte + c.utf8Size) (event?.toList ++ done)
          rw [placed_of_ok stepped]
          cases event? with
          | none => simpa using later
          | some event => simpa using later

theorem eq_bracket_of_tagMode {quote : Option Char} {reversed : List Char}
    (ended : tagMode quote reversed c = none) : c = '>' := by
  unfold tagMode at ended
  split at ended
  · cases ended
  · split at ended
    · assumption
    · cases ended

theorem eq_bracket_of_and {enough : Bool} (closed : (decide (c = '>') && enough) = true) :
    c = '>' :=
  of_decide_eq_true (Bool.and_eq_true_iff.mp closed).1

/-- Only a bracket completes an event, and the reader stands between tags behind it. -/
theorem completed_of_step {event : Event} (stepped : r.step c = .ok (some event, next)) :
    c = '>' ∧ next.mode = .text := by
  unfold step at stepped
  -- A step that moves on completes nothing; comments, data, doctypes, instructions and the
  -- two kinds of tags are left.
  split at stepped <;> (try dsimp only at stepped) <;> repeat' split at stepped
  all_goals cases stepped
  · exact ⟨eq_bracket_of_tagMode (by assumption), rfl⟩
  · exact ⟨eq_bracket_of_and (by assumption), rfl⟩
  · exact ⟨eq_bracket_of_and (by assumption), rfl⟩
  · exact ⟨by assumption, rfl⟩
  · exact ⟨eq_bracket_of_and (by assumption), rfl⟩
  · exact ⟨eq_bracket_of_tagMode (by assumption), rfl⟩

theorem exists_bracket {byte : Nat} {text : List Char} {p : Event × Nat}
    (member : p ∈ r.placed byte text) :
    ∃ front back, text = front ++ '>' :: back ∧ byte + length8 front + 1 = p.2 := by
  induction text generalizing r byte with
  | nil => cases member
  | cons c rest ih =>
      cases stepped : r.step c with
      | error misread =>
          rw [placed_of_error stepped] at member
          cases member
      | ok result =>
          obtain ⟨event?, next⟩ := result
          rw [placed_of_ok stepped, List.mem_append] at member
          rcases member with here | behind
          · cases event? with
            | none => cases here
            | some event =>
                obtain rfl := List.mem_singleton.mp here
                obtain ⟨rfl, -⟩ := completed_of_step stepped
                exact ⟨[], rest, rfl, rfl⟩
          · obtain ⟨front, back, rfl, place⟩ := ih behind
            refine ⟨c :: front, back, rfl, ?_⟩
            rw [length8_cons]
            omega

theorem placed_ordered (r : Reader) (byte : Nat) (text : List Char) :
    (r.placed byte text).Pairwise fun p q => p.2 < q.2 := by
  induction text generalizing r byte with
  | nil => exact .nil
  | cons c rest ih =>
      cases stepped : r.step c with
      | error misread =>
          rw [placed_of_error stepped]
          exact .nil
      | ok result =>
          obtain ⟨event?, next⟩ := result
          rw [placed_of_ok stepped]
          cases event? with
          | none => exact ih next (byte + c.utf8Size)
          | some event =>
              refine List.pairwise_cons.mpr ⟨?_, ih next (byte + c.utf8Size)⟩
              intro q behind
              obtain ⟨front, back, -, place⟩ := exists_bracket behind
              dsimp only
              omega

/-- What is completed in a beginning of a text, and what is completed behind it. -/
theorem exists_placed_append (r : Reader) (byte : Nat) (front back : List Char) :
    ∃ later, r.placed byte (front ++ back) = r.placed byte front ++ later
      ∧ (∀ p ∈ r.placed byte front, p.2 ≤ byte + length8 front)
      ∧ ∀ p ∈ later, byte + length8 front < p.2 := by
  induction front generalizing r byte with
  | nil =>
      refine ⟨r.placed byte back, rfl, by simp [placed], ?_⟩
      intro p member
      obtain ⟨front, rest, -, place⟩ := exists_bracket member
      rw [length8_nil]
      omega
  | cons c front ih =>
      cases stepped : r.step c with
      | error misread =>
          refine ⟨[], ?_, ?_, by simp⟩
          · rw [List.cons_append, placed_of_error stepped, placed_of_error stepped]
            rfl
          · rw [placed_of_error stepped]
            simp
      | ok result =>
          obtain ⟨event?, next⟩ := result
          obtain ⟨later, same, within, beyond⟩ := ih next (byte + c.utf8Size)
          refine ⟨later, ?_, ?_, ?_⟩
          · rw [List.cons_append, placed_of_ok stepped, placed_of_ok stepped, same,
              List.append_assoc]
          · intro p member
            rw [length8_cons]
            rw [placed_of_ok stepped, List.mem_append] at member
            rcases member with here | behind
            · cases event? with
              | none => cases here
              | some event =>
                  obtain rfl := List.mem_singleton.mp here
                  show byte + c.utf8Size ≤ _
                  omega
            · have inside := within p behind
              omega
          · intro p member
            have outside := beyond p member
            rw [length8_cons]
            omega

theorem run_complete {byte : Nat} {text : List Char} {p : Event × Nat}
    (member : p ∈ r.placed byte text) (last : p.2 = byte + length8 text) (done : List Event) :
    (r.run done text).2 = none := by
  induction text generalizing r byte done with
  | nil => cases member
  | cons c rest ih =>
      rw [run]
      cases stepped : r.step c with
      | error misread =>
          rw [placed_of_error stepped] at member
          cases member
      | ok result =>
          obtain ⟨event?, next⟩ := result
          rw [length8_cons] at last
          rw [placed_of_ok stepped, List.mem_append] at member
          rcases member with here | behind
          · cases event? with
            | none => cases here
            | some event =>
                obtain rfl := List.mem_singleton.mp here
                cases rest with
                | nil =>
                    obtain ⟨-, between⟩ := completed_of_step stepped
                    simp only [run, between]
                    rfl
                | cons d rest =>
                    have positive := d.utf8Size_pos
                    rw [length8_cons] at last
                    dsimp only at last
                    omega
          · exact ih behind (by omega) _

end Reader

/-! ## The outermost element -/

/-- The byte behind the tag that ends the outermost element, where so many elements are open
in front of the events. -/
def elementEnd? : Nat → List (Event × Nat) → Option Nat
  | _, [] => none
  | n, (.aside, _) :: rest => elementEnd? n rest
  | n, (.opening _, _) :: rest => elementEnd? (n + 1) rest
  | 0, (.empty _, stop) :: _ => some stop
  | n + 1, (.empty _, _) :: rest => elementEnd? (n + 1) rest
  | 0, (.closing, _) :: _ => none
  | 1, (.closing, stop) :: _ => some stop
  | n + 2, (.closing, _) :: rest => elementEnd? (n + 1) rest

/-- The events of a text, each with the byte behind its last character. -/
def placed (text : List Char) : List (Event × Nat) :=
  match text with
  | '\uFEFF' :: rest => Reader.initial.placed '\uFEFF'.utf8Size rest
  | _ => Reader.initial.placed 0 text

/-- The byte behind the tag that ends the first element of a text that has no other around
it. -/
def rootEnd? (text : List Char) : Option Nat :=
  elementEnd? 0 (placed text)

theorem elementEnd?_append {n stop : Nat} {first : List (Event × Nat)}
    (found : elementEnd? n first = some stop) (later : List (Event × Nat)) :
    elementEnd? n (first ++ later) = some stop := by
  induction first generalizing n with
  | nil => cases found
  | cons p rest ih =>
      obtain ⟨event, byte⟩ := p
      cases event with
      | aside => exact ih found
      | opening tag => exact ih found
      | empty tag =>
          cases n with
          | zero => exact found
          | succ n => exact ih found
      | closing =>
          match n with
          | 0 => cases found
          | 1 => exact found
          | n + 2 => exact ih found

/-- Where an element ends, the events up to its end leave none open. -/
theorem exists_of_elementEnd? {n stop : Nat} {given : List (Event × Nat)}
    (found : elementEnd? n given = some stop) :
    ∃ front event back, given = front ++ (event, stop) :: back ∧ event ≠ .aside
      ∧ openAfter n ((front ++ [(event, stop)]).map Prod.fst) = some 0 := by
  induction given generalizing n with
  | nil => cases found
  | cons p rest ih =>
      obtain ⟨event, byte⟩ := p
      have goesOn : ∀ m, elementEnd? m rest = some stop → openAfter n [event] = some m →
          ∃ front event' back, (event, byte) :: rest = front ++ (event', stop) :: back
            ∧ event' ≠ .aside
            ∧ openAfter n ((front ++ [(event', stop)]).map Prod.fst) = some 0 := by
        intro m later opened
        obtain ⟨front, event', back, rfl, solid, closed⟩ := ih later
        refine ⟨(event, byte) :: front, event', back, rfl, solid, ?_⟩
        rw [List.cons_append, List.map_cons, ← List.singleton_append, openAfter_append, opened]
        exact closed
      cases event with
      | aside => exact goesOn n found rfl
      | opening tag => exact goesOn (n + 1) found rfl
      | empty tag =>
          cases n with
          | zero =>
              cases found
              exact ⟨[], _, rest, rfl, nofun, rfl⟩
          | succ n => exact goesOn (n + 1) found rfl
      | closing =>
          cases n with
          | zero => cases found
          | succ n =>
              cases n with
              | zero =>
                  cases found
                  exact ⟨[], _, rest, rfl, nofun, rfl⟩
              | succ n => exact goesOn (n + 1) found rfl

theorem exists_elementEnd? {n : Nat} {given : List (Event × Nat)}
    (closed : openAfter n (given.map Prod.fst) = some 0)
    (solid : n ≠ 0 ∨ ∃ p ∈ given, p.1 ≠ .aside) : ∃ stop, elementEnd? n given = some stop := by
  induction given generalizing n with
  | nil =>
      cases Option.some.inj closed
      rcases solid with inside | ⟨p, member, -⟩
      · exact absurd rfl inside
      · cases member
  | cons p rest ih =>
      obtain ⟨event, byte⟩ := p
      cases event with
      | aside =>
          refine ih closed (solid.imp_right ?_)
          rintro ⟨p, member, notAside⟩
          rcases List.mem_cons.mp member with rfl | behind
          · exact absurd rfl notAside
          · exact ⟨p, behind, notAside⟩
      | opening tag => exact ih (n := n + 1) closed (.inl (Nat.succ_ne_zero n))
      | empty tag =>
          cases n with
          | zero => exact ⟨byte, rfl⟩
          | succ n => exact ih closed (.inl (Nat.succ_ne_zero n))
      | closing =>
          match n with
          | 0 => cases closed
          | 1 => exact ⟨byte, rfl⟩
          | n + 2 => exact ih (n := n + 1) closed (.inl (Nat.succ_ne_zero n))

theorem Spelled.ne_nil_iff {elements : List Element} {events : List Event}
    (spelled : Spelled elements events) : elements ≠ [] ↔ ∃ event ∈ events, event ≠ .aside := by
  induction spelled with
  | nil => simp
  | aside _ ih => simp [ih]
  | empty tag _ _ => simp
  | pair tag _ _ _ _ => simp

/-! ## Texts -/

theorem placed_unmarked {text : List Char} (unmarked : text.head? ≠ some '\uFEFF') :
    placed text = Reader.initial.placed 0 text := by
  unfold placed
  split
  · exact absurd rfl unmarked
  · rfl

theorem read_unmarked {text : List Char} (unmarked : text.head? ≠ some '\uFEFF') :
    read text = Reader.initial.run [] text := by
  unfold read
  split
  · exact absurd rfl unmarked
  · rfl

theorem read_events (text : List Char) : (read text).1 = (placed text).map Prod.fst := by
  by_cases marked : text.head? = some '\uFEFF'
  · obtain ⟨rest, rfl⟩ := List.head?_eq_some_iff.mp marked
    exact Reader.run_events Reader.initial _ [] rest
  · rw [read_unmarked marked, placed_unmarked marked]
    exact Reader.run_events Reader.initial 0 [] text

theorem exists_bracket {text : List Char} {p : Event × Nat} (member : p ∈ placed text) :
    ∃ front back, text = front ++ '>' :: back ∧ length8 front + 1 = p.2 := by
  by_cases marked : text.head? = some '\uFEFF'
  · obtain ⟨rest, rfl⟩ := List.head?_eq_some_iff.mp marked
    obtain ⟨front, back, rfl, place⟩ := Reader.exists_bracket (r := Reader.initial) member
    exact ⟨'\uFEFF' :: front, back, rfl, place⟩
  · rw [placed_unmarked marked] at member
    obtain ⟨front, back, rfl, place⟩ := Reader.exists_bracket member
    rw [Nat.zero_add] at place
    exact ⟨front, back, rfl, place⟩

theorem read_complete {text : List Char} {p : Event × Nat} (member : p ∈ placed text)
    (last : p.2 = length8 text) : (read text).2 = none := by
  by_cases marked : text.head? = some '\uFEFF'
  · obtain ⟨rest, rfl⟩ := List.head?_eq_some_iff.mp marked
    exact Reader.run_complete (r := Reader.initial) member last []
  · rw [placed_unmarked marked] at member
    rw [read_unmarked marked]
    exact Reader.run_complete member (by rw [Nat.zero_add, last]) []

theorem placed_ordered (text : List Char) : (placed text).Pairwise fun p q => p.2 < q.2 := by
  unfold placed
  split
  · exact Reader.initial.placed_ordered _ _
  · exact Reader.initial.placed_ordered 0 text

theorem exists_placed_append (front back : List Char) :
    ∃ later, placed (front ++ back) = placed front ++ later
      ∧ (∀ p ∈ placed front, p.2 ≤ length8 front)
      ∧ ∀ p ∈ later, length8 front < p.2 := by
  cases front with
  | nil =>
      refine ⟨placed back, rfl, by simp [placed, Reader.placed], ?_⟩
      intro p member
      obtain ⟨_, _, _, place⟩ := exists_bracket member
      rw [length8_nil]
      omega
  | cons c front =>
      by_cases marked : c = '\uFEFF'
      · subst c
        obtain ⟨later, same, within, beyond⟩ :=
          Reader.initial.exists_placed_append '\uFEFF'.utf8Size front back
        exact ⟨later, same, within, beyond⟩
      · have unmarked : ∀ rest : List Char, (c :: rest).head? ≠ some '\uFEFF' := by
          intro rest same
          exact marked (Option.some.inj same)
        obtain ⟨later, same, within, beyond⟩ :=
          Reader.initial.exists_placed_append 0 (c :: front) back
        rw [Nat.zero_add] at within beyond
        rw [List.cons_append, placed_unmarked (unmarked _), placed_unmarked (unmarked _)]
        exact ⟨later, same, within, beyond⟩

/-- The events that a beginning of a text completes are told by their bytes. -/
theorem placed_eq_filter (front back : List Char) :
    placed front = (placed (front ++ back)).filter (·.2 ≤ length8 front) := by
  obtain ⟨later, same, within, beyond⟩ := exists_placed_append front back
  have kept : (placed front).filter (·.2 ≤ length8 front) = placed front := by
    refine List.filter_eq_self.mpr fun p member => ?_
    exact decide_eq_true (within p member)
  have dropped : later.filter (·.2 ≤ length8 front) = [] := by
    refine List.filter_eq_nil_iff.mpr fun p member => ?_
    have behind := beyond p member
    simpa using behind
  rw [same, List.filter_append, kept, dropped, List.append_nil]

end LintBridge.Markup
