import Mathlib.Data.List.Basic
import LintBridge.Notice

/-!
# Notices that many ask for

Callers share one notifier and take their atomic steps in any order, each with whatever the
clock shows it.  A caller that was held up goes on with an old reading.  Whatever the order,
the readings of the calls that win are the whole milliseconds of an interval apart, and a call
is refused only for one that has won.

The invariant ties what a caller has loaded to the calls that have won: a last notice that
somebody has seen is the reading of one of them, and the one that is kept is the reading of
the latest.  So a replacement that goes through was judged by the latest reading, even if the
caller saw it a long time ago.
-/

set_option autoImplicit false

namespace LintBridge.Notifier

/-- What a caller wants: to show a notice, or to know whether one may be shown. -/
inductive Call where
  | acquire
  | ask
  deriving DecidableEq, Repr

inductive Caller where
  | attempt (stage : Attempt)
  | question (stage : Question)
  deriving DecidableEq, Repr

/-- Whose turn it is, what the clock shows, and whether a replacement fails for no reason. -/
structure Tick where
  place : Nat
  clock : UInt64
  spurious : Bool
  deriving DecidableEq, Repr

/-- The answer of the call at a place, which has read the clock at `now`. -/
structure Verdict where
  place : Nat
  call : Call
  now : UInt64
  granted : Bool
  deriving DecidableEq, Repr

/-- The reading of a call that wins. -/
def Verdict.won? (v : Verdict) : Option UInt64 :=
  if v.call = .acquire ∧ v.granted = true then some v.now else none

/-- The readings of the calls that won, in order. -/
def wins (journal : List Verdict) : List UInt64 :=
  journal.filterMap Verdict.won?

/-- The reading of a notice, unless there is none. -/
def notice? (last : UInt64) : Option UInt64 :=
  if last = never then none else some last

def last? (n : Notifier) : Option UInt64 :=
  notice? n.last

namespace Caller

def start : Call → Caller
  | .acquire => .attempt .begun
  | .ask => .question .begun

def advance (n : Notifier) (tick : Tick) : Caller → Notifier × Caller
  | .attempt stage =>
      let next := n.advance tick.clock tick.spurious stage
      (next.1, .attempt next.2)
  | .question stage => (n, .question (n.consider tick.clock stage))

/-- The answer that a step from one stage to another one gives. -/
def verdict? (tick : Tick) : Caller → Caller → Option Verdict
  | .attempt (.loaded now _), .attempt (.answered granted) =>
      some ⟨tick.place, .acquire, now, granted⟩
  | .question (.loaded _), .question (.answered due) =>
      some ⟨tick.place, .ask, tick.clock, due⟩
  | _, _ => none

def answer? : Caller → Option (Call × Bool)
  | .attempt (.answered granted) => some (.acquire, granted)
  | .question (.answered due) => some (.ask, due)
  | _ => none

/-- The last notice that the caller has loaded. -/
def seen? : Caller → Option UInt64
  | .attempt (.loaded _ seen) => notice? seen
  | .question (.loaded seen) => notice? seen
  | _ => none

/-- The reading of the clock that the caller keeps. -/
def reading? : Caller → Option UInt64
  | .attempt (.timed now) => some now
  | .attempt (.loaded now _) => some now
  | _ => none

end Caller

/-- A notifier and those who call it. -/
structure Crowd where
  notifier : Notifier
  callers : List Caller
  deriving DecidableEq, Repr

namespace Crowd

def start (interval : Nat) (calls : List Call) : Crowd :=
  ⟨.ofInterval interval, calls.map Caller.start⟩

def step (crowd : Crowd) (tick : Tick) : Crowd × List Verdict :=
  match crowd.callers[tick.place]? with
  | none => (crowd, [])
  | some caller =>
      let next := caller.advance crowd.notifier tick
      (⟨next.1, crowd.callers.set tick.place next.2⟩, (caller.verdict? tick next.2).toList)

/-- The crowd after some steps, and the answers that were given, in order. -/
def run : Crowd → List Tick → Crowd × List Verdict
  | crowd, [] => (crowd, [])
  | crowd, tick :: rest =>
      let next := crowd.step tick
      let last := run next.1 rest
      (last.1, next.2 ++ last.2)

theorem run_append (crowd : Crowd) (before after : List Tick) :
    crowd.run (before ++ after) =
      (((crowd.run before).1.run after).1,
        (crowd.run before).2 ++ ((crowd.run before).1.run after).2) := by
  induction before generalizing crowd with
  | nil => rfl
  | cons tick rest ih =>
      rw [List.cons_append, run, run, ih (crowd.step tick).1]
      simp

end Crowd

/-! ## One step -/

theorem elapsed_toNat (last now : UInt64) : (elapsed last now).toNat = now.toNat - last.toNat := by
  unfold elapsed
  split
  next ordered => exact UInt64.toNat_sub_of_le _ _ ordered
  next reversed =>
    rw [UInt64.le_iff_toNat_le] at reversed
    show 0 = _
    omega

theorem isDue_eq_false_iff {wait last now : UInt64} :
    isDue wait last now = false ↔
      ∃ notice, notice? last = some notice ∧ now.toNat - notice.toNat < wait.toNat := by
  unfold isDue notice?
  by_cases none_ : last = never
  · simp [none_]
  · simp [none_, UInt64.le_iff_toNat_le, elapsed_toNat]

/-- What one step of a caller may do: the notifier and the caller after it, and the answer
that is given. -/
inductive Turn (n : Notifier) (tick : Tick) (caller : Caller) :
    Notifier → Caller → Option Verdict → Prop where
  | goesOn {next : Caller} (same : next.answer? = caller.answer?)
      (seen : next.seen? = none ∨ next.seen? = n.last?)
      (read : next.reading? = caller.reading? ∨ next.reading? = some tick.clock) :
      Turn n tick caller n next none
  | wins {now : UInt64} {next : Caller} (open_ : caller.answer? = none)
      (read : caller.reading? = some now) (due : isDue n.wait n.last now = true)
      (answered : next.answer? = some (.acquire, true)) :
      Turn n tick caller { n with last := now } next (some ⟨tick.place, .acquire, now, true⟩)
  | refused {call : Call} {now seen : UInt64} {next : Caller} (open_ : caller.answer? = none)
      (read : caller.reading? = some now ∨ tick.clock = now)
      (known : caller.seen? = notice? seen) (early : isDue n.wait seen now = false)
      (answered : next.answer? = some (call, false)) :
      Turn n tick caller n next (some ⟨tick.place, call, now, false⟩)
  | allowed {next : Caller} (open_ : caller.answer? = none)
      (answered : next.answer? = some (.ask, true)) :
      Turn n tick caller n next (some ⟨tick.place, .ask, tick.clock, true⟩)

namespace Caller

theorem turn_advance (n : Notifier) (tick : Tick) (caller : Caller) :
    Turn n tick caller (caller.advance n tick).1 (caller.advance n tick).2
      (caller.verdict? tick (caller.advance n tick).2) := by
  cases caller with
  | attempt stage =>
      cases stage with
      | begun => exact .goesOn rfl (.inl rfl) (.inr rfl)
      | timed now => exact .goesOn rfl (.inr rfl) (.inl rfl)
      | answered granted => exact .goesOn rfl (.inl rfl) (.inl rfl)
      | loaded now seen =>
          simp only [advance, Notifier.advance]
          cases due : isDue n.wait seen now with
          | false => exact .refused rfl (.inl rfl) rfl due rfl
          | true =>
              cases replaced : decide (n.last = seen) && !tick.spurious with
              | false => exact .goesOn rfl (.inr rfl) (.inl rfl)
              | true =>
                  rw [Bool.and_eq_true, decide_eq_true_eq] at replaced
                  exact .wins rfl rfl (replaced.1 ▸ due) rfl
  | question stage =>
      cases stage with
      | begun => exact .goesOn rfl (.inr rfl) (.inl rfl)
      | answered due => exact .goesOn rfl (.inl rfl) (.inl rfl)
      | loaded seen =>
          simp only [advance, consider]
          cases due : isDue n.wait seen tick.clock with
          | false => exact .refused rfl (.inr rfl) rfl due rfl
          | true => exact .allowed rfl rfl

theorem forgets_of_answer? {caller : Caller} {answer : Call × Bool}
    (answered : caller.answer? = some answer) : caller.seen? = none ∧ caller.reading? = none := by
  cases caller with
  | attempt stage =>
      cases stage with
      | answered granted => exact ⟨rfl, rfl⟩
      | _ => cases answered
  | question stage =>
      cases stage with
      | answered due => exact ⟨rfl, rfl⟩
      | _ => cases answered

theorem answer?_eq_acquire_iff {caller : Caller} {granted : Bool} :
    caller.answer? = some (.acquire, granted) ↔ caller = .attempt (.answered granted) := by
  cases caller with
  | attempt stage => cases stage <;> simp [answer?]
  | question stage => cases stage <;> simp [answer?]

theorem answer?_eq_ask_iff {caller : Caller} {due : Bool} :
    caller.answer? = some (.ask, due) ↔ caller = .question (.answered due) := by
  cases caller with
  | attempt stage => cases stage <;> simp [answer?]
  | question stage => cases stage <;> simp [answer?]

end Caller

/-! ## What every order of steps keeps -/

@[simp] theorem wins_nil : wins [] = [] := rfl

theorem wins_concat (journal : List Verdict) (v : Verdict) :
    wins (journal ++ [v]) = wins journal ++ v.won?.toList := by
  rw [wins, List.filterMap_append]
  cases won : v.won? <;> simp [wins, won]

theorem mem_wins_iff {journal : List Verdict} {now : UInt64} :
    now ∈ wins journal ↔ ∃ place, ⟨place, .acquire, now, true⟩ ∈ journal := by
  rw [wins, List.mem_filterMap]
  constructor
  · rintro ⟨⟨place, call, read, granted⟩, member, won⟩
    simp only [Verdict.won?, Option.ite_none_right_eq_some, Option.some.injEq] at won
    obtain ⟨⟨rfl, rfl⟩, rfl⟩ := won
    exact ⟨place, member⟩
  · rintro ⟨place, member⟩
    exact ⟨_, member, rfl⟩

/-- The answer of the call at a place, as the journal has it. -/
def recorded? (journal : List Verdict) (place : Nat) : Option (Call × Bool) :=
  (journal.find? (·.place = place)).map fun v => (v.call, v.granted)

theorem recorded?_concat (journal : List Verdict) (v : Verdict) (place : Nat) :
    recorded? (journal ++ [v]) place =
      (recorded? journal place).or
        (if v.place = place then some (v.call, v.granted) else none) := by
  simp only [recorded?, List.find?_append]
  cases found : journal.find? (·.place = place) with
  | some earlier => rfl
  | none => by_cases here : v.place = place <;> simp [here]

theorem notMem_of_recorded? {journal : List Verdict} {place : Nat}
    (silent : recorded? journal place = none) : place ∉ journal.map (·.place) := by
  simp only [recorded?, Option.map_eq_none_iff, List.find?_eq_none, decide_eq_true_eq] at silent
  rintro member
  obtain ⟨v, there, same⟩ := List.mem_map.mp member
  exact silent v there same

theorem recorded?_eq_some_iff {journal : List Verdict}
    (once : (journal.map (·.place)).Nodup) {place : Nat} {call : Call} {granted : Bool} :
    recorded? journal place = some (call, granted) ↔
      ∃ now, ⟨place, call, now, granted⟩ ∈ journal := by
  induction journal with
  | nil => simp [recorded?]
  | cons v rest ih =>
      rw [List.map_cons, List.nodup_cons] at once
      have later := ih once.2
      obtain ⟨first, other, now, told⟩ := v
      by_cases here : first = place
      · subst here
        have absent : ∀ now, ⟨first, call, now, granted⟩ ∉ rest := fun now member =>
          once.1 (List.mem_map.mpr ⟨_, member, rfl⟩)
        simp [recorded?, absent, eq_comm]
      · have apart : place ≠ first := fun same => here same.symm
        simp only [recorded?, List.find?_cons, here, decide_false, List.mem_cons,
          Verdict.mk.injEq, apart, false_and, false_or] at later ⊢
        exact later

/-- What holds after any steps. -/
structure Kept (wait : UInt64) (crowd : Crowd) (journal : List Verdict) : Prop where
  steady : crowd.notifier.wait = wait
  timely : ∀ caller ∈ crowd.callers, ∀ now ∈ caller.reading?, now ≠ never
  last : crowd.notifier.last? = (wins journal).getLast?
  spaced : (wins journal).Pairwise fun earlier later =>
    earlier.toNat + wait.toNat ≤ later.toNat
  seen : ∀ caller ∈ crowd.callers, ∀ last ∈ caller.seen?, last ∈ wins journal
  refused : ∀ index v, journal[index]? = some v → v.granted = false →
    ∃ won ∈ wins (journal.take index), v.now.toNat < won.toNat + wait.toNat
  answered : ∀ place caller, crowd.callers[place]? = some caller →
    caller.answer? = recorded? journal place
  once : (journal.map (·.place)).Nodup
  placed : ∀ v ∈ journal, v.place < crowd.callers.length

theorem kept_start (interval : Nat) (calls : List Call) :
    Kept (ofInterval interval).wait (.start interval calls) [] where
  steady := rfl
  timely caller member now found := by
    obtain ⟨call, -, rfl⟩ := List.mem_map.mp member
    cases call <;> cases found
  last := rfl
  spaced := .nil
  seen caller member last found := by
    obtain ⟨call, -, rfl⟩ := List.mem_map.mp member
    cases call <;> cases found
  refused index v found := by cases found
  answered place caller found := by
    simp only [Crowd.start, List.getElem?_map, Option.map_eq_some_iff] at found
    obtain ⟨call, -, rfl⟩ := found
    cases call <;> rfl
  once := .nil
  placed v member := by cases member

namespace Kept

variable {wait : UInt64} {crowd : Crowd} {journal : List Verdict}

theorem last_mem (kept : Kept wait crowd journal) {last : UInt64}
    (found : crowd.notifier.last? = some last) : last ∈ wins journal :=
  List.mem_of_getLast? (kept.last ▸ found)

/-- No call that has won read the clock later than the last one. -/
theorem le_last (kept : Kept wait crowd journal) {last won : UInt64}
    (found : crowd.notifier.last? = some last) (member : won ∈ wins journal) :
    won.toNat ≤ last.toNat := by
  rw [kept.last] at found
  obtain ⟨before, split⟩ := List.getLast?_eq_some_iff.mp found
  have spaced := kept.spaced
  rw [split] at spaced member
  rcases List.mem_append.mp member with earlier | same
  · have apart := (List.pairwise_append.mp spaced).2.2 won earlier last (List.mem_singleton_self _)
    omega
  · exact Nat.le_of_eq (congrArg UInt64.toNat (List.mem_singleton.mp same))

theorem timely_set (kept : Kept wait crowd journal) (place : Nat) {next : Caller}
    (timely : ∀ now ∈ next.reading?, now ≠ never) :
    ∀ other ∈ crowd.callers.set place next, ∀ now ∈ other.reading?, now ≠ never := by
  intro other member now found
  rcases List.mem_or_eq_of_mem_set member with old | rfl
  · exact kept.timely other old now found
  · exact timely now found

section

variable {place : Nat} {caller next : Caller} (kept : Kept wait crowd journal)
  (there : crowd.callers[place]? = some caller)
include kept there

theorem answered_set {answers : List Verdict}
    (here : next.answer? = recorded? answers place)
    (elsewhere : ∀ other, other ≠ place → recorded? answers other = recorded? journal other) :
    ∀ other found, (crowd.callers.set place next)[other]? = some found →
      found.answer? = recorded? answers other := by
  intro other found known
  by_cases same : other = place
  · subst same
    rw [List.getElem?_set_self (List.getElem?_eq_some_iff.mp there).1, Option.some.injEq] at known
    rw [← known, here]
  · rw [List.getElem?_set_ne (Ne.symm same)] at known
    rw [kept.answered other found known, elsewhere other same]

theorem goesOn (same : next.answer? = caller.answer?)
    (seen : next.seen? = none ∨ next.seen? = crowd.notifier.last?)
    (timely : ∀ now ∈ next.reading?, now ≠ never) :
    Kept wait ⟨crowd.notifier, crowd.callers.set place next⟩ journal where
  steady := kept.steady
  timely := kept.timely_set place timely
  last := kept.last
  spaced := kept.spaced
  seen other member last found := by
    rcases List.mem_or_eq_of_mem_set member with old | rfl
    · exact kept.seen other old last found
    · rcases seen with nothing | latest
      · rw [nothing] at found
        cases found
      · exact kept.last_mem (latest ▸ found)
  refused := kept.refused
  answered := kept.answered_set there (same.trans (kept.answered place caller there))
    fun _ _ => rfl
  once := kept.once
  placed v member := by
    rw [List.length_set]
    exact kept.placed v member

/-- A step that gives an answer.  What the answer is decides the new last notice. -/
theorem told {n : Notifier} {v : Verdict} (here : v.place = place)
    (open_ : caller.answer? = none) (answered : next.answer? = some (v.call, v.granted))
    (steady : n.wait = wait)
    (last : n.last? = (wins (journal ++ [v])).getLast?)
    (spaced : ∀ now ∈ v.won?, ∀ won ∈ wins journal, won.toNat + wait.toNat ≤ now.toNat)
    (refused : v.granted = false → ∃ won ∈ wins journal, v.now.toNat < won.toNat + wait.toNat) :
    Kept wait ⟨n, crowd.callers.set place next⟩ (journal ++ [v]) where
  steady := steady
  timely := kept.timely_set place fun now known => by
    rw [(Caller.forgets_of_answer? answered).2] at known
    cases known
  last := last
  spaced := by
    rw [wins_concat, List.pairwise_append]
    refine ⟨kept.spaced, ?_, ?_⟩
    · cases v.won? <;> simp
    · intro won member now new
      exact spaced now (Option.mem_toList.mp new) won member
  seen other member found known := by
    have already : found ∈ wins journal := by
      rcases List.mem_or_eq_of_mem_set member with old | rfl
      · exact kept.seen other old found known
      · rw [(Caller.forgets_of_answer? answered).1] at known
        cases known
    rw [wins_concat]
    exact List.mem_append_left _ already
  refused index told found early := by
    by_cases inside : index < journal.length
    · rw [List.getElem?_append_left inside] at found
      rw [List.take_append_of_le_length (Nat.le_of_lt inside)]
      exact kept.refused index told found early
    · have atEnd : index = journal.length := by
        have bound := (List.getElem?_eq_some_iff.mp found).1
        simp only [List.length_append, List.length_singleton] at bound
        omega
      subst atEnd
      simp only [List.getElem?_concat_length, Option.some.injEq] at found
      subst found
      rw [List.take_left]
      exact refused early
  answered := by
    have silent : recorded? journal place = none :=
      (kept.answered place caller there).symm.trans open_
    refine kept.answered_set there ?_ ?_
    · rw [recorded?_concat, silent, answered, if_pos here]
      rfl
    · intro other apart
      have elsewhere : v.place ≠ other := fun same => apart (same.symm.trans here)
      rw [recorded?_concat, if_neg elsewhere, Option.or_none]
  once := by
    have silent : recorded? journal place = none :=
      (kept.answered place caller there).symm.trans open_
    have new := notMem_of_recorded? silent
    rw [List.map_append, List.nodup_append]
    refine ⟨kept.once, List.pairwise_singleton _ _, ?_⟩
    intro earlier member later alone same
    rw [List.map_singleton, List.mem_singleton] at alone
    rw [same, alone, here] at member
    exact new member
  placed told member := by
    rw [List.length_set]
    rcases List.mem_append.mp member with old | new
    · exact kept.placed told old
    · rw [List.mem_singleton.mp new, here]
      exact (List.getElem?_eq_some_iff.mp there).1

end

theorem step (positive : 0 < wait.toNat) (kept : Kept wait crowd journal) {tick : Tick}
    (timely : tick.clock ≠ never) :
    Kept wait (crowd.step tick).1 (journal ++ (crowd.step tick).2) := by
  unfold Crowd.step
  cases there : crowd.callers[tick.place]? with
  | none => simpa using kept
  | some caller =>
      simp only
      have turn := Caller.turn_advance crowd.notifier tick caller
      generalize caller.advance crowd.notifier tick = after at turn
      obtain ⟨n, next⟩ := after
      generalize caller.verdict? tick next = given? at turn
      have own : ∀ now ∈ caller.reading?, now ≠ never :=
        kept.timely caller (List.mem_of_getElem? there)
      cases turn with
      | goesOn same seen read =>
          have onward : ∀ now ∈ next.reading?, now ≠ never := by
            intro now known
            rcases read with old | new
            · exact own now (old ▸ known)
            · rw [new] at known
              cases known
              exact timely
          simpa using kept.goesOn there same seen onward
      | @wins now _ open_ read due answered =>
          have below : now ≠ never := own now read
          refine kept.told there rfl open_ answered kept.steady ?_ ?_ ?_
          · rw [wins_concat]
            simp [Verdict.won?, last?, notice?, below]
          · intro told new won member
            obtain rfl : now = told := Option.some.inj new
            -- The replaced notice is the latest, so the reading is past all others.
            cases found : crowd.notifier.last? with
            | none =>
                rw [kept.last, List.getLast?_eq_none_iff] at found
                rw [found] at member
                cases member
            | some last =>
                have before := kept.le_last found member
                have spaced : ¬ now.toNat - last.toNat < wait.toNat := by
                  intro near
                  rw [← kept.steady] at near
                  rw [isDue_eq_false_iff.mpr ⟨last, found, near⟩] at due
                  cases due
                omega
          · intro never
            cases never
      | refused open_ read known early answered =>
          obtain ⟨last, notice, near⟩ := isDue_eq_false_iff.mp early
          rw [kept.steady] at near
          refine kept.told there rfl open_ answered kept.steady ?_ ?_ ?_
          · rw [wins_concat, kept.last]
            simp [Verdict.won?]
          · intro now won
            simp [Verdict.won?] at won
          · intro _
            have member := kept.seen caller (List.mem_of_getElem? there) last (known.trans notice)
            exact ⟨last, member, by simp only; omega⟩
      | allowed open_ answered =>
          refine kept.told there rfl open_ answered kept.steady ?_ ?_ ?_
          · rw [wins_concat, kept.last]
            simp [Verdict.won?]
          · intro now won
            simp [Verdict.won?] at won
          · intro never
            cases never

theorem run (positive : 0 < wait.toNat) (kept : Kept wait crowd journal) {ticks : List Tick}
    (timely : ∀ tick ∈ ticks, tick.clock ≠ never) :
    Kept wait (crowd.run ticks).1 (journal ++ (crowd.run ticks).2) := by
  induction ticks generalizing crowd journal with
  | nil => simpa [Crowd.run] using kept
  | cons tick rest ih =>
      obtain ⟨first, others⟩ := List.forall_mem_cons.mp timely
      have later := ih (kept.step positive first) others
      rw [List.append_assoc] at later
      exact later

end Kept

/-! ## Where the readings come from -/

/-- The clock showed the reading to the call at the place in one of its steps. -/
def Shown (ticks : List Tick) (place : Nat) (now : UInt64) : Prop :=
  ∃ tick ∈ ticks, tick.place = place ∧ tick.clock = now

theorem Shown.concat {ticks : List Tick} {place : Nat} {now : UInt64} (shown : Shown ticks place now)
    (tick : Tick) : Shown (ticks ++ [tick]) place now := by
  obtain ⟨earlier, member, same⟩ := shown
  exact ⟨earlier, List.mem_append_left _ member, same⟩

theorem shown_last (ticks : List Tick) (tick : Tick) :
    Shown (ticks ++ [tick]) tick.place tick.clock :=
  ⟨tick, by simp, rfl, rfl⟩

/-- Readings are kept and told by those to whom the clock has shown them. -/
structure Read (ticks : List Tick) (crowd : Crowd) (journal : List Verdict) : Prop where
  readings : ∀ place caller, crowd.callers[place]? = some caller →
    ∀ now ∈ caller.reading?, Shown ticks place now
  verdicts : ∀ v ∈ journal, Shown ticks v.place v.now

theorem read_start (interval : Nat) (calls : List Call) :
    Read [] (.start interval calls) [] where
  readings place caller found now known := by
    simp only [Crowd.start, List.getElem?_map, Option.map_eq_some_iff] at found
    obtain ⟨call, -, rfl⟩ := found
    cases call <;> cases known
  verdicts v member := by cases member

namespace Read

variable {ticks : List Tick} {crowd : Crowd} {journal : List Verdict}

theorem step (read : Read ticks crowd journal) (tick : Tick) :
    Read (ticks ++ [tick]) (crowd.step tick).1 (journal ++ (crowd.step tick).2) := by
  have earlier : ∀ v ∈ journal, Shown (ticks ++ [tick]) v.place v.now :=
    fun v member => (read.verdicts v member).concat tick
  unfold Crowd.step
  cases there : crowd.callers[tick.place]? with
  | none =>
      refine ⟨fun place caller found now known => ?_, by simpa using earlier⟩
      exact (read.readings place caller found now known).concat tick
  | some caller =>
      simp only
      have turn := Caller.turn_advance crowd.notifier tick caller
      generalize caller.advance crowd.notifier tick = after at turn
      obtain ⟨n, next⟩ := after
      generalize caller.verdict? tick next = given? at turn
      have own : ∀ now ∈ caller.reading?, Shown (ticks ++ [tick]) tick.place now :=
        fun now known => (read.readings tick.place caller there now known).concat tick
      -- Only the caller whose turn it is may have a new reading.
      have set (shown : ∀ now ∈ next.reading?, Shown (ticks ++ [tick]) tick.place now) :
          ∀ place found, (crowd.callers.set tick.place next)[place]? = some found →
            ∀ now ∈ found.reading?, Shown (ticks ++ [tick]) place now := by
        intro place found known now kept
        by_cases same : place = tick.place
        · subst same
          rw [List.getElem?_set_self (List.getElem?_eq_some_iff.mp there).1,
            Option.some.injEq] at known
          exact shown now (known ▸ kept)
        · rw [List.getElem?_set_ne (Ne.symm same)] at known
          exact (read.readings place found known now kept).concat tick
      have forgets {answer : Call × Bool} (answered : next.answer? = some answer) :
          ∀ now ∈ next.reading?, Shown (ticks ++ [tick]) tick.place now := by
        intro now known
        rw [(Caller.forgets_of_answer? answered).2] at known
        cases known
      have told {v : Verdict} (shown : Shown (ticks ++ [tick]) v.place v.now) :
          ∀ u ∈ journal ++ [v], Shown (ticks ++ [tick]) u.place u.now := by
        intro u member
        rcases List.mem_append.mp member with old | new
        · exact earlier u old
        · rw [List.mem_singleton.mp new]
          exact shown
      cases turn with
      | goesOn same seen kept =>
          refine ⟨set fun now known => ?_, by simpa using earlier⟩
          rcases kept with old | new
          · exact own now (old ▸ known)
          · rw [new] at known
            cases known
            exact shown_last ticks tick
      | wins open_ kept due answered => exact ⟨set (forgets answered), told (own _ kept)⟩
      | refused open_ kept known early answered =>
          refine ⟨set (forgets answered), told ?_⟩
          rcases kept with old | rfl
          · exact own _ old
          · exact shown_last ticks tick
      | allowed open_ answered => exact ⟨set (forgets answered), told (shown_last ticks tick)⟩

theorem run (read : Read ticks crowd journal) (later : List Tick) :
    Read (ticks ++ later) (crowd.run later).1 (journal ++ (crowd.run later).2) := by
  induction later generalizing ticks crowd journal with
  | nil => simpa [Crowd.run] using read
  | cons tick rest ih =>
      have further := ih (read.step tick)
      rw [List.append_assoc, List.append_assoc, List.singleton_append] at further
      exact further

end Read

/-! ## Whole runs -/

namespace Kept

variable {wait : UInt64} {crowd : Crowd} {journal : List Verdict}
  (kept : Kept wait crowd journal)
include kept

theorem answer?_iff {place : Nat} {call : Call} {granted : Bool} :
    (∃ caller, crowd.callers[place]? = some caller ∧ caller.answer? = some (call, granted)) ↔
      ∃ now, ⟨place, call, now, granted⟩ ∈ journal := by
  rw [← recorded?_eq_some_iff kept.once]
  constructor
  · rintro ⟨caller, there, answered⟩
    rw [← kept.answered place caller there, answered]
  · intro recorded
    obtain ⟨now, member⟩ := (recorded?_eq_some_iff kept.once).mp recorded
    have inside : place < crowd.callers.length := kept.placed _ member
    have there := List.getElem?_eq_getElem inside
    exact ⟨_, there, (kept.answered place _ there).trans recorded⟩

theorem attempt_answered_iff {place : Nat} {granted : Bool} :
    crowd.callers[place]? = some (.attempt (.answered granted)) ↔
      ∃ now, ⟨place, .acquire, now, granted⟩ ∈ journal := by
  simp only [← kept.answer?_iff, Caller.answer?_eq_acquire_iff, exists_eq_right]

theorem question_answered_iff {place : Nat} {due : Bool} :
    crowd.callers[place]? = some (.question (.answered due)) ↔
      ∃ now, ⟨place, .ask, now, due⟩ ∈ journal := by
  simp only [← kept.answer?_iff, Caller.answer?_eq_ask_iff, exists_eq_right]

theorem wins_ne_nil {place : Nat} {granted : Bool}
    (answered : crowd.callers[place]? = some (.attempt (.answered granted))) :
    wins journal ≠ [] := by
  obtain ⟨now, member⟩ := kept.attempt_answered_iff.mp answered
  cases granted with
  | true => exact List.ne_nil_of_mem (mem_wins_iff.mpr ⟨place, member⟩)
  | false =>
      obtain ⟨index, found⟩ := List.mem_iff_getElem?.mp member
      obtain ⟨won, earlier, -⟩ := kept.refused index _ found rfl
      exact List.ne_nil_of_mem ((List.take_sublist index journal).filterMap _ |>.mem earlier)

end Kept

theorem wait_toNat {interval : Nat} (fits : interval / nanosPerMilli < UInt64.size) :
    (ofInterval interval).wait.toNat = interval / nanosPerMilli :=
  UInt64.toNat_ofNat_of_lt' fits

/-- Notices are the whole milliseconds of the interval apart, in whatever order the callers
take their steps.  The journal has the answer of every call that is done, with the reading
that the clock showed it.  Some call wins before any attempt is done, a call is refused only
for one that has won shortly before its own reading or later, and the last notice is that of
the latest winner. -/
theorem notices_spaced {interval : Nat} (positive : nanosPerMilli ≤ interval)
    (fits : interval / nanosPerMilli < UInt64.size) (calls : List Call) {ticks : List Tick}
    (timely : ∀ tick ∈ ticks, tick.clock < never) :
    let millis := interval / nanosPerMilli
    let after := (Crowd.start interval calls).run ticks
    (wins after.2).Pairwise (fun earlier later => earlier.toNat + millis ≤ later.toNat)
      ∧ (∀ (place : Nat) granted, after.1.callers[place]? = some (.attempt (.answered granted)) ↔
          ∃ now, ⟨place, .acquire, now, granted⟩ ∈ after.2)
      ∧ (∀ (place : Nat) due, after.1.callers[place]? = some (.question (.answered due)) ↔
          ∃ now, ⟨place, .ask, now, due⟩ ∈ after.2)
      ∧ (∀ v ∈ after.2, Shown ticks v.place v.now)
      ∧ (∀ (place : Nat) granted, after.1.callers[place]? = some (.attempt (.answered granted)) →
          wins after.2 ≠ [])
      ∧ (∀ index v, after.2[index]? = some v → v.granted = false →
          ∃ won ∈ wins (after.2.take index), v.now.toNat < won.toNat + millis)
      ∧ after.1.notifier.last? = (wins after.2).getLast?
      ∧ ∀ earlier later, ticks = earlier ++ later →
          ∀ last ∈ ((Crowd.start interval calls).run earlier).1.notifier.last?,
            ∃ now, after.1.notifier.last? = some now ∧ last.toNat ≤ now.toNat := by
  intro millis after
  have wait : (ofInterval interval).wait.toNat = millis := wait_toNat fits
  have positive : 0 < (ofInterval interval).wait.toNat :=
    wait ▸ Nat.div_pos positive (by decide)
  have below : ∀ tick ∈ ticks, tick.clock ≠ never := fun tick member =>
    UInt64.ne_of_lt (timely tick member)
  have kept : Kept (ofInterval interval).wait after.1 after.2 :=
    (kept_start interval calls).run positive below
  have read : Read ticks after.1 after.2 := (read_start interval calls).run ticks
  rw [← wait]
  refine ⟨kept.spaced, fun _ _ => kept.attempt_answered_iff, fun _ _ => kept.question_answered_iff,
    read.verdicts, fun _ _ => kept.wins_ne_nil, kept.refused, kept.last, ?_⟩
  intro earlier later split last found
  have sooner : ∀ tick ∈ earlier, tick.clock ≠ never := fun tick member =>
    below tick (split ▸ List.mem_append_left later member)
  have before : Kept (ofInterval interval).wait ((Crowd.start interval calls).run earlier).1
      ((Crowd.start interval calls).run earlier).2 :=
    (kept_start interval calls).run positive sooner
  have already : last ∈ wins after.2 := by
    simp only [after]
    rw [split, Crowd.run_append, wins, List.filterMap_append]
    exact List.mem_append_left _ (before.last_mem found)
  have some_ := kept.last
  rw [List.getLast?_eq_some_getLast (List.ne_nil_of_mem already)] at some_
  exact ⟨_, some_, kept.le_last some_ already⟩

/-- Two attempts see no notice.  One of them wins, and the other one, with an older reading,
is held up until a third has replaced that notice. -/
theorem stalled_spaced :
    let calls := [.acquire, .acquire, .acquire, .ask]
    let ticks : List Tick :=
      [⟨0, 10, false⟩, ⟨1, 9, false⟩, ⟨0, 0, false⟩, ⟨1, 0, false⟩, ⟨0, 0, true⟩, ⟨0, 0, false⟩,
        ⟨3, 0, false⟩, ⟨2, 15, false⟩, ⟨2, 0, false⟩, ⟨2, 0, false⟩, ⟨1, 0, false⟩,
        ⟨1, 0, false⟩, ⟨3, 14, false⟩]
    let after := (Crowd.start 5000000 calls).run ticks
    nanosPerMilli ≤ 5000000 ∧ 5000000 / nanosPerMilli = 5 ∧ 5 < UInt64.size
      ∧ (∀ tick ∈ ticks, tick.clock < never)
      ∧ after.2 = [⟨0, .acquire, 10, true⟩, ⟨2, .acquire, 15, true⟩, ⟨1, .acquire, 9, false⟩,
        ⟨3, .ask, 14, false⟩]
      ∧ (wins after.2).Pairwise (fun earlier later => earlier.toNat + 5 ≤ later.toNat) := by
  intro calls ticks after
  have some_ : nanosPerMilli ≤ 5000000 := by decide
  have fits : 5000000 / nanosPerMilli < UInt64.size := by decide
  have timely : ∀ tick ∈ ticks, tick.clock < never := by decide +kernel
  have told : after.2 = [⟨0, .acquire, 10, true⟩, ⟨2, .acquire, 15, true⟩,
      ⟨1, .acquire, 9, false⟩, ⟨3, .ask, 14, false⟩] := by decide +kernel
  exact ⟨some_, by decide, fits, timely, told, (notices_spaced some_ fits calls timely).1⟩

/-! ## What is not promised -/

/-- Callers that take their steps one after the other, as the clock shows these readings. -/
def inTurn (clocks : List UInt64) : List Tick :=
  clocks.zipIdx.flatMap fun (clock, place) => List.replicate 3 ⟨place, clock, false⟩

/-- Parts of a millisecond are not waited for, an interval that a word of milliseconds cannot
hold wraps, and a notice that was only marked refuses a call although none has won. -/
theorem interval_cut :
    let calls := [.acquire, .acquire]
    let wins (interval : Nat) := wins ((Crowd.start interval calls).run (inTurn [0, 1])).2
    let wrapped := (UInt64.size + 1) * nanosPerMilli
    let marked : Crowd := ⟨(initial 3600000).markNotified 0, [.start .acquire]⟩
    (wins 1500000 = [0, 1] ∧ (1 - 0) * nanosPerMilli < 1500000)
      ∧ (wins wrapped = [0, 1] ∧ (1 - 0) * nanosPerMilli < wrapped)
      ∧ (marked.run (inTurn [0])).2 = [⟨0, .acquire, 0, false⟩] := by
  decide +kernel

end LintBridge.Notifier
