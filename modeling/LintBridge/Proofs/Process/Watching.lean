import Mathlib.Logic.Function.Basic
import Mathlib.Logic.Relation
import LintBridge.Machine.Server
import LintBridge.Proofs.Lint.Decision

/-!
# What a watcher may see

A process writes to two streams.  For each of them a reader takes out one piece after the
other, as they happen to come, and sends it to the watcher; a stream is closed when all of
it has been sent.  Pieces of one stream arrive in their order, and the watcher hears that
the streams are closed only when both are and nothing is under way.  `Flow.Shows` has every
order in which the readers, the process and the watcher may take their steps.

Whatever the order, a capture that ends in time has both streams whole, and any other one
has a beginning of each.
-/

set_option autoImplicit false

namespace LintBridge

/-- The code of a process that did not die of a signal. -/
def Exit.code? : Exit → Option Nat
  | .code n => some n
  | .signal => none

structure Writer where
  exit : Exit
  /-- What is written to each stream, cut as its reader happens to read it. -/
  pieces : Stream → List Bytes

def Writer.written (p : Writer) (stream : Stream) : Bytes :=
  (p.pieces stream).flatten

/-- How far a process and the readers of its streams are. -/
structure Flow where
  exited : Bool
  /-- What the readers have not sent. -/
  unread : Stream → List Bytes
  /-- What is sent and has not been heard. -/
  sent : Stream → List Bytes
  closed : Stream → Bool

def Writer.start (p : Writer) : Flow :=
  { exited := false, unread := p.pieces, sent := fun _ => [], closed := fun _ => false }

namespace Flow

/-- A step that the watcher has no part in. -/
inductive Next : Flow → Flow → Prop where
  | exits (f : Flow) : Next f { f with exited := true }
  | sends (f : Flow) (stream : Stream) {bytes : Bytes} {rest : List Bytes}
      (there : f.unread stream = bytes :: rest) :
      Next f { f with
        unread := Function.update f.unread stream rest
        sent := Function.update f.sent stream (f.sent stream ++ [bytes]) }
  | closes (f : Flow) (stream : Stream) (dry : f.unread stream = []) :
      Next f { f with closed := Function.update f.closed stream true }

/-- What the watcher may meet when it waits for output. -/
inductive Hears : Flow → Heard → Flow → Prop where
  | chunk (f : Flow) {stream : Stream} {bytes : Bytes} {rest : List Bytes}
      (first : f.sent stream = bytes :: rest) :
      Hears f (.chunk ⟨stream, bytes⟩) { f with sent := Function.update f.sent stream rest }
  | closed (f : Flow) (none_ : ∀ stream, f.sent stream = [])
      (both : ∀ stream, f.closed stream = true) : Hears f .closed f
  | nothing (f : Flow) : Hears f .nothing f

/-- What looks at a process may show from here on, and what is taken in after them.  Between
any two things that the watcher does the others may take any steps. -/
inductive Shows (exit : Exit) : Flow → List Glance → List Chunk → Prop where
  | ends (f : Flow) : Shows exit f [] []
  | goesOn {f next : Flow} {glances : List Glance} {queued : List Chunk} (step : f.Next next)
      (onward : Shows exit next glances queued) : Shows exit f glances queued
  | takesIn {f after : Flow} {c : Chunk} {queued : List Chunk} (heard : f.Hears (.chunk c) after)
      (onward : Shows exit after [] queued) : Shows exit f [] (c :: queued)
  | looks {f between after : Flow} {exit? : Option Exit} {heard : Heard} {glances : List Glance}
      {queued : List Chunk} (seen : ∀ e ∈ exit?, f.exited = true ∧ e = exit)
      (meanwhile : Relation.ReflTransGen Next f between) (hears : between.Hears heard after)
      (onward : Shows exit after glances queued) :
      Shows exit f (⟨.ok exit?, false, heard⟩ :: glances) queued
  /-- The last look, when the time is up. -/
  | givesUp {f : Flow} {exit? : Option Exit} {queued : List Chunk}
      (seen : ∀ e ∈ exit?, f.exited = true ∧ e = exit) (onward : Shows exit f [] queued) :
      Shows exit f [⟨.ok exit?, true, .nothing⟩] queued

end Flow

def Writer.Shows (p : Writer) (o : Observation) : Prop :=
  p.start.Shows p.exit o.glances o.queued

/-! ## Nothing is lost on the way -/

def piecesOf (stream : Stream) (chunks : List Chunk) : List Bytes :=
  (chunks.filter (·.stream = stream)).map (·.bytes)

theorem piecesOf_append (stream : Stream) (before after : List Chunk) :
    piecesOf stream (before ++ after) = piecesOf stream before ++ piecesOf stream after := by
  simp [piecesOf]

theorem piecesOf_singleton (stream other : Stream) (bytes : Bytes) :
    piecesOf stream [⟨other, bytes⟩] = if other = stream then [bytes] else [] := by
  by_cases same : other = stream <;> simp [piecesOf, same]

theorem flatten_piecesOf (stream : Stream) (chunks : List Chunk) :
    (piecesOf stream chunks).flatten = streamBytes stream chunks := by
  simp [piecesOf, streamBytes, List.flatMap]

namespace Flow

/-- What has been heard, is under way and is unread is what is written. -/
structure Accounts (f : Flow) (p : Writer) (got : List Chunk) : Prop where
  whole : ∀ stream, p.pieces stream = piecesOf stream got ++ (f.sent stream ++ f.unread stream)
  dry : ∀ stream, f.closed stream = true → f.unread stream = []

variable {f later : Flow} {p : Writer} {got : List Chunk}

theorem accounts_start (p : Writer) : p.start.Accounts p [] where
  whole stream := by simp [Writer.start, piecesOf]
  dry stream closed := by simp [Writer.start] at closed

theorem Accounts.next (accounts : f.Accounts p got) (step : f.Next later) :
    later.Accounts p got := by
  cases step with
  | exits => exact ⟨accounts.whole, accounts.dry⟩
  | @sends stream bytes rest there =>
      constructor
      · intro other
        have whole := accounts.whole other
        by_cases same : other = stream
        · subst same
          rw [there] at whole
          simpa using whole
        · simpa [Function.update_of_ne same] using whole
      · intro other closed
        have dry := accounts.dry other closed
        by_cases same : other = stream
        · subst same
          rw [there] at dry
          cases dry
        · simpa [Function.update_of_ne same] using dry
  | closes stream dry =>
      constructor
      · exact accounts.whole
      · intro other closed
        by_cases same : other = stream
        · subst same
          exact dry
        · simp only [Function.update_of_ne same] at closed
          exact accounts.dry other closed

theorem Accounts.steps (accounts : f.Accounts p got)
    (steps : Relation.ReflTransGen Next f later) : later.Accounts p got := by
  induction steps with
  | refl => exact accounts
  | tail _ step ih => exact ih.next step

theorem Accounts.hears (accounts : f.Accounts p got) {c : Chunk}
    (heard : f.Hears (.chunk c) later) : later.Accounts p (got ++ [c]) := by
  cases heard with
  | @chunk stream bytes rest first =>
      refine ⟨fun other => ?_, accounts.dry⟩
      have whole := accounts.whole other
      rw [piecesOf_append, piecesOf_singleton]
      by_cases same : other = stream
      · subst same
        rw [first] at whole
        simpa using whole
      · have differs : stream ≠ other := fun back => same back.symm
        simpa [Function.update_of_ne same, differs] using whole

theorem Accounts.part (accounts : f.Accounts p got) (stream : Stream) :
    piecesOf stream got <+: p.pieces stream := by
  rw [accounts.whole stream]
  exact List.prefix_append ..

/-- When the streams are heard to be closed all has been heard. -/
theorem Accounts.complete (accounts : f.Accounts p got) (none_ : ∀ stream, f.sent stream = [])
    (both : ∀ stream, f.closed stream = true) (stream : Stream) :
    piecesOf stream got = p.pieces stream := by
  rw [accounts.whole stream, none_ stream, accounts.dry stream (both stream)]
  simp

theorem Accounts.no_chunk (accounts : f.Accounts p got)
    (whole : ∀ stream, piecesOf stream got = p.pieces stream) {c : Chunk} :
    ¬ f.Hears (.chunk c) later := by
  intro heard
  cases heard with
  | @chunk stream bytes rest first =>
      have account := accounts.whole stream
      rw [whole stream, first] at account
      simp at account

/-- What is taken in at the end goes on where the looks have ended. -/
theorem Shows.taken {glances : List Glance} {queued : List Chunk}
    (shows : f.Shows p.exit glances queued) (done : glances = [])
    (accounts : f.Accounts p got) (stream : Stream) :
    piecesOf stream (got ++ queued) <+: p.pieces stream := by
  induction shows generalizing got with
  | ends f => simpa using accounts.part stream
  | goesOn step onward ih => exact ih done (accounts.next step)
  | @takesIn f after c queued heard onward ih =>
      have taken := ih done (accounts.hears heard)
      rwa [List.append_assoc, List.singleton_append] at taken
  | looks => cases done
  | givesUp => cases done

end Flow

/-! ## Looking -/

namespace Watch

/-- What the watcher knows is true. -/
structure Knows (w : Watch) (p : Writer) (f : Flow) : Prop where
  accounts : f.Accounts p w.chunks.reverse
  exit : ∀ e ∈ w.exit?, e = p.exit
  whole : w.streamsOpen = false → ∀ stream, piecesOf stream w.chunks.reverse = p.pieces stream

variable {w : Watch} {p : Writer} {f : Flow}

theorem poll_ok (w : Watch) (exit? : Option Exit) (late : Bool) (heard : Heard) :
    w.poll ⟨.ok exit?, late, heard⟩ = .ok { w with exit? := w.exit?.or exit? } := by
  obtain ⟨chunks, known, streamsOpen⟩ := w
  cases known <;> rfl

theorem Knows.polled (knows : w.Knows p f) {exit? : Option Exit}
    (seen : ∀ e ∈ exit?, e = p.exit) : Knows { w with exit? := w.exit?.or exit? } p f where
  accounts := knows.accounts
  exit := by
    intro e known
    cases before : w.exit? with
    | none =>
        rw [before] at known
        exact seen e known
    | some earlier =>
        rw [before] at known
        cases known
        exact knows.exit _ before
  whole := knows.whole

theorem Knows.steps (knows : w.Knows p f) {next : Flow}
    (steps : Relation.ReflTransGen Flow.Next f next) : w.Knows p next :=
  ⟨knows.accounts.steps steps, knows.exit, knows.whole⟩

theorem Knows.hear (knows : w.Knows p f) {heard : Heard} {next : Flow}
    (hears : f.Hears heard next) (open_ : w.streamsOpen = true) : (w.hear heard).Knows p next := by
  cases hears with
  | @chunk stream bytes rest first =>
      have accounts := knows.accounts.hears (.chunk f first)
      refine ⟨by simpa [Watch.hear] using accounts, knows.exit, fun shut => ?_⟩
      cases open_.symm.trans shut
  | closed none_ both =>
      exact ⟨knows.accounts, knows.exit, fun _ => knows.accounts.complete none_ both⟩
  | nothing => exact knows

/-- A watcher that knows the streams to be closed misses nothing. -/
theorem Knows.deaf (knows : w.Knows p f) {heard : Heard} {next : Flow}
    (hears : f.Hears heard next) (shut : w.streamsOpen = false) : w.Knows p next := by
  cases heard with
  | chunk c => exact absurd hears (knows.accounts.no_chunk (knows.whole shut))
  | closed =>
      cases hears
      exact knows
  | nothing =>
      cases hears
      exact knows

end Watch

/-- What the capture says of the process is true, and it is all there is to say if the
process ended in time. -/
structure Capture.Tells (c : Capture) (p : Writer) : Prop where
  ended : c.timedOut = false →
    c.exit? = some p.exit ∧ ∀ stream, piecesOf stream c.chunks = p.pieces stream
  late : c.timedOut = true → c.exit? = none
  part : ∀ stream, piecesOf stream c.chunks <+: p.pieces stream

namespace Watch

variable {w : Watch} {p : Writer} {f : Flow} {glances : List Glance} {queued : List Chunk}

theorem Knows.tells_ended (knows : w.Knows p f)
    (done : (w.exit?.isSome && !w.streamsOpen) = true) :
    Capture.Tells ⟨w.chunks.reverse, w.exit?, false⟩ p := by
  obtain ⟨known, shut⟩ : w.exit?.isSome = true ∧ w.streamsOpen = false := by simpa using done
  obtain ⟨e, same⟩ := Option.isSome_iff_exists.1 known
  have whole := knows.whole shut
  refine ⟨fun _ => ⟨?_, whole⟩, nofun, fun stream => ?_⟩
  · rw [same, knows.exit e same]
  · exact (whole stream) ▸ List.prefix_refl _

theorem Knows.tells_late (knows : w.Knows p f) (shows : f.Shows p.exit [] queued) :
    Capture.Tells ⟨w.chunks.reverse ++ queued, none, true⟩ p :=
  ⟨nofun, fun _ => rfl, shows.taken rfl knows.accounts⟩

theorem run_tells (shows : f.Shows p.exit glances queued) (knows : w.Knows p f) :
    ∃ c, w.run queued glances = .ok c ∧ c.Tells p := by
  -- On what is seen; each step of the watcher or of the others keeps `Knows`.
  induction shows generalizing w with
  | ends f => exact ⟨_, rfl, knows.tells_late (.ends f)⟩
  | goesOn step onward ih => exact ih (knows.steps (.single step))
  | takesIn heard onward => exact ⟨_, rfl, knows.tells_late (.takesIn heard onward)⟩
  | @looks f between after exit? heard glances queued seen meanwhile hears onward ih =>
      have polled := (knows.polled fun e found => (seen e found).2).steps meanwhile
      simp only [Watch.run, Watch.turn, Watch.poll_ok]
      -- The end may be known before the streams are closed, or after; only then is it over.
      by_cases done : ((w.exit?.or exit?).isSome && !w.streamsOpen) = true
      · rw [if_pos done]
        exact ⟨_, rfl, polled.tells_ended done⟩
      · rw [if_neg done]
        cases open_ : w.streamsOpen with
        | true => simpa [open_] using ih (polled.hear hears open_)
        | false => simpa [open_] using ih (polled.deaf hears open_)
  | @givesUp f exit? queued seen onward ih =>
      have polled := knows.polled fun e found => (seen e found).2
      simp only [Watch.run, Watch.turn, Watch.poll_ok]
      by_cases done : ((w.exit?.or exit?).isSome && !w.streamsOpen) = true
      · rw [if_pos done]
        exact ⟨_, rfl, polled.tells_ended done⟩
      · rw [if_neg done]
        exact ⟨_, rfl, polled.tells_late onward⟩

theorem knows_initial (p : Writer) : initial.Knows p p.start where
  accounts := Flow.accounts_start p
  exit := nofun
  whole := nofun

end Watch

theorem Observation.capture_tells {o : Observation} {p : Writer} (shown : p.Shows o) :
    ∃ c, o.capture = .ok c ∧ c.Tells p :=
  Watch.run_tells shown (Watch.knows_initial p)

/-! ## What is told on -/

namespace Capture

def callsOf (stream : Stream) (c : Capture) : List String :=
  (c.calls.filter (·.1 = stream)).map (·.2)

theorem callsOf_eq (stream : Stream) (c : Capture) :
    c.callsOf stream = (piecesOf stream c.chunks).map Text.decodeLossy := by
  simp only [callsOf, calls, piecesOf, List.filter_map, List.map_map]
  rfl

theorem exitCode?_eq (c : Capture) : c.exitCode? = c.exit?.bind Exit.code? := by
  obtain ⟨chunks, exit?, timedOut⟩ := c
  cases exit? with
  | none => rfl
  | some e => cases e <;> rfl

theorem outcome_eq (c : Capture) :
    c.outcome = ⟨c.exit?.bind Exit.code?, Text.decodeLossy (piecesOf .out c.chunks).flatten,
      Text.decodeLossy (piecesOf .err c.chunks).flatten, c.timedOut⟩ := by
  rw [outcome, exitCode?_eq, flatten_piecesOf, flatten_piecesOf]

theorem Tells.outcome_ended {c : Capture} {p : Writer} (tells : c.Tells p)
    (inTime : c.timedOut = false) :
    c.outcome = ⟨p.exit.code?, Text.decodeLossy (p.written .out),
      Text.decodeLossy (p.written .err), false⟩ := by
  obtain ⟨exit, whole⟩ := tells.ended inTime
  rw [outcome_eq, exit, whole, whole, inTime]
  rfl

theorem Tells.outcome_late {c : Capture} {p : Writer} (tells : c.Tells p)
    (late : c.timedOut = true) :
    c.outcome = ⟨none, Text.decodeLossy (piecesOf .out c.chunks).flatten,
      Text.decodeLossy (piecesOf .err c.chunks).flatten, true⟩ := by
  rw [outcome_eq, tells.late late, late]
  rfl

theorem Tells.bytes_part {c : Capture} {p : Writer} (tells : c.Tells p) (stream : Stream) :
    (piecesOf stream c.chunks).flatten <+: p.written stream := by
  obtain ⟨rest, all⟩ := tells.part stream
  rw [Writer.written, ← all, List.flatten_append]
  exact List.prefix_append ..

end Capture

/-- Whatever the order in which a process, the readers of its streams and the watcher take
their steps: a capture that ends in time has the code of the process and all that it wrote,
and one that gives up has a beginning of each stream.  The listener was called for each
piece that was taken in, in the order of its stream. -/
theorem CommandLine.capture_loses_nothing {σ : Type} {serve : Job.Server σ} {s : σ}
    (command : CommandLine) (budget : Nat) {p : Writer} {o : Observation} (shown : p.Shows o)
    (started : Job.starts ((command.capture budget).talk serve s)
      = [⟨.launch command budget, .ok o⟩]) :
    ∃ (c : Capture) (pieces : Stream → List Bytes),
      ((command.capture budget).run serve s).1 = .ok c
        ∧ (c.timedOut = false →
            c.outcome = ⟨p.exit.code?, Text.decodeLossy (p.written .out),
              Text.decodeLossy (p.written .err), false⟩
            ∧ ∀ stream, pieces stream = p.pieces stream)
        ∧ (c.timedOut = true →
            c.outcome = ⟨none, Text.decodeLossy (pieces .out).flatten,
              Text.decodeLossy (pieces .err).flatten, true⟩)
        ∧ ∀ stream, pieces stream <+: p.pieces stream
            ∧ (pieces stream).flatten <+: p.written stream
            ∧ c.callsOf stream = (pieces stream).map Text.decodeLossy := by
  obtain ⟨reply, once, value⟩ :
      Job.Launches serve s (command.capture budget) command budget command.captured :=
    command.capture_launches budget
  obtain ⟨c, captured, tells⟩ := Observation.capture_tells shown
  have same := List.singleton_inj.mp (once.symm.trans started)
  cases same
  refine ⟨c, fun stream => piecesOf stream c.chunks, ?_, ?_, ?_, ?_⟩
  · simp only [value, CommandLine.captured, captured, Result.mapError_ok]
  · intro inTime
    exact ⟨tells.outcome_ended inTime, (tells.ended inTime).2⟩
  · intro late
    exact tells.outcome_late late
  · intro stream
    exact ⟨tells.part stream, tells.bytes_part stream, c.callsOf_eq stream⟩

/-- A process with an accented letter that is read in two pieces. -/
def Writer.accented : Writer where
  exit := .code 1
  pieces
    | .out => [[0xC3], [0xA9]]
    | .err => [[0x78]]

/-- Its second half comes when the process has ended. -/
def Observation.ofAccented : Observation where
  glances :=
    [⟨.ok none, false, .chunk ⟨.out, [0xC3]⟩⟩, ⟨.ok none, false, .chunk ⟨.err, [0x78]⟩⟩,
      ⟨.ok (some (.code 1)), false, .nothing⟩, ⟨.ok none, false, .chunk ⟨.out, [0xA9]⟩⟩,
      ⟨.ok none, false, .closed⟩, ⟨.ok none, false, .nothing⟩]
  queued := []

theorem Writer.accented_shows : Writer.accented.Shows .ofAccented := by
  refine .goesOn (.sends _ .out rfl) (.looks nofun .refl (.chunk _ rfl) ?_)
  refine .goesOn (.sends _ .err rfl) (.looks nofun .refl (.chunk _ rfl) ?_)
  refine .goesOn (.exits _) (.looks (by simp [Writer.accented]) .refl (.nothing _) ?_)
  refine .goesOn (.sends _ .out rfl) (.looks nofun .refl (.chunk _ rfl) ?_)
  refine .goesOn (.closes _ .out rfl) (.goesOn (.closes _ .err rfl) ?_)
  refine .looks nofun .refl (.closed _ ?_ ?_) (.looks nofun .refl (.nothing _) (.ends _))
  · rintro (_ | _) <;> rfl
  · rintro (_ | _) <;> rfl

def accentedLauncher : Machine.Launcher := fun tree _ _ _ =>
  .ok (.ofAccented, tree)

/-- The letter is whole in the result, and the listener was called with its halves. -/
theorem CommandLine.accented_captured :
    ∃ c, ((CommandLine.capture ⟨"lint", [], none⟩ 100).run (Machine.serveWith accentedLauncher)
        .empty).1 = .ok c
      ∧ c.outcome = ⟨some 1, "é", "x", false⟩
      ∧ c.callsOf .out = ["\uFFFD", "\uFFFD"] ∧ c.callsOf .err = ["x"] := by
  have started : Job.starts ((CommandLine.capture ⟨"lint", [], none⟩ 100).talk
      (Machine.serveWith accentedLauncher) .empty)
        = [⟨.launch ⟨"lint", [], none⟩ 100, .ok .ofAccented⟩] := rfl
  obtain ⟨c, pieces, captured, inTime, -, each⟩ :=
    CommandLine.capture_loses_nothing ⟨"lint", [], none⟩ 100 Writer.accented_shows started
  have punctual : c.timedOut = false := by
    cases captured
    rfl
  obtain ⟨outcome, whole⟩ := inTime punctual
  refine ⟨c, captured, outcome.trans (by decide +kernel), ?_, ?_⟩
  · rw [(each .out).2.2, whole .out]
    decide +kernel
  · rw [(each .err).2.2, whole .err]
    decide +kernel

end LintBridge
