/-!
# Notices

A failure is shown to the user at most once per interval.  A notifier keeps the clock
reading of the last notice in one word, of which the highest value stands for none.
Asking for a notice is an attempt in atomic steps: read the clock, load the last notice,
and replace it if it is still the same; attempts of several callers may interleave.  The
replacement may fail for no reason and is then tried again.
-/

set_option autoImplicit false

namespace LintBridge

structure Notifier where
  /-- Nanoseconds. -/
  interval : Nat
  /-- The clock reading of the last notice, in milliseconds. -/
  last : UInt64
  deriving DecidableEq, Repr

namespace Notifier

/-- The word that stands for no notice. -/
def never : UInt64 :=
  0xFFFFFFFFFFFFFFFF

def nanosPerMilli : Nat :=
  1000000

def ofInterval (interval : Nat) : Notifier :=
  ⟨interval, never⟩

/-- As `ofInterval`, with an interval in milliseconds. -/
def initial (interval : Nat) : Notifier :=
  ofInterval (interval * nanosPerMilli)

def usualInterval : Nat :=
  5000

/-- The whole milliseconds of the interval, as far as a word holds them. -/
def wait (n : Notifier) : UInt64 :=
  .ofNat (n.interval / nanosPerMilli)

/-- A clock that stands before the last notice counts as none of the time passed. -/
def elapsed (last now : UInt64) : UInt64 :=
  if last ≤ now then now - last else 0

def isDue (wait last now : UInt64) : Bool :=
  last = never || wait ≤ elapsed last now

def shouldNotify (n : Notifier) (millis : Nat) : Bool :=
  isDue n.wait n.last (.ofNat millis)

def markNotified (n : Notifier) (millis : Nat) : Notifier :=
  { n with last := .ofNat millis }

inductive Attempt where
  | begun
  | timed (now : UInt64)
  | loaded (now seen : UInt64)
  | answered (granted : Bool)
  deriving DecidableEq, Repr

/-- The next atomic step of an attempt: the clock shows `clock`, and a replacement fails
without reason where `spurious` is set. -/
def advance (n : Notifier) (clock : UInt64) (spurious : Bool) : Attempt → Notifier × Attempt
  | .begun => (n, .timed clock)
  | .timed now => (n, .loaded now n.last)
  | .loaded now seen =>
      if isDue n.wait seen now then
        if n.last = seen && !spurious then ({ n with last := now }, .answered true)
        else (n, .loaded now n.last)
      else (n, .answered false)
  | .answered granted => (n, .answered granted)

inductive Question where
  | begun
  /-- The last notice is loaded; the clock is read after it. -/
  | loaded (seen : UInt64)
  | answered (due : Bool)
  deriving DecidableEq, Repr

def consider (n : Notifier) (clock : UInt64) : Question → Question
  | .begun => .loaded n.last
  | .loaded seen => .answered (isDue n.wait seen clock)
  | .answered due => .answered due

theorem consider_begun (n : Notifier) (early : UInt64) (millis : Nat) :
    n.consider (.ofNat millis) (n.consider early .begun) = .answered (n.shouldNotify millis) := rfl

/-- An attempt that nothing interrupts takes three steps. -/
def tryAcquire (n : Notifier) (millis : Nat) : Bool × Notifier :=
  let clock : UInt64 := .ofNat millis
  let timed := n.advance clock false .begun
  let loaded := timed.1.advance clock false timed.2
  let final := loaded.1.advance clock false loaded.2
  match final.2 with
  | .answered granted => (granted, final.1)
  | _ => (false, final.1)

end Notifier

end LintBridge
