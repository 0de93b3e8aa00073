/-!
# Log

What the program tells about its work: entries of four levels, in order.  A
computation of type `Logged α` is a value with the entries made on the way to it.
-/

set_option autoImplicit false

namespace LintBridge

inductive Level where
  | debug
  | info
  | warn
  | error
  deriving DecidableEq, Repr

namespace Level

def name : Level → String
  | .debug => "debug"
  | .info => "info"
  | .warn => "warn"
  | .error => "error"

end Level

structure LogEntry where
  level : Level
  text : String
  deriving DecidableEq, Repr

/-- A value and the log of finding it. -/
structure Logged (α : Type) where
  value : α
  log : List LogEntry

namespace Logged

variable {α β : Type}

instance : Monad Logged where
  pure a := ⟨a, []⟩
  bind m f := ⟨(f m.value).value, m.log ++ (f m.value).log⟩

@[simp] theorem value_pure (a : α) : (pure a : Logged α).value = a := rfl

@[simp] theorem log_pure (a : α) : (pure a : Logged α).log = [] := rfl

@[simp] theorem value_bind (m : Logged α) (f : α → Logged β) :
    (m >>= f).value = (f m.value).value := rfl

@[simp] theorem log_bind (m : Logged α) (f : α → Logged β) :
    (m >>= f).log = m.log ++ (f m.value).log := rfl

def note (level : Level) (text : String) : Logged Unit :=
  ⟨(), [⟨level, text⟩]⟩

end Logged

end LintBridge
