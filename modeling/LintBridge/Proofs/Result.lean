/-!
# Results that may fail

Where a computation in steps gives a value, each of its steps does.
-/

set_option autoImplicit false

namespace LintBridge.Result

variable {ε δ α β : Type}

theorem bind_eq_ok_iff {x : Except ε α} {f : α → Except ε β} {b : β} :
    x.bind f = .ok b ↔ ∃ a, x = .ok a ∧ f a = .ok b := by
  cases x <;> simp [Except.bind]

theorem map_eq_ok_iff {x : Except ε α} {f : α → β} {b : β} :
    x.map f = .ok b ↔ ∃ a, x = .ok a ∧ f a = b := by
  cases x <;> simp [Except.map]

@[simp] theorem mapError_ok {f : ε → δ} (a : α) : (Except.ok a).mapError f = .ok a := rfl

@[simp] theorem mapError_error {f : ε → δ} (e : ε) :
    (Except.error e : Except ε α).mapError f = .error (f e) := rfl

theorem mapError_eq_ok_iff {x : Except ε α} {f : ε → δ} {a : α} :
    x.mapError f = .ok a ↔ x = .ok a := by
  cases x <;> simp

theorem eq_ok_of_toOption {x : Except ε α} {a : α} (given : x.toOption = some a) :
    x = .ok a := by
  cases x with
  | error e => cases given
  | ok b => exact congrArg _ (Option.some.inj given)

end LintBridge.Result
