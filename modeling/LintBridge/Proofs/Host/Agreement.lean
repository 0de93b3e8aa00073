import LintBridge.Machine.Server
import LintBridge.Proofs.Host.Talk

/-!
# Hosts that agree

Two hosts may differ in what they have logged and in the time, and still have the same files
and the same linter.  `Matching` says what is asked of a relation between their states for
that.  A job that only inspects files and starts the linter then ends in the same value on
both, and leaves them related.
-/

set_option autoImplicit false

namespace LintBridge

namespace Request

/-- The request leaves the files as they are, and they alone decide the reply. -/
def Inspects : Request → Prop
  | log _ | currentDirectory | read _ | kind _ | canonical _ => True
  | _ => False

/-- The request leaves the files as they are. -/
def Idles : Request → Prop
  | clock => True
  | r => r.Inspects

/-- The request inspects files or starts the linter. -/
def Lints : Request → Prop
  | launch _ _ => True
  | r => r.Inspects

theorem Inspects.idles {r : Request} (inspects : r.Inspects) : r.Idles := by
  cases r <;> first | exact trivial | exact inspects

theorem Inspects.lints {r : Request} (inspects : r.Inspects) : r.Lints := by
  cases r <;> first | exact trivial | exact inspects

end Request

namespace Job

variable {α σ τ : Type}

theorem Asks.idles {job : Job α} (asks : job.Asks Request.Inspects) : job.Asks Request.Idles :=
  asks.mono fun _ inspects => inspects.idles

theorem Asks.lints {job : Job α} (asks : job.Asks Request.Inspects) : job.Asks Request.Lints :=
  asks.mono fun _ inspects => inspects.lints

/-- Related states have the same files and the same linter. -/
structure Matching (serve : Server σ) (serve' : Server τ) (R : σ → τ → Prop) : Prop where
  same : ∀ {s t} (r : Request), R s t → r.Inspects → (serve r s).1 = (serve' r t).1
  left : ∀ {s t} (r : Request), R s t → r.Idles → R (serve r s).2 t
  right : ∀ {s t} (r : Request), R s t → r.Idles → R s (serve' r t).2
  linter : ∀ {s t} (command : CommandLine) (budget : Nat), R s t →
    (serve (.launch command budget) s).1 = (serve' (.launch command budget) t).1
      ∧ R (serve (.launch command budget) s).2 (serve' (.launch command budget) t).2

namespace Matching

variable {serve : Server σ} {serve' : Server τ} {R : σ → τ → Prop}

theorem step (matching : Matching serve serve' R) {s : σ} {t : τ} (related : R s t) {r : Request}
    (lints : r.Lints) : (serve r s).1 = (serve' r t).1 ∧ R (serve r s).2 (serve' r t).2 := by
  have inspected : r.Inspects →
      (serve r s).1 = (serve' r t).1 ∧ R (serve r s).2 (serve' r t).2 := by
    intro inspects
    refine ⟨matching.same r related inspects, ?_⟩
    exact matching.right r (matching.left r related inspects.idles) inspects.idles
  cases r with
  | launch command budget => exact matching.linter command budget related
  | _ => exact inspected lints

/-- A run that only inspects files and starts the linter goes the same way on both hosts. -/
theorem run_of_talk (matching : Matching serve serve' R) {job : Job α} {s : σ} {t : τ}
    (related : R s t) (lints : ∀ exchange ∈ job.talk serve s, exchange.request.Lints) :
    (job.run serve s).1 = (job.run serve' t).1 ∧ R (job.run serve s).2 (job.run serve' t).2 := by
  induction job generalizing s t with
  | done a => exact ⟨rfl, related⟩
  | ask r next ih =>
      obtain ⟨first, later⟩ := List.forall_mem_cons.mp lints
      obtain ⟨reply, further⟩ := matching.step related first
      have rest := ih _ further later
      simp only [run]
      rw [← reply]
      exact rest

theorem run (matching : Matching serve serve' R) {job : Job α} {s : σ} {t : τ}
    (related : R s t) (asks : job.Asks Request.Lints) :
    (job.run serve s).1 = (job.run serve' t).1 ∧ R (job.run serve s).2 (job.run serve' t).2 :=
  matching.run_of_talk related fun _ member => asks.of_mem_talk serve s member

theorem run_left (matching : Matching serve serve' R) {job : Job α} {s : σ} {t : τ}
    (related : R s t) (asks : job.Asks Request.Idles) : R (job.run serve s).2 t := by
  induction job generalizing s with
  | done a => exact related
  | ask r next ih => exact ih _ (matching.left r related asks.1) (asks.2 _)

theorem run_right (matching : Matching serve serve' R) {job : Job α} {s : σ} {t : τ}
    (related : R s t) (asks : job.Asks Request.Idles) : R s (job.run serve' t).2 := by
  induction job generalizing t with
  | done a => exact related
  | ask r next ih => exact ih _ (matching.right r related asks.1) (asks.2 _)

end Matching

end Job

/-! ## Machines -/

namespace Machine

/-- The same files, seen from the same directory. -/
def SameFiles (m n : Machine) : Prop :=
  m.tree = n.tree ∧ m.current = n.current

theorem matching_sameFiles (launch : Launcher) :
    Job.Matching (serveWith launch) (serveWith launch) SameFiles := by
  constructor
  · rintro m n r ⟨tree, current⟩ inspects
    cases r <;> first
      | exact inspects.elim
      | (simp only [serveWith, tree, current]; rfl)
  · rintro m n r ⟨tree, current⟩ idles
    cases r <;> first
      | exact idles.elim
      | exact ⟨tree, current⟩
  · rintro m n r ⟨tree, current⟩ idles
    cases r <;> first
      | exact idles.elim
      | exact ⟨tree, current⟩
  · rintro m n command budget ⟨tree, current⟩
    simp only [serveWith, tree, current]
    cases launch n.tree n.current command budget with
    | error e => exact ⟨rfl, tree, current⟩
    | ok seen => exact ⟨rfl, rfl, rfl⟩

end Machine

end LintBridge
