import LintBridge.Host.Job

/-!
# What a job says to the host

The requests of a run and their replies, in order.  `Asks P` says that a job makes only
requests of one kind, whatever it is told; then so does each of its runs.  `Ends Q` says the
same of its value.
-/

set_option autoImplicit false

namespace LintBridge

structure Exchange where
  request : Request
  reply : request.Reply

namespace Request

def startsProcess : Request → Bool
  | launch _ _ => true
  | _ => false

def createsFile : Request → Bool
  | createCopy _ _ _ => true
  | _ => false

end Request

namespace Job

variable {α β σ : Type}

/-- The requests of a run with their replies, in order. -/
def talk (serve : Server σ) : Job α → σ → List Exchange
  | done _, _ => []
  | ask r next, s =>
      let answer := serve r s
      ⟨r, answer.1⟩ :: (next answer.1).talk serve answer.2

theorem bind_eq_andThen (job : Job α) (f : α → Job β) : job >>= f = job.andThen f := rfl

theorem andThen_assoc {γ : Type} (job : Job α) (f : α → Job β) (g : β → Job γ) :
    (job.andThen f).andThen g = job.andThen fun a => (f a).andThen g := by
  induction job with
  | done a => rfl
  | ask r next ih => exact congrArg (ask r) (funext fun reply => ih reply)

theorem andThen_done (job : Job α) : job.andThen done = job := by
  induction job with
  | done a => rfl
  | ask r next ih => exact congrArg (ask r) (funext fun reply => ih reply)

@[simp] theorem run_pure (serve : Server σ) (a : α) (s : σ) :
    (pure a : Job α).run serve s = (a, s) := rfl

theorem talk_andThen (serve : Server σ) (job : Job α) (f : α → Job β) (s : σ) :
    (job.andThen f).talk serve s
      = job.talk serve s ++ (f (job.run serve s).1).talk serve (job.run serve s).2 := by
  induction job generalizing s with
  | done a => rfl
  | ask r next ih => exact congrArg (_ :: ·) (ih _ _)

/-! ## Jobs whose value is changed -/

/-- The same job, with something made of its value. -/
def map (f : α → β) (job : Job α) : Job β :=
  job.andThen fun a => done (f a)

theorem map_andThen {γ : Type} (job : Job α) (f : α → β) (g : β → Job γ) :
    (job.map f).andThen g = job.andThen fun a => g (f a) :=
  andThen_assoc job _ g

theorem andThen_map {γ : Type} (job : Job α) (f : α → Job β) (g : β → γ) :
    (job.andThen f).map g = job.andThen fun a => (f a).map g :=
  andThen_assoc job f _

theorem run_map (serve : Server σ) (job : Job α) (f : α → β) (s : σ) :
    (job.map f).run serve s = (f (job.run serve s).1, (job.run serve s).2) :=
  run_andThen serve job _ s

theorem talk_map (serve : Server σ) (job : Job α) (f : α → β) (s : σ) :
    (job.map f).talk serve s = job.talk serve s := by
  rw [map, talk_andThen]
  exact List.append_nil _

/-! ## Jobs that make only some requests -/

/-- Every request that the job may make is of a kind. -/
def Asks (P : Request → Prop) : Job α → Prop
  | done _ => True
  | ask r next => P r ∧ ∀ reply, (next reply).Asks P

variable {P Q : Request → Prop}

theorem Asks.andThen {job : Job α} {f : α → Job β} (first : job.Asks P)
    (later : ∀ a, (f a).Asks P) : (job.andThen f).Asks P := by
  induction job with
  | done a => exact later a
  | ask r next ih => exact ⟨first.1, fun reply => ih reply (first.2 reply)⟩

theorem Asks.mono {job : Job α} (asks : job.Asks P) (weaker : ∀ r, P r → Q r) :
    job.Asks Q := by
  induction job with
  | done a => trivial
  | ask r next ih => exact ⟨weaker r asks.1, fun reply => ih reply (asks.2 reply)⟩

theorem asks_request {r : Request} (holds : P r) : (request r).Asks P :=
  ⟨holds, fun _ => trivial⟩

theorem Asks.of_mem_talk {job : Job α} (asks : job.Asks P) (serve : Server σ) (s : σ)
    {exchange : Exchange} (member : exchange ∈ job.talk serve s) : P exchange.request := by
  induction job generalizing s with
  | done a => cases member
  | ask r next ih =>
      rcases List.mem_cons.mp member with rfl | member
      · exact asks.1
      · exact ih _ (asks.2 _) _ member

/-! ## Jobs that end in some values -/

/-- Whatever the job is told, it ends in a value as told. -/
def Ends (Q : α → Prop) : Job α → Prop
  | done a => Q a
  | ask r next => ∀ reply : r.Reply, (next reply).Ends Q

section

variable {Q : α → Prop} {R : β → Prop}

theorem Ends.andThen {job : Job α} {f : α → Job β} (first : job.Ends Q)
    (later : ∀ a, Q a → (f a).Ends R) : (job.andThen f).Ends R := by
  induction job with
  | done a => exact later a first
  | ask r next ih => exact fun reply => ih reply (first reply)

theorem Ends.mono {Q' : α → Prop} {job : Job α} (ends : job.Ends Q)
    (weaker : ∀ a, Q a → Q' a) : job.Ends Q' := by
  induction job with
  | done a => exact weaker a ends
  | ask r next ih => exact fun reply => ih reply (ends reply)

theorem Ends.of_forall (always : ∀ a, Q a) (job : Job α) : job.Ends Q := by
  induction job with
  | done a => exact always a
  | ask r next ih => exact fun reply => ih reply

theorem Ends.andThen_congr {job : Job α} {f g : α → Job β} (ends : job.Ends Q)
    (same : ∀ a, Q a → f a = g a) : job.andThen f = job.andThen g := by
  induction job with
  | done a => exact same a ends
  | ask r next ih => exact congrArg (ask r) (funext fun reply => ih reply (ends reply))

theorem Ends.value {job : Job α} (ends : job.Ends Q) (serve : Server σ) (s : σ) :
    Q (job.run serve s).1 := by
  induction job generalizing s with
  | done a => exact ends
  | ask r next ih => exact ih _ (ends _) _

end

/-! ## Runs of processes -/

/-- The attempts to start a process among a series of exchanges. -/
def starts (talk : List Exchange) : List Exchange :=
  talk.filter (·.request.startsProcess)

theorem starts_append (before after : List Exchange) :
    starts (before ++ after) = starts before ++ starts after :=
  List.filter_append ..

theorem starts_eq_nil_iff (talk : List Exchange) :
    starts talk = [] ↔ ∀ exchange ∈ talk, exchange.request.startsProcess = false := by
  simp [starts, List.filter_eq_nil_iff]

theorem starts_of_asks {job : Job α} (asks : job.Asks (·.startsProcess = false))
    (serve : Server σ) (s : σ) : starts (job.talk serve s) = [] :=
  (starts_eq_nil_iff _).mpr fun _ member => asks.of_mem_talk serve s member

/-- A run that tries to start one process, and whose value the reply to that decides. -/
def Launches (serve : Server σ) (s : σ) (job : Job α) (command : CommandLine) (budget : Nat)
    (value : Except OsError Observation → α) : Prop :=
  ∃ reply : Except OsError Observation,
    starts (job.talk serve s) = [⟨.launch command budget, reply⟩]
      ∧ (job.run serve s).1 = value reply

variable {serve : Server σ} {s : σ} {command : CommandLine} {budget : Nat}

theorem launches_launch : Launches serve s (launch command budget) command budget id :=
  ⟨(serve (.launch command budget) s).1, rfl, rfl⟩

theorem Launches.behind {first : Job α} {f : α → Job β}
    {value : Except OsError Observation → β} (quiet : first.Asks (·.startsProcess = false))
    (launches : Launches serve (first.run serve s).2 (f (first.run serve s).1) command budget
      value) :
    Launches serve s (first.andThen f) command budget value := by
  obtain ⟨reply, once, same⟩ := launches
  refine ⟨reply, ?_, ?_⟩
  · rw [talk_andThen, starts_append, starts_of_asks quiet, List.nil_append, once]
  · rw [run_andThen, same]

theorem Launches.andThen {job : Job α} {f : α → Job β}
    {value : Except OsError Observation → α}
    (launches : Launches serve s job command budget value) (result : α → β)
    (quiet : ∀ a, (f a).Asks (·.startsProcess = false))
    (gives : ∀ a s, ((f a).run serve s).1 = result a) :
    Launches serve s (job.andThen f) command budget fun reply => result (value reply) := by
  obtain ⟨reply, once, same⟩ := launches
  refine ⟨reply, ?_, ?_⟩
  · rw [talk_andThen, starts_append, starts_of_asks (quiet _), List.append_nil, once]
  · rw [run_andThen, gives, same]

end Job

end LintBridge
