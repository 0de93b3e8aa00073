import Mathlib.Logic.Function.Basic
import LintBridge.Proofs.Host.Talk

/-!
# Protocols

A protocol says what a job may ask after what it has been told.  Whether a job keeps to
one is a matter of its requests alone, for all replies.  On a host, an invariant that the
allowed requests preserve then holds all along the run of a job, and along any
interleaving of jobs that keep to a protocol each.
-/

set_option autoImplicit false

namespace LintBridge

/-- What may be asked in a state, and the state that a reply leads to. -/
structure Protocol (γ : Type) where
  allows : γ → Request → Prop
  after : γ → (r : Request) → r.Reply → γ

/-- One request to a host, its reply, and the host before and after it. -/
structure Passage (σ : Type) where
  before : σ
  request : Request
  reply : request.Reply
  after : σ

/-- A passage of the job at a place. -/
structure Event (σ : Type) where
  place : Nat
  passage : Passage σ

namespace Job

variable {α β γ σ : Type}

/-! ## Keeping to a protocol -/

/-- The job asks what is allowed, and ends in a state and with a value as told. -/
def Keeps (P : Protocol γ) (ends : γ → α → Prop) : Job α → γ → Prop
  | done a, g => ends g a
  | ask r next, g => P.allows g r ∧ ∀ reply, (next reply).Keeps P ends (P.after g r reply)

section

variable {P : Protocol γ} {ends : γ → α → Prop} {g : γ}

theorem Keeps.mono {ends' : γ → α → Prop} {job : Job α} (keeps : job.Keeps P ends g)
    (weaker : ∀ g a, ends g a → ends' g a) : job.Keeps P ends' g := by
  induction job generalizing g with
  | done a => exact weaker g a keeps
  | ask r next ih => exact ⟨keeps.1, fun reply => ih reply (keeps.2 reply)⟩

theorem Keeps.andThen {ends' : γ → β → Prop} {job : Job α} {f : α → Job β}
    (first : job.Keeps P ends g) (later : ∀ g a, ends g a → (f a).Keeps P ends' g) :
    (job.andThen f).Keeps P ends' g := by
  induction job generalizing g with
  | done a => exact later g a first
  | ask r next ih => exact ⟨first.1, fun reply => ih reply (first.2 reply)⟩

theorem Asks.keeps {R : Request → Prop} {job : Job α} (asks : job.Asks R)
    (idle : ∀ r, R r → P.allows g r ∧ ∀ reply, P.after g r reply = g) :
    job.Keeps P (fun g' _ => g' = g) g := by
  induction job with
  | done a => rfl
  | ask r next ih =>
      refine ⟨(idle r asks.1).1, fun reply => ?_⟩
      rw [(idle r asks.1).2 reply]
      exact ih reply (asks.2 reply)

end

/-! ## The passages of a run -/

/-- A request as the host answers it. -/
def pass (serve : Server σ) (s : σ) (r : Request) : Passage σ :=
  ⟨s, r, (serve r s).1, (serve r s).2⟩

/-- The passages of a run, in order. -/
def course (serve : Server σ) : Job α → σ → List (Passage σ)
  | done _, _ => []
  | ask r next, s => pass serve s r :: (next (serve r s).1).course serve (serve r s).2

theorem Keeps.run {P : Protocol γ} {ends : γ → α → Prop} {serve : Server σ}
    {Inv : γ → List (Passage σ) → σ → Prop} {whole : List (Passage σ)}
    (step : ∀ g past s r, Inv g past s → P.allows g r → pass serve s r ∈ whole →
      Inv (P.after g r (serve r s).1) (past ++ [pass serve s r]) (serve r s).2)
    {job : Job α} {g : γ} {past : List (Passage σ)} {s : σ} (keeps : job.Keeps P ends g)
    (holds : Inv g past s) (inside : ∀ p ∈ job.course serve s, p ∈ whole) :
    ∃ g', ends g' (job.run serve s).1 ∧
      Inv g' (past ++ job.course serve s) (job.run serve s).2 := by
  induction job generalizing g past s with
  | done a => exact ⟨g, keeps, by simpa [course, run] using holds⟩
  | ask r next ih =>
      have first := step g past s r holds keeps.1 (inside _ List.mem_cons_self)
      have rest := ih _ (keeps.2 _) first fun p member => inside p (List.mem_cons_of_mem _ member)
      rw [List.append_assoc] at rest
      exact rest

/-! ## The events of an interleaving -/

/-- What happens where the job at a place makes its next request. -/
def eventAt (serve : Server σ) (jobs : List (Job α)) (place : Nat) (s : σ) : List (Event σ) :=
  match jobs[place]? with
  | some (ask r _) => [⟨place, pass serve s r⟩]
  | _ => []

/-- The events of jobs side by side, in order. -/
def events (serve : Server σ) : List (Job α) → List Nat → σ → List (Event σ)
  | _, [], _ => []
  | jobs, place :: schedule, s =>
      let next := advanceAt serve jobs place s
      eventAt serve jobs place s ++ events serve next.1 schedule next.2

theorem advanceAt_of_ask (serve : Server σ) {jobs : List (Job α)} {place : Nat} (s : σ)
    {r : Request} {next : r.Reply → Job α} (asks : jobs[place]? = some (ask r next)) :
    advanceAt serve jobs place s = (jobs.set place (next (serve r s).1), (serve r s).2) := by
  induction jobs generalizing place with
  | nil => cases asks
  | cons job rest ih =>
      cases place with
      | zero =>
          cases asks
          rfl
      | succ place =>
          have later := ih (show rest[place]? = some (ask r next) by simpa using asks)
          simp [advanceAt, later]

theorem advanceAt_of_idle (serve : Server σ) {jobs : List (Job α)} {place : Nat} (s : σ)
    (idle : ∀ r next, jobs[place]? ≠ some (ask r next)) :
    advanceAt serve jobs place s = (jobs, s) := by
  induction jobs generalizing place with
  | nil => rfl
  | cons job rest ih =>
      cases place with
      | zero =>
          cases job with
          | done a => rfl
          | ask r next => exact absurd rfl (idle r next)
      | succ place =>
          have later := ih (show ∀ r next, rest[place]? ≠ some (ask r next) by simpa using idle)
          simp [advanceAt, later]

/-- What the allowed events preserve holds all along an interleaving. -/
theorem events_keep {P : Nat → Protocol γ} {ends : γ → α → Prop} {serve : Server σ}
    {Inv : (Nat → γ) → List (Event σ) → σ → Prop} {Good : List (Event σ) → Event σ → Prop}
    {whole : List (Event σ)}
    (step : ∀ states past s place r, Inv states past s → (P place).allows (states place) r →
      ⟨place, pass serve s r⟩ ∈ whole →
        Good past ⟨place, pass serve s r⟩ ∧
          Inv (Function.update states place ((P place).after (states place) r (serve r s).1))
            (past ++ [⟨place, pass serve s r⟩]) (serve r s).2)
    {jobs : List (Job α)} {schedule : List Nat} {states : Nat → γ} {past : List (Event σ)} {s : σ}
    (keeps : ∀ (place : Nat) (job : Job α), jobs[place]? = some job →
      job.Keeps (P place) ends (states place))
    (holds : Inv states past s) (inside : ∀ e ∈ events serve jobs schedule s, e ∈ whole)
    {before after : List (Event σ)} {event : Event σ}
    (split : events serve jobs schedule s = before ++ event :: after) :
    Good (past ++ before) event := by
  induction schedule generalizing jobs states past s before with
  | nil => simp [events] at split
  | cons place schedule ih =>
      by_cases busy : ∃ r next, jobs[place]? = some (ask r next)
      · obtain ⟨r, next, asks⟩ := busy
        have here : eventAt serve jobs place s = [⟨place, pass serve s r⟩] := by
          simp [eventAt, asks]
        have moved := advanceAt_of_ask serve s asks
        rw [events, here, moved, List.singleton_append] at split inside
        have kept := keeps place _ asks
        obtain ⟨good, next_holds⟩ := step states past s place r holds kept.1
          (inside _ List.mem_cons_self)
        cases before with
        | nil =>
            obtain ⟨same, -⟩ := List.cons_eq_cons.1 split
            rw [List.append_nil, ← same]
            exact good
        | cons first before =>
            obtain ⟨same, split⟩ := List.cons_eq_cons.1 split
            -- The job that moved goes on from its next state, the others are where they were.
            have keeps_next : ∀ (other : Nat) (job : Job α),
                (jobs.set place (next (serve r s).1))[other]? = some job →
                job.Keeps (P other) ends (Function.update states place
                  ((P place).after (states place) r (serve r s).1) other) := by
              intro other job found
              rw [List.getElem?_set] at found
              split at found
              next here =>
                subst here
                have value : next (serve r s).1 = job := by
                  split at found
                  · exact Option.some.inj found
                  · cases found
                rw [Function.update_self, ← value]
                exact kept.2 _
              next elsewhere =>
                rw [Function.update_of_ne (Ne.symm elsewhere)]
                exact keeps other job found
            have later := ih keeps_next next_holds
              (fun e member => inside e (List.mem_cons_of_mem _ member)) split
            rw [← same]
            simpa using later
      · have idle : ∀ r next, jobs[place]? ≠ some (ask r next) :=
          fun r next asks => busy ⟨r, next, asks⟩
        have here : eventAt serve jobs place s = [] := by
          unfold eventAt
          split
          next r next asks => exact absurd asks (idle r next)
          next => rfl
        rw [events, here, advanceAt_of_idle serve s idle, List.nil_append] at split inside
        exact ih keeps holds inside split

end Job

end LintBridge
