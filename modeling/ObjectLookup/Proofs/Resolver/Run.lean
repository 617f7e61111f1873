import ObjectLookup.Resolver

/-! # Questions and runs

A resolver is asked four questions. `Resolver.ask` puts them into one function, and a run asks one
after the other, each of the resolver that the one before has left. Between two of them the rest of
the program may do anything to the session: other resolvers share it, and so do the users of
streams. The transcript of a run lists every question together with what it found and what came of
it.

What every question keeps, a run keeps (`run_keeps`), and every resolver that is asked in the run
has it (`resolver_of_mem_transcript`): every invariant of resolvers goes through these two.
Conversely, a property that is there at the end of a run and was not at its start came about in one
of its exchanges (`exists_mem_transcript_of_run`).
-/

namespace ObjectLookup

inductive Question where
  | location | checkAccess | resolveFormat | openStream
deriving DecidableEq, Repr

/-- The answer to a question. -/
inductive Reply (σ : Type) where
  | located (l : Location)
  | accessible
  | recognised (f : Format)
  | opened (source : ContentSource σ)

/-- The failure that a result is, if it is one. -/
def Failure.ofResult? {α : Type} : Except Failure α → Option Failure
  | .error e => some e
  | .ok _ => none

@[simp] theorem Failure.ofResult?_error {α : Type} (e : Failure) :
    Failure.ofResult? (.error e : Except Failure α) = some e := rfl
@[simp] theorem Failure.ofResult?_ok {α : Type} (a : α) :
    Failure.ofResult? (.ok a : Except Failure α) = none := rfl

@[simp] theorem Failure.ofResult?_map {α β : Type} (f : α → β) (x : Except Failure α) :
    Failure.ofResult? (x.map f) = Failure.ofResult? x := by cases x <;> rfl

theorem Failure.ofResult?_eq_some {α : Type} {x : Except Failure α} {e : Failure} :
    Failure.ofResult? x = some e ↔ x = .error e := by cases x <;> simp

/-- The step with its result under a function. -/
def Step.map {ρ σ α β : Type} (f : α → β) (step : Step ρ σ α) : Step ρ σ β :=
  ⟨step.result.map f, step.self, step.session⟩

@[simp] theorem Step.result_map {ρ σ α β : Type} (f : α → β) (step : Step ρ σ α) :
    (step.map f).result = step.result.map f := rfl
@[simp] theorem Step.self_map {ρ σ α β : Type} (f : α → β) (step : Step ρ σ α) :
    (step.map f).self = step.self := rfl
@[simp] theorem Step.session_map {ρ σ α β : Type} (f : α → β) (step : Step ρ σ α) :
    (step.map f).session = step.session := rfl

theorem Step.exists_of_map_eq_ok {ρ σ α β : Type} {f : α → β} {step : Step ρ σ α} {b : β}
    (h : (step.map f).result = .ok b) : ∃ a, step.result = .ok a ∧ f a = b := by
  rcases step with ⟨e | a, self, session⟩
  · cases h
  · cases h
    exact ⟨a, rfl, rfl⟩

variable {σ : Type}

/-- A question, and what becomes of the session before it is asked. -/
structure Turn (σ : Type) where
  question : Question
  meanwhile : Session σ → Session σ := id

/-- A question that was asked: of which resolver, in which session, and what came of it. -/
structure Exchange (σ : Type) where
  question : Question
  resolver : Resolver σ
  session : Session σ
  step : Step (Resolver σ) σ (Reply σ)

namespace Resolver

/-- Asks a question. -/
def ask (host : Host σ) (r : Resolver σ) (q : Question) (s : Session σ) :
    Step (Resolver σ) σ (Reply σ) :=
  match q with
  | .location => (r.location host s).map .located
  | .checkAccess => (r.checkAccess host s).map fun () ↦ .accessible
  | .resolveFormat => (r.resolveFormat host s).map .recognised
  | .openStream => (r.openStream host s).map .opened

/-- Asks the question of a turn. -/
def exchange (host : Host σ) (r : Resolver σ) (s : Session σ) (t : Turn σ) : Exchange σ :=
  ⟨t.question, r, t.meanwhile s, r.ask host t.question (t.meanwhile s)⟩

/-- Takes turns one after the other; returns what they leave. -/
def run (host : Host σ) (r : Resolver σ) (s : Session σ) :
    List (Turn σ) → Resolver σ × Session σ
  | [] => (r, s)
  | t :: ts =>
    let step := (r.exchange host s t).step
    run host step.self step.session ts

/-- What is said in a run, in order. -/
def transcript (host : Host σ) (r : Resolver σ) (s : Session σ) :
    List (Turn σ) → List (Exchange σ)
  | [] => []
  | t :: ts =>
    let x := r.exchange host s t
    x :: transcript host x.step.self x.step.session ts

/-- The resolver as it was made, before it had anything to remember. A strategy that it was given
stays, and so do the settings and the delegate that it would select one from. -/
def forget (r : Resolver σ) : Resolver σ :=
  { r with resolved := none, recognised := none, failure := none }

@[simp] theorem resolved_forget (r : Resolver σ) : r.forget.resolved = none := rfl
@[simp] theorem recognised_forget (r : Resolver σ) : r.forget.recognised = none := rfl
@[simp] theorem failure_forget (r : Resolver σ) : r.forget.failure = none := rfl

section Induction

variable {host : Host σ}

/-- What every question keeps, a run keeps. -/
theorem run_keeps {P : Resolver σ → Prop} (hP : ∀ r q s, P r → P (r.ask host q s).self)
    {r : Resolver σ} (hr : P r) (s : Session σ) (ts : List (Turn σ)) :
    P (r.run host s ts).1 := by
  induction ts generalizing r s with
  | nil => exact hr
  | cons t ts ih => exact ih (hP r t.question (t.meanwhile s) hr) _

/-- What every question keeps holds of every resolver that is asked in a run. -/
theorem resolver_of_mem_transcript {P : Resolver σ → Prop}
    (hP : ∀ r q s, P r → P (r.ask host q s).self) {r : Resolver σ} (hr : P r) {s : Session σ}
    {ts : List (Turn σ)} {x : Exchange σ} (hx : x ∈ r.transcript host s ts) : P x.resolver := by
  induction ts generalizing r s with
  | nil => cases hx
  | cons t ts ih =>
      rcases List.mem_cons.1 hx with rfl | hx
      · exact hr
      · exact ih (hP r t.question (t.meanwhile s) hr) hx

/-- An exchange of a run is what asking comes to. -/
theorem step_of_mem_transcript {r : Resolver σ} {s : Session σ} {ts : List (Turn σ)}
    {x : Exchange σ} (hx : x ∈ r.transcript host s ts) :
    x.step = x.resolver.ask host x.question x.session := by
  induction ts generalizing r s with
  | nil => cases hx
  | cons t ts ih =>
      rcases List.mem_cons.1 hx with rfl | hx
      · rfl
      · exact ih hx

/-- A property that questions keep and that one exchange of a run leaves is there in the end. -/
theorem run_of_mem_transcript {P : Resolver σ → Prop}
    (hP : ∀ r q s, P r → P (r.ask host q s).self) {r : Resolver σ} {s : Session σ}
    {ts : List (Turn σ)} {x : Exchange σ} (hx : x ∈ r.transcript host s ts)
    (h : P x.step.self) : P (r.run host s ts).1 := by
  induction ts generalizing r s with
  | nil => cases hx
  | cons t ts ih =>
      rcases List.mem_cons.1 hx with rfl | hx
      · exact run_keeps hP h _ ts
      · exact ih hx

/-- A property that is there at the end of a run, and was not at its start, came about in one of
its exchanges. -/
theorem exists_mem_transcript_of_run {P : Resolver σ → Prop} {r : Resolver σ} (hr : ¬ P r)
    {s : Session σ} {ts : List (Turn σ)} (h : P (r.run host s ts).1) :
    ∃ x ∈ r.transcript host s ts, ¬ P x.resolver ∧ P x.step.self := by
  induction ts generalizing r s with
  | nil => exact absurd h hr
  | cons t ts ih =>
      by_cases ht : P (r.exchange host s t).step.self
      · exact ⟨_, List.mem_cons_self, hr, ht⟩
      · obtain ⟨x, hx, hx'⟩ := ih ht h
        exact ⟨x, List.mem_cons_of_mem _ hx, hx'⟩

end Induction

end Resolver

end ObjectLookup
