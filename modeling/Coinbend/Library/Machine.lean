import Mathlib.Data.List.Basic

/-!
# Event machines

A system is a function that takes a state and an event to the next state.  A
run feeds it a list of events.  The rules here lift facts about one step to
runs: an invariant that the allowed steps keep holds in every state of a run
of allowed steps, and events that leave the state as it is can be inserted
into a run anywhere.
-/

namespace Machine

variable {σ ε : Type} (step : σ → ε → σ)

/-- The state after a list of events. -/
def run (state : σ) (events : List ε) : σ :=
  events.foldl step state

@[simp] theorem run_nil (state : σ) : run step state [] = state := rfl

@[simp] theorem run_cons (state : σ) (event : ε) (events : List ε) :
    run step state (event :: events) =
      run step (step state event) events := rfl

theorem run_append (state : σ) (first second : List ε) :
    run step state (first ++ second) =
      run step (run step state first) second :=
  List.foldl_append

/-- Every event of a run is allowed in the state it meets. -/
def Allowed (allowed : σ → ε → Prop) (state : σ) : List ε → Prop
  | [] => True
  | event :: events =>
      allowed state event ∧ Allowed allowed (step state event) events

instance Allowed.decidable
    {allowed : σ → ε → Prop}
    [∀ state event, Decidable (allowed state event)] :
    (state : σ) → (events : List ε) →
      Decidable (Allowed step allowed state events)
  | _, [] => isTrue trivial
  | state, event :: events =>
      @instDecidableAnd _ _ inferInstance
        (Allowed.decidable (step state event) events)

/-- A condition on steps may be weakened, also by what the events of the run
are. -/
theorem Allowed.mono
    {first second : σ → ε → Prop}
    {state : σ}
    {events : List ε}
    (implies : ∀ state, ∀ event ∈ events,
      first state event → second state event)
    (run_allowed : Allowed step first state events) :
    Allowed step second state events := by
  induction events generalizing state with
  | nil => trivial
  | cons event events inductionHypothesis =>
      refine ⟨implies state event List.mem_cons_self run_allowed.1, ?_⟩
      exact inductionHypothesis
        (fun state other mem =>
          implies state other (List.mem_cons_of_mem _ mem))
        run_allowed.2

/-- A condition that every step meets. -/
theorem Allowed.always
    {allowed : σ → ε → Prop}
    (holds : ∀ state event, allowed state event)
    (state : σ)
    (events : List ε) :
    Allowed step allowed state events := by
  induction events generalizing state with
  | nil => trivial
  | cons event events inductionHypothesis =>
      exact ⟨holds state event, inductionHypothesis _⟩

/-- What allowed steps keep holds after a run of allowed steps. -/
theorem invariant_run
    {allowed : σ → ε → Prop}
    {Invariant : σ → Prop}
    (keeps : ∀ state event,
      Invariant state → allowed state event → Invariant (step state event))
    {state : σ}
    {events : List ε}
    (initially : Invariant state)
    (run_allowed : Allowed step allowed state events) :
    Invariant (run step state events) := by
  induction events generalizing state with
  | nil => exact initially
  | cons event events inductionHypothesis =>
      apply inductionHypothesis
      · exact keeps state event initially run_allowed.1
      · exact run_allowed.2

/-- What every step keeps holds after every run. -/
theorem invariant_always
    {Invariant : σ → Prop}
    (keeps : ∀ state event, Invariant state → Invariant (step state event))
    {state : σ}
    (initially : Invariant state)
    (events : List ε) :
    Invariant (run step state events) := by
  induction events generalizing state with
  | nil => exact initially
  | cons event events inductionHypothesis =>
      exact inductionHypothesis (keeps state event initially)

/-- What an allowed step from a state with an invariant does holds of every
step of a run. -/
theorem allowed_of_invariant
    {allowed conclusion : σ → ε → Prop}
    {Invariant : σ → Prop}
    (keeps : ∀ state event,
      Invariant state → allowed state event →
        Invariant (step state event) ∧ conclusion state event)
    {state : σ}
    {events : List ε}
    (initially : Invariant state)
    (run_allowed : Allowed step allowed state events) :
    Allowed step conclusion state events := by
  induction events generalizing state with
  | nil => trivial
  | cons event events inductionHypothesis =>
      obtain ⟨first, rest⟩ := run_allowed
      obtain ⟨kept, concluded⟩ := keeps state event initially first
      exact ⟨concluded, inductionHypothesis kept rest⟩

/-- Two conditions on steps that agree under an invariant are met by the same
runs. -/
theorem allowed_iff_of_invariant
    {first second : σ → ε → Prop}
    {Invariant : σ → Prop}
    (agree : ∀ state event,
      Invariant state → (first state event ↔ second state event))
    (keeps : ∀ state event,
      Invariant state → second state event → Invariant (step state event))
    {state : σ}
    (initially : Invariant state)
    (events : List ε) :
    Allowed step first state events ↔ Allowed step second state events := by
  induction events generalizing state with
  | nil => exact Iff.rfl
  | cons event events inductionHypothesis =>
      have here := agree state event initially
      constructor
      · rintro ⟨now, later⟩
        have kept := keeps state event initially (here.mp now)
        exact ⟨here.mp now, (inductionHypothesis kept).mp later⟩
      · rintro ⟨now, later⟩
        have kept := keeps state event initially now
        exact ⟨here.mpr now, (inductionHypothesis kept).mpr later⟩

/-- The second list of events is the first one with inert events inserted. -/
inductive Inserted (inert : σ → ε → Prop) : σ → List ε → List ε → Prop
  | nil (state : σ) : Inserted inert state [] []
  | keep {state : σ} {event : ε} {events longer : List ε}
      (rest : Inserted inert (step state event) events longer) :
      Inserted inert state (event :: events) (event :: longer)
  | insert {state : σ} {event : ε} {events longer : List ε}
      (isInert : inert state event)
      (rest : Inserted inert state events longer) :
      Inserted inert state events (event :: longer)

/-- Inserted events that leave the state as it is do not show in the final
state. -/
theorem run_inserted
    {inert : σ → ε → Prop}
    (unchanged : ∀ state event, inert state event → step state event = state)
    {state : σ}
    {events longer : List ε}
    (inserted : Inserted step inert state events longer) :
    run step state longer = run step state events := by
  induction inserted with
  | nil state => rfl
  | keep rest inductionHypothesis => exact inductionHypothesis
  | insert isInert rest inductionHypothesis =>
      rw [run_cons, unchanged _ _ isInert]
      exact inductionHypothesis

end Machine
