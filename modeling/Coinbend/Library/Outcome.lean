import Mathlib.Data.Prod.Basic

/-!
# Stateful computations that may raise

An `Outcome` is the state a computation leaves behind together with its value
or the error it raised.  Unlike a transaction, a raising computation keeps the
changes it made before the error.
-/

/-- The state left behind and the value returned or the error raised. -/
structure Outcome (σ ε α : Type) where
  state : σ
  result : Except ε α

namespace Outcome

variable {σ ε α β : Type}

/-- Return a value. -/
def pure (state : σ) (value : α) : Outcome σ ε α :=
  ⟨state, .ok value⟩

/-- Raise an error, keeping the state reached so far. -/
def raise (state : σ) (error : ε) : Outcome σ ε α :=
  ⟨state, .error error⟩

/-- Continue with the value of a computation unless it raised. -/
def bind
    (first : Outcome σ ε α)
    (next : σ → α → Outcome σ ε β) : Outcome σ ε β :=
  match first.result with
  | .ok value => next first.state value
  | .error error => raise first.state error

/-- Continue with the value of an expression that reads no state. -/
def attempt
    (state : σ)
    (value : Except ε α)
    (next : α → Outcome σ ε β) : Outcome σ ε β :=
  match value with
  | .ok value => next value
  | .error error => raise state error

@[simp] theorem pure_state (state : σ) (value : α) :
    (pure state value : Outcome σ ε α).state = state := rfl

@[simp] theorem pure_result (state : σ) (value : α) :
    (pure state value : Outcome σ ε α).result = .ok value := rfl

@[simp] theorem raise_state (state : σ) (error : ε) :
    (raise state error : Outcome σ ε α).state = state := rfl

@[simp] theorem raise_result (state : σ) (error : ε) :
    (raise state error : Outcome σ ε α).result = .error error := rfl

@[simp] theorem attempt_ok
    (state : σ) (value : α) (next : α → Outcome σ ε β) :
    attempt state (.ok value) next = next value := rfl

@[simp] theorem attempt_error
    (state : σ) (error : ε) (next : α → Outcome σ ε β) :
    attempt state (.error error) next = raise state error := rfl

/-- A computation that returned goes on with its value. -/
theorem bind_of_ok
    {first : Outcome σ ε α}
    {next : σ → α → Outcome σ ε β}
    {value : α}
    (returned : first.result = .ok value) :
    bind first next = next first.state value := by
  rw [bind, returned]

/-- A computation followed by nothing is itself. -/
theorem bind_pure (first : Outcome σ ε Unit) :
    (bind first fun state _ => pure state ()) = first := by
  obtain ⟨state, result⟩ := first
  cases result <;> rfl

/-- What holds of the state before an attempt and of every state its
continuation leaves holds of the state after it. -/
theorem attempt_state
    {motive : σ → Prop}
    {state : σ}
    {value : Except ε α}
    {next : α → Outcome σ ε β}
    (before : motive state)
    (after : ∀ found, value = .ok found → motive (next found).state) :
    motive (attempt state value next).state := by
  cases value with
  | error error => exact before
  | ok found => exact after found rfl

/-- The same rule for a sequence. -/
theorem bind_state
    {motive : σ → Prop}
    {first : Outcome σ ε α}
    {next : σ → α → Outcome σ ε β}
    (before : motive first.state)
    (after : ∀ found, first.result = .ok found →
      motive (next first.state found).state) :
    motive (bind first next).state := by
  unfold bind
  cases returned : first.result with
  | error error => exact before
  | ok found => exact after found returned

/-- What holds of every error and of every result of the continuation holds of
the result of an attempt. -/
theorem attempt_result
    {motive : Except ε β → Prop}
    {state : σ}
    {value : Except ε α}
    {next : α → Outcome σ ε β}
    (raised : ∀ error, motive (.error error))
    (after : ∀ found, value = .ok found → motive (next found).result) :
    motive (attempt state value next).result := by
  cases value with
  | error error => exact raised error
  | ok found => exact after found rfl

/-- An attempt returns what its continuation returns on its value. -/
theorem attempt_result_eq_ok_iff
    {state : σ}
    {value : Except ε α}
    {next : α → Outcome σ ε β}
    {returned : β} :
    (attempt state value next).result = .ok returned ↔
      ∃ found, value = .ok found ∧ (next found).result = .ok returned := by
  cases value with
  | error error => simp
  | ok found => simp

/-- A sequence returns what its continuation returns on the value of the
first. -/
theorem bind_result_eq_ok_iff
    {first : Outcome σ ε α}
    {next : σ → α → Outcome σ ε β}
    {returned : β} :
    (bind first next).result = .ok returned ↔
      ∃ found, first.result = .ok found ∧
        (next first.state found).result = .ok returned := by
  unfold bind
  cases first.result with
  | error error => simp
  | ok found => simp

/-- An attempt does not raise an error that neither its value nor its
continuation raises. -/
theorem attempt_result_ne
    {state : σ}
    {value : Except ε α}
    {next : α → Outcome σ ε β}
    {error : ε}
    (value_ne : value ≠ .error error)
    (next_ne : ∀ found, value = .ok found →
      (next found).result ≠ .error error) :
    (attempt state value next).result ≠ .error error := by
  cases value with
  | error raised => exact fun same => value_ne (by simpa using same)
  | ok found => exact next_ne found rfl

/-! ## Computations that keep a state property and never raise an error -/

/-- The state left behind has a property and an error was not raised. -/
def Within (holds : σ → Prop) (error : ε) (outcome : Outcome σ ε α) : Prop :=
  holds outcome.state ∧ outcome.result ≠ .error error

variable {holds : σ → Prop} {error : ε}

theorem within_pure {state : σ} (value : α) (kept : holds state) :
    Within holds error (pure state value) :=
  ⟨kept, nofun⟩

theorem within_raise
    {state : σ}
    {raised : ε}
    (kept : holds state)
    (other : raised ≠ error) :
    Within holds error (raise state raised : Outcome σ ε α) :=
  ⟨kept, fun same => other (Except.error.inj same)⟩

/-- The first computation may leave a stronger property behind. -/
theorem within_bind
    {first : Outcome σ ε α}
    {next : σ → α → Outcome σ ε β}
    {between : σ → Prop}
    (within : Within between error first)
    (enough : ∀ state, between state → holds state)
    (after : ∀ found, first.result = .ok found → between first.state →
      Within holds error (next first.state found)) :
    Within holds error (bind first next) := by
  unfold bind
  cases returned : first.result with
  | error raised =>
      exact within_raise (enough _ within.1)
        fun same => within.2 (same ▸ returned)
  | ok found => exact after found returned within.1

theorem within_attempt
    {state : σ}
    {value : Except ε α}
    {next : α → Outcome σ ε β}
    (kept : holds state)
    (other : value ≠ .error error)
    (after : ∀ found, value = .ok found → Within holds error (next found)) :
    Within holds error (attempt state value next) := by
  cases value with
  | error raised =>
      exact within_raise kept fun same => other (congrArg Except.error same)
  | ok found => exact after found rfl

theorem Within.imp
    {outcome : Outcome σ ε α}
    {implied : σ → Prop}
    (within : Within holds error outcome)
    (implies : ∀ state, holds state → implied state) :
    Within implied error outcome :=
  ⟨implies _ within.1, within.2⟩

end Outcome
