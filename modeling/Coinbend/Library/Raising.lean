import Mathlib.Logic.Basic

/-!
# Computations that may raise

Inversion rules for `Except`: what a computation that succeeded did, and the
guard that raises when a condition holds.
-/

namespace Except

variable {ε α β : Type}

/-- A sequence succeeds when both of its parts do. -/
theorem bind_eq_ok_iff
    (first : Except ε α)
    (next : α → Except ε β)
    (value : β) :
    (first >>= next) = .ok value ↔
      ∃ found, first = .ok found ∧ next found = .ok value := by
  cases first with
  | error error =>
      constructor
      · intro impossible
        cases impossible
      · rintro ⟨found, impossible, _⟩
        cases impossible
  | ok found =>
      constructor
      · intro succeeded
        exact ⟨found, rfl, succeeded⟩
      · rintro ⟨_, ⟨⟩, succeeded⟩
        exact succeeded

@[simp] theorem ok_bind (found : α) (next : α → Except ε β) :
    ((.ok found : Except ε α) >>= next) = next found := rfl

@[simp] theorem error_bind (error : ε) (next : α → Except ε β) :
    ((.error error : Except ε α) >>= next) = .error error := rfl

/-- A sequence whose first part succeeds goes on with its value. -/
theorem bind_of_eq_ok
    {first : Except ε α}
    {found : α}
    (succeeded : first = .ok found)
    (next : α → Except ε β) :
    (first >>= next) = next found := by
  rw [succeeded, ok_bind]

/-- What is kept when the error is forgotten was returned. -/
theorem ok_of_toOption
    {result : Except ε α}
    {value : α}
    (kept : result.toOption = some value) :
    result = .ok value := by
  cases result with
  | error error => cases kept
  | ok found =>
      cases kept
      rfl

/-- What is asked of the value of a computation can be decided by running it. -/
instance decidableForallOk
    {P : α → Prop}
    [DecidablePred P]
    (result : Except ε α) :
    Decidable (∀ value, result = .ok value → P value) :=
  match result with
  | .ok value =>
      decidable_of_iff (P value)
        ⟨fun holds found same => Except.ok.inj same ▸ holds,
          fun all => all value rfl⟩
  | .error _ => isTrue nofun

theorem ok_ne_error {value : α} {error : ε} :
    (Except.ok value : Except ε α) ≠ .error error := by
  intro impossible
  cases impossible

theorem pure_eq_ok_iff (first second : α) :
    (pure first : Except ε α) = .ok second ↔ first = second :=
  Except.ok.injEq first second ▸ Iff.rfl

/-- A renamed result comes from a result. -/
theorem map_eq_ok_iff
    (name : α → β)
    (first : Except ε α)
    (value : β) :
    first.map name = .ok value ↔ ∃ found, first = .ok found ∧ name found = value := by
  cases first with
  | error error => simp [Except.map]
  | ok found => simp [Except.map]

/-- A sequence raises what one of its parts raises. -/
theorem bind_eq_error_iff
    (first : Except ε α)
    (next : α → Except ε β)
    (error : ε) :
    (first >>= next) = .error error ↔
      first = .error error ∨
        ∃ found, first = .ok found ∧ next found = .error error := by
  cases first with
  | error raised => simp
  | ok found => simp

/-- A sequence does not raise an error that none of its parts raises. -/
theorem bind_ne_error
    {first : Except ε α}
    {next : α → Except ε β}
    {error : ε}
    (first_ne : first ≠ .error error)
    (next_ne : ∀ found, first = .ok found → next found ≠ .error error) :
    (first >>= next) ≠ .error error := by
  rw [ne_eq, bind_eq_error_iff]
  rintro (raised | ⟨found, succeeded, raised⟩)
  · exact first_ne raised
  · exact next_ne found succeeded raised

/-- An early return of nothing is not taken when something was returned. -/
theorem ite_none_eq_ok_some_iff
    (condition : Prop) [Decidable condition]
    (rest : Except ε (Option α))
    (value : α) :
    (if condition then (pure none : Except ε (Option α)) else rest) =
        .ok (some value) ↔
      ¬condition ∧ rest = .ok (some value) := by
  split
  next holds =>
    constructor
    · intro impossible
      cases impossible
    · rintro ⟨fails, _⟩
      exact absurd holds fails
  next fails => exact (and_iff_right fails).symm

theorem ite_pure_ne_error
    {condition : Prop} [Decidable condition]
    {value : α}
    {rest : Except ε α}
    {error : ε}
    (rest_ne : rest ≠ .error error) :
    (if condition then pure value else rest) ≠ .error error := by
  split
  · exact ok_ne_error
  · exact rest_ne

/-- Raise when a condition holds. -/
def raiseIf (condition : Prop) [Decidable condition] (error : ε) :
    Except ε Unit :=
  if condition then .error error else .ok ()

@[simp] theorem raiseIf_eq_ok_iff
    (condition : Prop) [Decidable condition]
    (error : ε)
    (value : Unit) :
    raiseIf condition error = .ok value ↔ ¬condition := by
  unfold raiseIf
  split <;> simp_all

/-- A guard whose condition fails lets the computation go on. -/
theorem raiseIf_bind
    {condition : Prop} [Decidable condition]
    {error : ε}
    (fails : ¬condition)
    (next : Unit → Except ε β) :
    (raiseIf condition error >>= next) = next () := by
  rw [raiseIf, if_neg fails]
  rfl

theorem raiseIf_ne_error
    (condition : Prop) [Decidable condition]
    {error other : ε}
    (different : error ≠ other) :
    raiseIf condition error ≠ .error other := by
  unfold raiseIf
  split <;> simp [different]

/-- The value of an option, or an error. -/
def ofOption (error : ε) : Option α → Except ε α
  | some value => .ok value
  | none => .error error

@[simp] theorem ofOption_eq_ok_iff
    (error : ε)
    (option : Option α)
    (value : α) :
    ofOption error option = .ok value ↔ option = some value := by
  cases option <;> simp [ofOption]

theorem ofOption_ne_error
    {error other : ε}
    (option : Option α)
    (different : error ≠ other) :
    ofOption error option ≠ .error other := by
  cases option <;> simp [ofOption, different]

/-- Only what the first part returns matters for the rest. -/
theorem bind_congr_of_ok
    {first : Except ε α}
    {next other : α → Except ε β}
    (same : ∀ found, first = .ok found → next found = other found) :
    (first >>= next) = (first >>= other) := by
  cases first with
  | error error => rfl
  | ok found => exact same found rfl

/-- A sequence succeeds when both of its parts do. -/
theorem exists_bind_eq_ok
    {first : Except ε α}
    {next : α → Except ε β}
    (succeeds : ∃ found, first = .ok found)
    (continues : ∀ found, ∃ value, next found = .ok value) :
    ∃ value, (first >>= next) = .ok value := by
  obtain ⟨found, rfl⟩ := succeeds
  exact continues found

/-- A list is mapped when each of its elements is. -/
theorem exists_mapM_eq_ok
    (list : List α)
    (next : α → Except ε β)
    (each : ∀ element ∈ list, ∃ value, next element = .ok value) :
    ∃ values, list.mapM next = .ok values := by
  induction list with
  | nil => exact ⟨[], rfl⟩
  | cons first list inductionHypothesis =>
      rw [List.forall_mem_cons] at each
      obtain ⟨⟨value, found⟩, each⟩ := each
      obtain ⟨values, mapped⟩ := inductionHypothesis each
      rw [List.mapM_cons, found, ok_bind, mapped, ok_bind]
      exact ⟨value :: values, rfl⟩

end Except
