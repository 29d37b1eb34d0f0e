import Mathlib.Order.Basic
import Mathlib.Algebra.Order.Ring.Nat
import Mathlib.Tactic.Ring

/-!
# Fixed-point numbers in two parts

A number is stored as a whole part and a fractional part counted in units of
`1 / base`.  Addition carries and subtraction borrows between the two parts,
and comparison is lexicographic.  Every operation is related to the single
integer `value`, the number counted in units of `1 / base`.
-/

/-- A non-negative number split into a whole part and `dec / base`. -/
structure FixedPoint (base : Nat) where
  whole : Nat
  dec : Nat
  dec_lt : dec < base
  deriving DecidableEq

namespace FixedPoint

variable {base : Nat}

/-- The number counted in units of `1 / base`. -/
def value (x : FixedPoint base) : Nat :=
  x.whole * base + x.dec

theorem base_pos (x : FixedPoint base) : 0 < base :=
  Nat.lt_of_le_of_lt (Nat.zero_le _) x.dec_lt

theorem value_div (x : FixedPoint base) : x.value / base = x.whole := by
  rw [value, Nat.mul_comm, Nat.mul_add_div x.base_pos,
    Nat.div_eq_of_lt x.dec_lt, Nat.add_zero]

theorem value_mod (x : FixedPoint base) : x.value % base = x.dec := by
  rw [value, Nat.mul_comm, Nat.mul_add_mod, Nat.mod_eq_of_lt x.dec_lt]

/-- The two parts are determined by the value. -/
theorem value_injective :
    Function.Injective (value : FixedPoint base → Nat) := by
  intro x y equal
  have wholes : x.whole = y.whole := by
    rw [← x.value_div, ← y.value_div, equal]
  have decs : x.dec = y.dec := by
    rw [← x.value_mod, ← y.value_mod, equal]
  cases x
  cases y
  simp_all

/-- The number with a given value. -/
def ofValue (base_pos : 0 < base) (n : Nat) : FixedPoint base where
  whole := n / base
  dec := n % base
  dec_lt := Nat.mod_lt n base_pos

@[simp] theorem value_ofValue (base_pos : 0 < base) (n : Nat) :
    (ofValue base_pos n).value = n := by
  rw [value, ofValue, Nat.mul_comm]
  exact Nat.div_add_mod n base

/-! ## Arithmetic -/

/-- Addition with a carry out of the fractional part. -/
def add (x y : FixedPoint base) : FixedPoint base :=
  if fits : x.dec + y.dec < base then
    { whole := x.whole + y.whole
      dec := x.dec + y.dec
      dec_lt := fits }
  else
    { whole := x.whole + y.whole + 1
      dec := x.dec + y.dec - base
      dec_lt := by
        have := x.dec_lt
        have := y.dec_lt
        omega }

@[simp] theorem value_add (x y : FixedPoint base) :
    (x.add y).value = x.value + y.value := by
  unfold add
  split
  · simp only [value]
    ring
  · have carried : x.dec + y.dec - base + base = x.dec + y.dec := by omega
    have split : (x.whole + y.whole + 1) * base =
        x.whole * base + y.whole * base + base := by ring
    simp only [value]
    omega

/-- Subtraction with a borrow from the whole part; `none` when the whole part
would become negative. -/
def sub? (x y : FixedPoint base) : Option (FixedPoint base) :=
  if y.dec ≤ x.dec then
    if y.whole ≤ x.whole then
      some
        { whole := x.whole - y.whole
          dec := x.dec - y.dec
          dec_lt := Nat.lt_of_le_of_lt (Nat.sub_le _ _) x.dec_lt }
    else none
  else
    if y.whole + 1 ≤ x.whole then
      some
        { whole := x.whole - y.whole - 1
          dec := (base + x.dec - y.dec) % base
          dec_lt := Nat.mod_lt _ x.base_pos }
    else none

/-- Lexicographic comparison. -/
def Less (x y : FixedPoint base) : Prop :=
  x.whole < y.whole ∨ (x.whole = y.whole ∧ x.dec < y.dec)

instance (x y : FixedPoint base) : Decidable (x.Less y) :=
  inferInstanceAs (Decidable (_ ∨ _))

/-- Lexicographic comparison is comparison of values. -/
theorem less_iff (x y : FixedPoint base) : x.Less y ↔ x.value < y.value := by
  have xLt := x.dec_lt
  have yLt := y.dec_lt
  unfold Less value
  constructor
  · rintro (wholeLess | ⟨wholeEqual, decLess⟩)
    · have : (x.whole + 1) * base ≤ y.whole * base :=
        Nat.mul_le_mul_right base wholeLess
      rw [Nat.add_mul, Nat.one_mul] at this
      omega
    · rw [wholeEqual]
      omega
  · intro valueLess
    rcases Nat.lt_trichotomy x.whole y.whole with less | equal | greater
    · exact Or.inl less
    · rw [equal] at valueLess
      exact Or.inr ⟨equal, by omega⟩
    · have : (y.whole + 1) * base ≤ x.whole * base :=
        Nat.mul_le_mul_right base greater
      rw [Nat.add_mul, Nat.one_mul] at this
      omega

/-- Subtraction succeeds exactly when it is not negative, with the exact
difference. -/
theorem sub?_spec (x y : FixedPoint base) :
    (y.value ≤ x.value ∧
      ∃ z, x.sub? y = some z ∧ z.value = x.value - y.value) ∨
    (x.value < y.value ∧ x.sub? y = none) := by
  have xLt := x.dec_lt
  have yLt := y.dec_lt
  unfold sub?
  split
  next decLe =>
    split
    next wholeLe =>
      have wholes : x.whole * base =
          (x.whole - y.whole) * base + y.whole * base := by
        rw [← Nat.add_mul, Nat.sub_add_cancel wholeLe]
      refine Or.inl ⟨?_, _, rfl, ?_⟩ <;> simp only [value] <;> omega
    next wholeGt =>
      refine Or.inr ⟨?_, rfl⟩
      exact (less_iff x y).mp (Or.inl (by omega))
  next decGt =>
    split
    next wholeLe =>
      have wholes : x.whole * base =
          (x.whole - y.whole - 1) * base + (y.whole + 1) * base := by
        rw [← Nat.add_mul]
        congr 1
        omega
      have borrowed : (base + x.dec - y.dec) % base =
          base + x.dec - y.dec := Nat.mod_eq_of_lt (by omega)
      rw [Nat.add_mul y.whole, Nat.one_mul] at wholes
      refine Or.inl ⟨?_, _, rfl, ?_⟩ <;> simp only [value, borrowed] <;> omega
    next wholeGt =>
      refine Or.inr ⟨?_, rfl⟩
      rcases Nat.lt_or_ge x.whole y.whole with less | equal
      · exact (less_iff x y).mp (Or.inl less)
      · exact (less_iff x y).mp (Or.inr ⟨by omega, by omega⟩)

end FixedPoint
