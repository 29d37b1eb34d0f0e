import Mathlib.Algebra.Order.Ring.Nat
import Mathlib.Order.Lattice
import Mathlib.Tactic.Ring

/-!
# Saturating counters

A counter grows by a fixed step towards a cap; the last step is cut to what is
left.  After `count` steps it stands at `min cap (count * step)`, whatever the
relation between the cap and the step.
-/

namespace Saturation

/-- The next growth of a counter standing at `current`. -/
def growth (cap step current : Nat) : Nat :=
  min step (cap - current)

/-- The counter after `count` steps from zero. -/
def level (cap step count : Nat) : Nat :=
  min cap (count * step)

@[simp] theorem level_zero (cap step : Nat) : level cap step 0 = 0 := by
  simp [level]

theorem level_le_cap (cap step count : Nat) : level cap step count ≤ cap :=
  Nat.min_le_left _ _

/-- A growth never passes the cap. -/
theorem add_growth_le_cap
    (step : Nat)
    {cap current : Nat}
    (below : current ≤ cap) :
    current + growth cap step current ≤ cap := by
  unfold growth
  omega

/-- One growth moves a counter to its next level. -/
theorem level_add_growth (cap step count : Nat) :
    level cap step count + growth cap step (level cap step count) =
      level cap step (count + 1) := by
  have next : (count + 1) * step = count * step + step := by ring
  unfold growth level
  omega

end Saturation
