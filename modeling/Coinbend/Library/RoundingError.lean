import Coinbend.Library.DecimalRounding
import Mathlib.Tactic.Ring

/-!
# The error of decimal rounding

How far rounding to a number of significant digits moves a number: by half a
unit of the last digit kept, absolutely and relatively, up or down as the
remainder says.  Rounding commutes with the powers of ten and keeps them.  A
number keeps its value under fewer digits when it has no more than these.
-/

namespace DecimalRounding

/-! ## The nearest integer -/

theorem roundHalfEven_error (q : ℚ) : |(roundHalfEven q : ℚ) - q| ≤ 1 / 2 := by
  have upper := roundHalfEven_le q
  have lower := le_roundHalfEven q
  rw [abs_le]
  constructor <;> linarith

/-- Rounding moves a number by no more than what it has beyond its floor. -/
theorem roundHalfEven_error_le_rest (q : ℚ) :
    |(roundHalfEven q : ℚ) - q| ≤ q - ⌊q⌋ := by
  have floor_le := Int.floor_le q
  have lt_floor := Int.lt_floor_add_one q
  unfold roundHalfEven
  simp only
  rw [abs_le]
  split_ifs <;> push_cast <;> constructor <;> linarith

theorem le_roundHalfEven_of_le
    {n : ℤ}
    {q : ℚ}
    (le : n ≤ q) :
    n ≤ roundHalfEven q :=
  (Int.le_floor.mpr le).trans (floor_le_roundHalfEven q)

/-- A half below an even number rounds up to it. -/
theorem roundHalfEven_lt_iff_of_even
    {n : ℤ}
    {q : ℚ}
    (even : n % 2 = 0)
    (less : q < n) :
    roundHalfEven q < n ↔ q < n - 1 / 2 := by
  rcases lt_or_ge q (n - 1) with far | near
  · have upper := roundHalfEven_le q
    refine iff_of_true ?_ (by linarith)
    have below : (roundHalfEven q : ℚ) < n := by linarith
    exact_mod_cast below
  · have floor : ⌊q⌋ = n - 1 := by
      rw [Int.floor_eq_iff]
      push_cast
      constructor <;> linarith
    unfold roundHalfEven
    simp only [floor]
    push_cast
    split_ifs with below above parity
    · exact iff_of_true (by omega) (by linarith)
    · exact iff_of_false (by omega) (by linarith)
    · omega
    · exact iff_of_false (by omega) (by linarith)

/-- A fraction whose remainder is cut off when the fraction is rounded. -/
def RoundsDown (num den : ℕ) : Prop :=
  2 * (num % den) < den ∨ (2 * (num % den) = den ∧ num / den % 2 = 0)

instance (num den : ℕ) : Decidable (RoundsDown num den) :=
  inferInstanceAs (Decidable (_ ∨ _))

theorem roundHalfEven_natCast_div
    {num den : ℕ}
    (positive : 0 < den) :
    roundHalfEven ((num : ℚ) / den) =
      if RoundsDown num den then ((num / den : ℕ) : ℤ)
      else ((num / den : ℕ) : ℤ) + 1 := by
  have den_pos : (0 : ℚ) < den := by exact_mod_cast positive
  have floor : ⌊(num : ℚ) / den⌋ = (num / den : ℕ) := by
    rw [Rat.floor_natCast_div_natCast]
    push_cast
    rfl
  have rest : (num : ℚ) / den - (num / den : ℕ) = (num % den : ℕ) / den := by
    have split : (num : ℚ) = den * (num / den : ℕ) + (num % den : ℕ) := by
      exact_mod_cast (Nat.div_add_mod num den).symm
    field_simp
    linarith
  have below : (num % den : ℕ) / (den : ℚ) < 1 / 2 ↔ 2 * (num % den) < den := by
    rw [div_lt_div_iff₀ den_pos (by norm_num)]
    constructor
    · intro less
      have : ((num % den : ℕ) : ℚ) * 2 < den := by linarith
      have := (by exact_mod_cast this : num % den * 2 < den)
      omega
    · intro less
      have : (2 : ℚ) * (num % den : ℕ) < den := by exact_mod_cast less
      linarith
  have above : (1 : ℚ) / 2 < (num % den : ℕ) / den ↔ den < 2 * (num % den) := by
    rw [div_lt_div_iff₀ (by norm_num) den_pos]
    constructor
    · intro less
      have : (den : ℚ) < (num % den : ℕ) * 2 := by linarith
      have := (by exact_mod_cast this : den < num % den * 2)
      omega
    · intro less
      have : (den : ℚ) < 2 * (num % den : ℕ) := by exact_mod_cast less
      linarith
  unfold roundHalfEven RoundsDown
  simp only [floor, Int.cast_natCast, rest, below, above]
  split_ifs <;> omega

/-! ## Significant digits -/

/-- The power of ten that makes the digits kept a whole number. -/
def digitScale (digits : ℕ) (q : ℚ) : ℚ :=
  10 ^ ((digits : ℤ) - 1 - Int.log 10 |q|)

theorem digitScale_pos (digits : ℕ) (q : ℚ) : 0 < digitScale digits q := by
  unfold digitScale
  positivity

theorem roundDigits_eq (digits : ℕ) (q : ℚ) :
    roundDigits digits q =
      roundHalfEven (q * digitScale digits q) / digitScale digits q :=
  rfl

/-- The power of ten at or below a number. -/
theorem zpow_le_iff
    {q : ℚ}
    (positive : 0 < q)
    (exponent : ℤ) :
    (10 : ℚ) ^ exponent ≤ q ↔ exponent ≤ Int.log 10 |q| := by
  have bound := Int.zpow_le_iff_le_log (b := 10) (x := exponent)
    (by norm_num) positive
  rw [Nat.cast_ofNat] at bound
  rw [abs_of_pos positive, bound]

/-- What is kept has at least the first digit. -/
theorem le_scaled
    {digits : ℕ}
    (some_digit : 0 < digits)
    {q : ℚ}
    (positive : 0 < q) :
    ((10 ^ (digits - 1) : ℕ) : ℚ) ≤ q * digitScale digits q := by
  have log_le := (zpow_le_iff positive _).mpr le_rfl
  have digits_eq : ((digits - 1 : ℕ) : ℤ) = (digits : ℤ) - 1 := by omega
  calc ((10 ^ (digits - 1) : ℕ) : ℚ)
      = 10 ^ ((digits : ℤ) - 1) := by
        rw [← digits_eq, zpow_natCast]
        push_cast
        rfl
    _ = 10 ^ Int.log 10 |q| * digitScale digits q := by
        rw [digitScale, ← zpow_add₀ (by norm_num)]
        congr 1
        ring
    _ ≤ q * digitScale digits q := by
        gcongr
        exact (digitScale_pos digits q).le

theorem abs_roundDigits_sub (digits : ℕ) (q : ℚ) :
    |roundDigits digits q - q| =
      |(roundHalfEven (q * digitScale digits q) : ℚ) -
        q * digitScale digits q| / digitScale digits q := by
  have scale_pos := digitScale_pos digits q
  rw [roundDigits_eq, ← abs_of_pos scale_pos, ← abs_div, abs_of_pos scale_pos]
  congr 1
  field_simp

/-- The relative error is below half a unit of the last digit. -/
theorem roundDigits_relative_error
    {digits : ℕ}
    (some_digit : 0 < digits)
    {q : ℚ}
    (positive : 0 < q) :
    |roundDigits digits q - q| * (2 * 10 ^ (digits - 1) + 1) ≤ q := by
  have scale_pos := digitScale_pos digits q
  have first_digit := le_scaled some_digit positive
  have half := roundHalfEven_error (q * digitScale digits q)
  have rest := roundHalfEven_error_le_rest (q * digitScale digits q)
  have floor : ((10 ^ (digits - 1) : ℕ) : ℚ) ≤ ⌊q * digitScale digits q⌋ := by
    have : ((10 ^ (digits - 1) : ℕ) : ℤ) ≤ ⌊q * digitScale digits q⌋ := by
      rw [Int.le_floor]
      exact_mod_cast first_digit
    exact_mod_cast this
  rw [abs_roundDigits_sub, div_mul_eq_mul_div, div_le_iff₀ scale_pos]
  push_cast at floor
  generalize |(roundHalfEven (q * digitScale digits q) : ℚ) -
    q * digitScale digits q| = error at *
  have power_pos : (0 : ℚ) < 10 ^ (digits - 1) := by positivity
  have scaled_half := mul_le_mul_of_nonneg_right half power_pos.le
  linarith

/-- Below a power of ten the error is below half a unit of its last digit. -/
theorem roundDigits_error_of_lt
    (digits : ℕ)
    {q : ℚ}
    (positive : 0 < q)
    {exponent : ℤ}
    (less : q < 10 ^ exponent) :
    |roundDigits digits q - q| ≤ 10 ^ (exponent - digits) / 2 := by
  have scale_pos := digitScale_pos digits q
  have log_lt : Int.log 10 |q| < exponent := by
    rw [← not_le, ← zpow_le_iff positive, not_le]
    exact less
  have scale_ge : (10 : ℚ) ^ ((digits : ℤ) - exponent) ≤ digitScale digits q :=
    zpow_le_zpow_right₀ (by norm_num) (by omega)
  have inverse : (10 : ℚ) ^ (exponent - digits) *
      10 ^ ((digits : ℤ) - exponent) = 1 := by
    rw [← zpow_add₀ (by norm_num)]
    simp
  have half := roundHalfEven_error (q * digitScale digits q)
  rw [abs_roundDigits_sub, div_le_iff₀ scale_pos]
  have unit_pos : (0 : ℚ) < 10 ^ (exponent - digits) := by positivity
  have scaled := mul_le_mul_of_nonneg_left scale_ge unit_pos.le
  linarith

/-- A power of ten below a number stays below its rounding. -/
theorem zpow_le_roundDigits
    {digits : ℕ}
    (some_digit : 0 < digits)
    {q : ℚ}
    (positive : 0 < q)
    {exponent : ℤ}
    (le : 10 ^ exponent ≤ q) :
    (10 : ℚ) ^ exponent ≤ roundDigits digits q := by
  have scale_pos := digitScale_pos digits q
  have log_ge := (zpow_le_iff positive _).mp le
  have first_digit := le_scaled some_digit positive
  have kept : ((10 ^ (digits - 1) : ℕ) : ℤ) ≤
      roundHalfEven (q * digitScale digits q) :=
    le_roundHalfEven_of_le (by exact_mod_cast first_digit)
  have keptCast : ((10 ^ (digits - 1) : ℕ) : ℚ) ≤
      roundHalfEven (q * digitScale digits q) := by
    exact_mod_cast kept
  have digits_eq : ((digits - 1 : ℕ) : ℤ) = (digits : ℤ) - 1 := by omega
  rw [roundDigits_eq, le_div_iff₀ scale_pos]
  refine le_trans ?_ keptCast
  push_cast
  rw [digitScale, ← zpow_add₀ (by norm_num), ← zpow_natCast, digits_eq]
  exact zpow_le_zpow_right₀ (by norm_num) (by omega)

/-- Rounding does not see the place of the point. -/
theorem roundDigits_div_pow
    (digits : ℕ)
    {q : ℚ}
    (positive : 0 < q)
    (places : ℕ) :
    roundDigits digits (q / 10 ^ places) = roundDigits digits q / 10 ^ places := by
  have shifted_pos : 0 < q / 10 ^ places := by positivity
  have log_eq : Int.log 10 |q / 10 ^ places| = Int.log 10 |q| - places := by
    refine eq_of_forall_le_iff fun exponent => ?_
    rw [← zpow_le_iff shifted_pos, le_sub_iff_add_le, ← zpow_le_iff positive,
      le_div_iff₀ (by positivity), zpow_add₀ (by norm_num), zpow_natCast]
  have scale_eq : digitScale digits (q / 10 ^ places) =
      digitScale digits q * 10 ^ places := by
    rw [digitScale, digitScale, log_eq, ← zpow_natCast,
      ← zpow_add₀ (by norm_num)]
    congr 1
    ring
  have scaled_eq : q / 10 ^ places * (digitScale digits q * 10 ^ places) =
      q * digitScale digits q := by
    field_simp
  rw [roundDigits_eq, roundDigits_eq, scale_eq, scaled_eq, div_div]

/-- A number with all its kept digits before some decimal place is rounded to
a whole number of units of that place. -/
theorem exists_roundDigits_eq_div
    {digits places : ℕ}
    {q : ℚ}
    (positive : 0 < q)
    (le : (10 : ℚ) ^ ((digits : ℤ) - 1 - places) ≤ q) :
    ∃ units : ℕ, roundDigits digits q = units / 10 ^ places := by
  have log_ge := (zpow_le_iff positive _).mp le
  have scale_pos := digitScale_pos digits q
  have rounded := roundHalfEven_nonneg (mul_pos positive scale_pos).le
  obtain ⟨units, units_eq⟩ := Int.eq_ofNat_of_zero_le rounded
  obtain ⟨more, more_eq⟩ := Int.eq_ofNat_of_zero_le
    (a := (places : ℤ) - ((digits : ℤ) - 1 - Int.log 10 |q|)) (by omega)
  have scale_eq : digitScale digits q * 10 ^ more = 10 ^ places := by
    rw [digitScale, ← zpow_natCast, ← zpow_natCast, ← zpow_add₀ (by norm_num)]
    congr 1
    omega
  refine ⟨units * 10 ^ more, ?_⟩
  rw [roundDigits_eq, units_eq, ← scale_eq]
  push_cast
  field_simp

/-! ## Whole numbers and reciprocals -/

/-- A whole number is rounded up when the digits cut off are more than a half
of their power of ten. -/
theorem lt_roundDigits_natCast_iff (digits n : ℕ) :
    (n : ℚ) < roundDigits digits n ↔ ¬RoundsDown n (10 ^ cutDigits digits n) := by
  rcases Nat.le_total digits (Nat.log 10 n + 1) with long | fits
  · have power_pos : 0 < 10 ^ cutDigits digits n := by positivity
    have powerCast_pos : (0 : ℚ) < 10 ^ cutDigits digits n := by positivity
    have split := Nat.div_add_mod n (10 ^ cutDigits digits n)
    have rest_lt := Nat.mod_lt n power_pos
    rw [roundDigits_natCast_of_long long]
    have rounded := @roundHalfEven_natCast_div n _ power_pos
    rw [Nat.cast_pow, Nat.cast_ofNat] at rounded
    rw [rounded]
    clear rounded
    generalize n / 10 ^ cutDigits digits n = quotient at *
    have splitCast : (10 : ℚ) ^ cutDigits digits n * quotient +
        (n % 10 ^ cutDigits digits n : ℕ) = n := by
      exact_mod_cast split
    have restCast : ((n % 10 ^ cutDigits digits n : ℕ) : ℚ) <
        10 ^ cutDigits digits n := by
      exact_mod_cast rest_lt
    split
    next down =>
      refine iff_of_false (not_lt.mpr ?_) (not_not.mpr down)
      push_cast
      have : (0 : ℚ) ≤ (n % 10 ^ cutDigits digits n : ℕ) := Nat.cast_nonneg _
      linarith
    next up =>
      refine iff_of_true ?_ up
      push_cast
      linarith
  · have none_cut : cutDigits digits n = 0 := by
      unfold cutDigits
      omega
    have exact_ : roundDigits digits (n : ℚ) = n :=
      roundDigits_natCast_of_dvd (by rw [none_cut]; exact one_dvd n)
    rw [exact_, none_cut]
    refine iff_of_false (lt_irrefl _) (not_not.mpr (Or.inl ?_))
    rw [pow_zero, Nat.mod_one]
    decide

/-- Rounding a whole number leaves a whole number. -/
theorem exists_roundDigits_natCast (digits n : ℕ) :
    ∃ whole : ℕ, roundDigits digits (n : ℚ) = whole := by
  rcases Nat.le_total digits (Nat.log 10 n + 1) with long | fits
  · have rounded := roundHalfEven_nonneg
      (div_nonneg (Nat.cast_nonneg n)
        (pow_nonneg (by norm_num) (cutDigits digits n)) :
          (0 : ℚ) ≤ n / 10 ^ cutDigits digits n)
    obtain ⟨units, units_eq⟩ := Int.eq_ofNat_of_zero_le rounded
    refine ⟨units * 10 ^ cutDigits digits n, ?_⟩
    rw [roundDigits_natCast_of_long long, units_eq]
    push_cast
    rfl
  · have none_cut : cutDigits digits n = 0 := by
      unfold cutDigits
      omega
    exact ⟨n, roundDigits_natCast_of_dvd (by rw [none_cut]; exact one_dvd n)⟩

/-- The decimal places of a reciprocal that is rounded to some digits. -/
def reciprocalPlaces (digits n : ℕ) : ℕ :=
  digits - 1 + Nat.clog 10 n

theorem roundDigits_reciprocal
    {digits n : ℕ}
    (some_digit : 0 < digits)
    (positive : 0 < n) :
    roundDigits digits (1 / (n : ℚ)) =
      roundHalfEven ((10 ^ reciprocalPlaces digits n : ℕ) / (n : ℚ)) /
        10 ^ reciprocalPlaces digits n := by
  have positive_q : (0 : ℚ) < 1 / n := by positivity
  have exponent_eq : (digits : ℤ) - 1 - Int.log 10 |1 / (n : ℚ)| =
      (reciprocalPlaces digits n : ℕ) := by
    rw [abs_of_pos positive_q, one_div, Int.log_inv, Int.clog_natCast,
      reciprocalPlaces]
    omega
  rw [roundDigits, exponent_eq, roundPlaces, zpow_natCast]
  push_cast
  ring_nf

/-- The reciprocal of a number is cut so short that as many times of it as the
number says do not round to one. -/
def ShortReciprocal (digits n : ℕ) : Prop :=
  RoundsDown (10 ^ reciprocalPlaces digits n) n ∧
    10 ^ reciprocalPlaces digits n <
      2 * 10 ^ digits * (10 ^ reciprocalPlaces digits n % n)

instance (digits n : ℕ) : Decidable (ShortReciprocal digits n) :=
  inferInstanceAs (Decidable (_ ∧ _))

/-- Just below one the rounding keeps as many places as digits. -/
theorem roundDigits_lt_one_iff
    {digits : ℕ}
    (some_digit : 0 < digits)
    {q : ℚ}
    (le : 1 / 10 ≤ q)
    (less : q < 1) :
    roundDigits digits q < 1 ↔ 1 < 2 * 10 ^ digits * (1 - q) := by
  have positive : 0 < q := by linarith
  have log_ge : -1 ≤ Int.log 10 |q| := by
    rw [← zpow_le_iff positive]
    norm_num at *
    exact le
  have log_lt : ¬0 ≤ Int.log 10 |q| := by
    rw [← zpow_le_iff positive, zpow_zero, not_le]
    exact less
  have scale_eq : digitScale digits q = ((10 ^ digits : ℕ) : ℤ) := by
    have exponent_eq : (digits : ℤ) - 1 - Int.log 10 |q| = digits := by omega
    rw [digitScale, exponent_eq, zpow_natCast]
    push_cast
    rfl
  have scale_pos := digitScale_pos digits q
  have even : ((10 ^ digits : ℕ) : ℤ) % 2 = 0 := by
    obtain ⟨more, rfl⟩ := Nat.exists_eq_succ_of_ne_zero some_digit.ne'
    rw [pow_succ]
    omega
  have scaled_lt : q * digitScale digits q < ((10 ^ digits : ℕ) : ℤ) := by
    rw [← scale_eq]
    exact mul_lt_of_lt_one_left scale_pos less
  have powerCast : (((10 ^ digits : ℕ) : ℤ) : ℚ) = 10 ^ digits := by
    push_cast
    rfl
  rw [roundDigits_eq, div_lt_one scale_pos]
  nth_rewrite 2 [scale_eq]
  rw [Int.cast_lt, roundHalfEven_lt_iff_of_even even scaled_lt, scale_eq,
    powerCast]
  constructor <;> intro bound <;> linarith

/-- As many times the rounded reciprocal round to one unless the reciprocal is
cut too short. -/
theorem roundDigits_mul_reciprocal_lt_one_iff
    {digits n : ℕ}
    (some_digit : 0 < digits)
    (positive : 0 < n) :
    roundDigits digits (n * roundDigits digits (1 / (n : ℚ))) < 1 ↔
      ShortReciprocal digits n := by
  have split := Nat.div_add_mod (10 ^ reciprocalPlaces digits n) n
  have rest_lt := Nat.mod_lt (10 ^ reciprocalPlaces digits n) positive
  have n_le : n ≤ 10 ^ reciprocalPlaces digits n :=
    (Nat.le_pow_clog (by norm_num) n).trans
      (Nat.pow_le_pow_right (by norm_num) (Nat.le_add_left _ _))
  have power_pos : (0 : ℚ) < (10 ^ reciprocalPlaces digits n : ℕ) := by
    positivity
  have powerCast : ((10 ^ reciprocalPlaces digits n : ℕ) : ℚ) =
      10 ^ reciprocalPlaces digits n := by
    push_cast
    rfl
  rw [roundDigits_reciprocal some_digit positive,
    roundHalfEven_natCast_div positive, ← powerCast]
  unfold ShortReciprocal
  generalize 10 ^ reciprocalPlaces digits n = power at *
  have n_leCast : (n : ℚ) ≤ power := by exact_mod_cast n_le
  have splitCast : (n : ℚ) * (power / n : ℕ) + (power % n : ℕ) = power := by
    exact_mod_cast split
  have at_least_one {q : ℚ} (le : 1 ≤ q) : ¬roundDigits digits q < 1 := by
    have kept := @zpow_le_roundDigits _ some_digit q (by linarith) 0
      (by rw [zpow_zero]; exact le)
    rw [zpow_zero] at kept
    exact not_lt.mpr kept
  by_cases down : RoundsDown power n
  · rw [if_pos down]
    have product_eq : (n : ℚ) * ((((power / n : ℕ) : ℤ) : ℚ) / power) =
        1 - (power % n : ℕ) / power := by
      rw [Int.cast_natCast]
      field_simp
      linarith
    rw [product_eq, and_iff_right down]
    rcases Nat.eq_zero_or_pos (power % n) with none_left | some_left
    · rw [none_left, Nat.cast_zero, zero_div, sub_zero]
      exact iff_of_false (at_least_one le_rfl) (by omega)
    · have some_leftCast : (0 : ℚ) < (power % n : ℕ) := by
        exact_mod_cast some_left
      have half : (2 : ℚ) * (power % n : ℕ) ≤ n := by
        have : 2 * (power % n) ≤ n := by
          unfold RoundsDown at down
          omega
        exact_mod_cast this
      have share_pos : (0 : ℚ) < (power % n : ℕ) / power := by positivity
      have share_le : ((power % n : ℕ) : ℚ) / power ≤ 1 / 2 := by
        rw [div_le_div_iff₀ power_pos (by norm_num)]
        linarith
      have scaled : 1 < 2 * (10 : ℚ) ^ digits * ((power % n : ℕ) / power) ↔
          power < 2 * 10 ^ digits * (power % n) := by
        rw [← mul_div_assoc, one_lt_div power_pos]
        exact_mod_cast Iff.rfl
      rw [roundDigits_lt_one_iff some_digit (by linarith) (by linarith),
        sub_sub_cancel, scaled]
  · rw [if_neg down]
    refine iff_of_false (at_least_one ?_) (fun both => down both.1)
    have restCast : ((power % n : ℕ) : ℚ) < n := by exact_mod_cast rest_lt
    rw [Int.cast_add, Int.cast_natCast, Int.cast_one, ← mul_div_assoc,
      one_le_div power_pos]
    linarith

/-! ## Rounding again -/

theorem roundHalfEven_neg (q : ℚ) : roundHalfEven (-q) = -roundHalfEven q := by
  have floor_le := Int.floor_le q
  have lt_floor := Int.lt_floor_add_one q
  rcases eq_or_lt_of_le floor_le with whole | inside
  · rw [← whole, ← Int.cast_neg, roundHalfEven_intCast, roundHalfEven_intCast]
  · have floor_neg : ⌊-q⌋ = -⌊q⌋ - 1 := by
      rw [Int.floor_eq_iff]
      push_cast
      constructor <;> linarith
    unfold roundHalfEven
    simp only [floor_neg]
    push_cast
    split_ifs <;> first | omega | (exfalso; linarith)

theorem roundDigits_neg (digits : ℕ) (q : ℚ) :
    roundDigits digits (-q) = -roundDigits digits q := by
  rw [roundDigits, roundDigits, roundPlaces, roundPlaces, abs_neg, neg_mul,
    roundHalfEven_neg, Int.cast_neg, neg_div]

/-- What is kept has at most the digits of the precision. -/
theorem scaled_lt
    (digits : ℕ)
    {q : ℚ}
    (positive : 0 < q) :
    q * digitScale digits q < 10 ^ digits := by
  have scale_pos := digitScale_pos digits q
  have log_lt : q < 10 ^ (Int.log 10 |q| + 1) := by
    rw [← not_le, zpow_le_iff positive]
    omega
  calc q * digitScale digits q
      < 10 ^ (Int.log 10 |q| + 1) * digitScale digits q := by
        gcongr
    _ = 10 ^ digits := by
        rw [digitScale, ← zpow_add₀ (by norm_num), ← zpow_natCast]
        congr 1
        ring

/-- The scale of a number that has a first digit at a given place. -/
theorem digitScale_eq
    (digits : ℕ)
    {q : ℚ}
    (positive : 0 < q)
    {exponent : ℤ}
    (le : 10 ^ exponent ≤ q)
    (less : q < 10 ^ (exponent + 1)) :
    digitScale digits q = 10 ^ ((digits : ℤ) - 1 - exponent) := by
  have log_ge := (zpow_le_iff positive _).mp le
  have log_lt : ¬exponent + 1 ≤ Int.log 10 |q| := by
    rw [← zpow_le_iff positive]
    exact not_le.mpr less
  rw [digitScale, show Int.log 10 |q| = exponent by omega]

theorem roundDigits_roundDigits_of_pos
    {digits : ℕ}
    (some_digit : 0 < digits)
    {q : ℚ}
    (positive : 0 < q) :
    roundDigits digits (roundDigits digits q) = roundDigits digits q := by
  have scale_pos := digitScale_pos digits q
  have first_digit := le_scaled some_digit positive
  have last_digit := scaled_lt digits positive
  have digits_eq : ((digits - 1 : ℕ) : ℤ) = (digits : ℤ) - 1 := by omega
  have le : (10 : ℚ) ^ Int.log 10 |q| ≤ roundDigits digits q :=
    zpow_le_roundDigits some_digit positive
      ((zpow_le_iff positive _).mpr le_rfl)
  have rounded_pos : 0 < roundDigits digits q := by
    exact lt_of_lt_of_le (by positivity) le
  have kept_le : roundHalfEven (q * digitScale digits q) ≤ 10 ^ digits := by
    have upper := roundHalfEven_le (q * digitScale digits q)
    have : (roundHalfEven (q * digitScale digits q) : ℚ) <
        ((10 ^ digits + 1 : ℤ) : ℚ) := by
      push_cast
      linarith
    exact Int.lt_add_one_iff.mp (by exact_mod_cast this)
  have scaled_back : roundDigits digits q * digitScale digits q =
      roundHalfEven (q * digitScale digits q) := by
    rw [roundDigits_eq, div_mul_cancel₀ _ scale_pos.ne']
  -- Rounding up to the next power of ten moves the first digit.
  rcases eq_or_lt_of_le kept_le with power | less
  · have rounded : roundDigits digits q = 10 ^ (Int.log 10 |q| + 1) := by
      rw [roundDigits_eq, power, digitScale, div_eq_iff (by positivity),
        ← zpow_add₀ (by norm_num)]
      push_cast
      rw [← zpow_natCast]
      congr 1
      ring
    have scale := digitScale_eq digits rounded_pos rounded.ge
      (by rw [rounded]; exact zpow_lt_zpow_right₀ (by norm_num) (by omega))
    refine @roundPlaces_of_scaled _ _ (10 ^ (digits - 1) : ℕ) ?_
    change roundDigits digits q * digitScale digits (roundDigits digits q) = _
    rw [scale, rounded, ← zpow_add₀ (by norm_num)]
    push_cast
    rw [← zpow_natCast, digits_eq]
    congr 1
    ring
  · have below : roundDigits digits q < 10 ^ (Int.log 10 |q| + 1) := by
      have less_cast : (roundHalfEven (q * digitScale digits q) : ℚ) <
          10 ^ digits := by
        exact_mod_cast less
      rw [roundDigits_eq, div_lt_iff₀ scale_pos]
      refine lt_of_lt_of_eq less_cast ?_
      rw [digitScale, ← zpow_add₀ (by norm_num), ← zpow_natCast]
      congr 1
      ring
    have scale := digitScale_eq digits rounded_pos le below
    refine @roundPlaces_of_scaled _ _
      (roundHalfEven (q * digitScale digits q)) ?_
    change roundDigits digits q * digitScale digits (roundDigits digits q) = _
    rw [scale]
    exact scaled_back

/-- Rounding twice is rounding once. -/
theorem roundDigits_roundDigits
    {digits : ℕ}
    (some_digit : 0 < digits)
    (q : ℚ) :
    roundDigits digits (roundDigits digits q) = roundDigits digits q := by
  rcases lt_trichotomy q 0 with negative | rfl | positive
  · have opposite := roundDigits_roundDigits_of_pos some_digit
      (neg_pos.mpr negative)
    rw [roundDigits_neg, roundDigits_neg, neg_inj] at opposite
    exact opposite
  · have zero : roundDigits digits 0 = 0 :=
      @roundPlaces_of_scaled _ _ 0 (by simp)
    rw [zero, zero]
  · exact roundDigits_roundDigits_of_pos some_digit positive

/-! ## Fewer digits -/

/-- A whole number within less than a half is what a number rounds to. -/
theorem roundHalfEven_eq_of_near
    {n : ℤ}
    {q : ℚ}
    (near : |q - n| < 1 / 2) :
    roundHalfEven q = n := by
  have error := roundHalfEven_error q
  rw [abs_lt] at near
  rw [abs_le] at error
  have below : roundHalfEven q - n < (1 : ℤ) := by
    have belowCast : ((roundHalfEven q - n : ℤ) : ℚ) < 1 := by
      push_cast
      linarith
    exact_mod_cast belowCast
  have above : (-1 : ℤ) < roundHalfEven q - n := by
    have aboveCast : (-1 : ℚ) < ((roundHalfEven q - n : ℤ) : ℚ) := by
      push_cast
      linarith
    exact_mod_cast aboveCast
  omega

/-- Rounding to digits that end before the point cuts the digits after them. -/
theorem roundDigits_of_lt
    {digits places : ℕ}
    {q : ℚ}
    (positive : 0 < q)
    (le : (10 : ℚ) ^ (digits + places) ≤ q)
    (less : q < 10 ^ (digits + places + 1)) :
    roundDigits digits q =
      roundHalfEven (q / 10 ^ (places + 1)) * 10 ^ (places + 1) := by
  have exponent_le : (10 : ℚ) ^ ((digits + places : ℕ) : ℤ) ≤ q := by
    rw [zpow_natCast]
    exact le
  have lt_exponent : q < (10 : ℚ) ^ (((digits + places : ℕ) : ℤ) + 1) := by
    have same : ((digits + places : ℕ) : ℤ) + 1 =
        ((digits + places + 1 : ℕ) : ℤ) := by
      push_cast
      ring
    rw [same, zpow_natCast]
    exact less
  have scale : digitScale digits q = (10 ^ (places + 1))⁻¹ := by
    rw [digitScale_eq digits positive exponent_le lt_exponent,
      ← zpow_natCast, ← zpow_neg]
    congr 1
    push_cast
    ring
  rw [roundDigits_eq, scale, ← div_eq_mul_inv, div_inv_eq_mul]

/-- The digits cut off a number of few digits and some zeros are zeros. -/
theorem pow_cutDigits_dvd
    {short kept zeros : ℕ}
    (some_digit : 0 < short)
    (kept_le : kept ≤ 10 ^ short)
    (nonzero : kept * 10 ^ zeros ≠ 0) :
    10 ^ cutDigits short (kept * 10 ^ zeros) ∣ kept * 10 ^ zeros := by
  rcases kept_le.eq_or_lt with rfl | kept_lt
  · rw [← pow_add, cutDigits, Nat.log_pow (by norm_num)]
    exact pow_dvd_pow 10 (by omega)
  · have less_pow : kept * 10 ^ zeros < 10 ^ short * 10 ^ zeros :=
      Nat.mul_lt_mul_of_pos_right kept_lt (by positivity)
    rw [← pow_add] at less_pow
    have log_lt := Nat.log_lt_of_lt_pow nonzero less_pow
    have cut_le : cutDigits short (kept * 10 ^ zeros) ≤ zeros := by
      rw [cutDigits]
      omega
    exact (pow_dvd_pow 10 cut_le).trans (dvd_mul_left _ _)

/-- The power of ten at or below a number with some digits before the point. -/
theorem exists_places
    {short : ℕ}
    {q : ℚ}
    (positive : 0 < q)
    (short_le : (10 : ℚ) ^ short ≤ q) :
    ∃ places : ℕ,
      (10 : ℚ) ^ (short + places) ≤ q ∧ q < 10 ^ (short + places + 1) := by
  have log_ge := (zpow_le_iff positive (short : ℤ)).mp (by
    rw [zpow_natCast]
    exact short_le)
  obtain ⟨places, enough⟩ := Int.eq_ofNat_of_zero_le
    (a := Int.log 10 |q| - short) (by omega)
  refine ⟨places, ?_, ?_⟩
  · rw [← zpow_natCast, zpow_le_iff positive]
    push_cast
    omega
  · rw [← not_le, ← zpow_natCast, zpow_le_iff positive]
    push_cast
    omega

/-- A number that is above a power of ten when it is rounded to more digits and
to the point is not below it. -/
theorem pow_le_of_rounded
    {short digits units : ℕ}
    {q : ℚ}
    (fewer : short ≤ digits)
    (positive : 0 < q)
    (rounded : roundHalfEven (roundDigits digits q) = units)
    (long : 10 ^ short < units) :
    (10 : ℚ) ^ short ≤ q := by
  have last_error := roundHalfEven_error (roundDigits digits q)
  rw [rounded, Int.cast_natCast, abs_le] at last_error
  have longCast : (10 : ℚ) ^ short + 1 ≤ units := by
    exact_mod_cast long
  by_contra less
  rw [not_le] at less
  have digit_error := @roundDigits_error_of_lt digits q positive short (by
    rw [zpow_natCast]
    exact less)
  have unit_le : (10 : ℚ) ^ ((short : ℤ) - digits) ≤ 1 := by
    apply zpow_le_one_of_nonpos₀ (by norm_num)
    omega
  rw [abs_le] at digit_error
  linarith

/-- What is kept of a number has as many digits as are kept, or is the next
power of ten. -/
theorem kept_le_pow
    {short places kept : ℕ}
    {q : ℚ}
    (less : q < 10 ^ (short + places + 1))
    (kept_eq : roundHalfEven (q / 10 ^ (places + 1)) = kept) :
    kept ≤ 10 ^ short := by
  have upper := roundHalfEven_le (q / 10 ^ (places + 1))
  have quotient_lt : q / 10 ^ (places + 1) < 10 ^ short := by
    rw [div_lt_iff₀ (by positivity), ← pow_add]
    exact less
  rw [kept_eq] at upper
  have keptCast : (kept : ℚ) < (10 ^ short + 1 : ℕ) := by
    push_cast at upper ⊢
    linarith
  have kept_lt : kept < 10 ^ short + 1 := by exact_mod_cast keptCast
  omega

/-- A number is near the units it is rounded to with more digits, measured in
the last place that fewer digits keep. -/
theorem near_of_rounded
    {short digits places units count : ℕ}
    {q : ℚ}
    (more : short < digits)
    (positive : 0 < q)
    (less : q < 10 ^ (short + places + 1))
    (rounded : roundHalfEven (roundDigits digits q) = units)
    (units_eq : units = 10 ^ (places + 1) * count) :
    |q / 10 ^ (places + 1) - ((count : ℕ) : ℤ)| < 1 / 2 := by
  have last_error := roundHalfEven_error (roundDigits digits q)
  have digit_error := @roundDigits_error_of_lt digits q positive
    ((short + places + 1 : ℕ) : ℤ) (by
      rw [zpow_natCast]
      exact less)
  have unit_le : (10 : ℚ) ^ (((short + places + 1 : ℕ) : ℤ) - digits) ≤
      10 ^ places := by
    rw [← zpow_natCast]
    exact zpow_le_zpow_right₀ (by norm_num) (by push_cast; omega)
  have one_le : (1 : ℚ) ≤ 10 ^ places := one_le_pow₀ (by norm_num)
  have cut_pos : (0 : ℚ) < 10 ^ (places + 1) := by positivity
  have unitsCast : (units : ℚ) = 10 ^ (places + 1) * count := by
    exact_mod_cast units_eq
  have split : (10 : ℚ) ^ (places + 1) = 10 * 10 ^ places := by ring
  rw [rounded, Int.cast_natCast, abs_le, unitsCast, split] at last_error
  rw [abs_le] at digit_error
  rw [Int.cast_natCast, abs_lt, lt_sub_iff_add_lt, lt_div_iff₀ cut_pos,
    sub_lt_iff_lt_add, div_lt_iff₀ cut_pos, split]
  constructor <;> linarith

/-- A number rounded to more digits and to the point keeps its value when it is
rounded to fewer digits, exactly when it has no more than these. -/
theorem roundHalfEven_roundDigits_eq_iff
    {short digits units : ℕ}
    {q : ℚ}
    (some_digit : 0 < short)
    (fewer : short ≤ digits)
    (positive : 0 < q)
    (rounded : roundHalfEven (roundDigits digits q) = units)
    (long : 10 ^ short < units) :
    roundHalfEven (roundDigits short q) = units ↔
      10 ^ cutDigits short units ∣ units := by
  obtain ⟨places, le, less⟩ :=
    exists_places positive (pow_le_of_rounded fewer positive rounded long)
  obtain ⟨kept, kept_eq⟩ := Int.eq_ofNat_of_zero_le
    (roundHalfEven_nonneg (q := q / 10 ^ (places + 1)) (by positivity))
  have short_rounded : roundHalfEven (roundDigits short q) =
      (kept * 10 ^ (places + 1) : ℕ) := by
    rw [roundDigits_of_lt positive le less, kept_eq]
    have whole : ((kept : ℤ) : ℚ) * 10 ^ (places + 1) =
        ((kept * 10 ^ (places + 1) : ℕ) : ℤ) := by
      push_cast
      rfl
    rw [whole, roundHalfEven_intCast]
  rw [short_rounded, Nat.cast_inj]
  constructor
  · rintro rfl
    exact pow_cutDigits_dvd some_digit (kept_le_pow less kept_eq)
      (Nat.ne_zero_of_lt long)
  · intro zeros
    rcases fewer.eq_or_lt with rfl | more
    · rw [short_rounded, Nat.cast_inj] at rounded
      exact rounded
    have units_ge : 10 ^ (short + places) ≤ units := by
      have le_rounded := @zpow_le_roundDigits digits (by omega) q positive
        ((short + places : ℕ) : ℤ) (by
          rw [zpow_natCast]
          exact le)
      rw [zpow_natCast] at le_rounded
      have le_units := le_roundHalfEven_of_le
        (n := (10 ^ (short + places) : ℕ)) (by push_cast; exact le_rounded)
      rw [rounded] at le_units
      exact_mod_cast le_units
    have cut_ge : places + 1 ≤ cutDigits short units := by
      have log_ge := Nat.le_log_of_pow_le (by norm_num : 1 < 10) units_ge
      rw [cutDigits]
      omega
    obtain ⟨count, units_eq⟩ := (pow_dvd_pow 10 cut_ge).trans zeros
    have count_eq := roundHalfEven_eq_of_near
      (near_of_rounded more positive less rounded units_eq)
    rw [kept_eq, Nat.cast_inj] at count_eq
    rw [count_eq, units_eq, Nat.mul_comm]

end DecimalRounding
