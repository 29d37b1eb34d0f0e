import Mathlib.Algebra.Order.Field.Power
import Mathlib.Data.Int.Log
import Mathlib.Data.Rat.Floor
import Mathlib.Tactic.FieldSimp
import Mathlib.Tactic.Linarith

/-!
# Decimal rounding

Rounding of a rational number to a number of decimal places and to a number of
significant decimal digits, ties going to the even digit.  A decimal
arithmetic with bounded precision computes the exact rational result of each
operation and rounds it to its number of significant digits.
-/

namespace DecimalRounding

/-- Nearest integer, ties to even. -/
def roundHalfEven (q : ℚ) : ℤ :=
  let floor := ⌊q⌋
  let rest := q - floor
  if rest < 1 / 2 then floor
  else if 1 / 2 < rest then floor + 1
  else if floor % 2 = 0 then floor
  else floor + 1

/-- Round to `places` decimal places; negative places round whole digits. -/
def roundPlaces (places : ℤ) (q : ℚ) : ℚ :=
  roundHalfEven (q * 10 ^ places) / 10 ^ places

/-- Round to `digits` significant digits. -/
def roundDigits (digits : ℕ) (q : ℚ) : ℚ :=
  roundPlaces (digits - 1 - Int.log 10 |q|) q

theorem roundHalfEven_nonneg {q : ℚ} (nonneg : 0 ≤ q) :
    0 ≤ roundHalfEven q := by
  have floor_nonneg : 0 ≤ ⌊q⌋ := Int.floor_nonneg.mpr nonneg
  unfold roundHalfEven
  simp only
  split_ifs <;> omega

theorem roundDigits_nonneg (digits : ℕ) {q : ℚ} (nonneg : 0 ≤ q) :
    0 ≤ roundDigits digits q := by
  have scale : (0 : ℚ) ≤ 10 ^ ((digits : ℤ) - 1 - Int.log 10 |q|) := by
    positivity
  have rounded := roundHalfEven_nonneg (mul_nonneg nonneg scale)
  rw [roundDigits, roundPlaces]
  exact div_nonneg (by exact_mod_cast rounded) scale

/-- Rounding goes up by a half at most. -/
theorem roundHalfEven_le (q : ℚ) : (roundHalfEven q : ℚ) ≤ q + 1 / 2 := by
  have floor_le := Int.floor_le q
  unfold roundHalfEven
  simp only
  split_ifs <;> push_cast <;> linarith

/-- Rounding goes down by a half at most. -/
theorem le_roundHalfEven (q : ℚ) : q - 1 / 2 ≤ roundHalfEven q := by
  have lt_floor := Int.lt_floor_add_one q
  unfold roundHalfEven
  simp only
  split_ifs <;> push_cast <;> linarith

theorem floor_le_roundHalfEven (q : ℚ) : ⌊q⌋ ≤ roundHalfEven q := by
  unfold roundHalfEven
  simp only
  split_ifs <;> omega

/-- Less than a half is cut off. -/
theorem roundHalfEven_add_of_lt
    (n : ℤ)
    {rest : ℚ}
    (nonneg : 0 ≤ rest)
    (less : rest < 1 / 2) :
    roundHalfEven (n + rest) = n := by
  have floor : ⌊(n : ℚ) + rest⌋ = n := by
    rw [Int.floor_intCast_add,
      Int.floor_eq_zero_iff.mpr ⟨nonneg, by linarith⟩, add_zero]
  unfold roundHalfEven
  rw [floor]
  exact if_pos (by linarith)

/-- A tie goes to the even neighbour. -/
theorem roundHalfEven_add_half (n : ℤ) :
    roundHalfEven (n + 1 / 2) = n + n % 2 := by
  have floor : ⌊(n : ℚ) + 1 / 2⌋ = n := by
    rw [Int.floor_intCast_add, Int.floor_eq_zero_iff.mpr ⟨by norm_num, by norm_num⟩,
      add_zero]
  have rest : (n : ℚ) + 1 / 2 - n = 1 / 2 := by ring
  unfold roundHalfEven
  simp only [floor, rest, lt_irrefl, if_false]
  split <;> omega

/-- What is rounded to at least one digit grows by half of it at most. -/
theorem roundDigits_le
    {digits : ℕ}
    (some_digit : 0 < digits)
    {q : ℚ}
    (nonneg : 0 ≤ q) :
    roundDigits digits q ≤ 3 / 2 * q := by
  rcases nonneg.eq_or_lt with rfl | positive
  · have floor_zero : roundHalfEven 0 = 0 := by
      simp [roundHalfEven]
    simp [roundDigits, roundPlaces, floor_zero]
  · rw [roundDigits, roundPlaces, abs_of_pos positive]
    have scale_pos : (0 : ℚ) <
        10 ^ ((digits : ℤ) - 1 - Int.log 10 q) := by positivity
    rw [div_le_iff₀ scale_pos]
    refine (roundHalfEven_le _).trans ?_
    have log_le := Int.zpow_log_le_self (b := 10) (by norm_num) positive
    rw [Nat.cast_ofNat] at log_le
    have scaled : 1 ≤ q * 10 ^ ((digits : ℤ) - 1 - Int.log 10 q) := by
      calc (1 : ℚ)
          ≤ 10 ^ ((digits : ℤ) - 1) := one_le_zpow₀ (by norm_num) (by omega)
        _ = 10 ^ Int.log 10 q * 10 ^ ((digits : ℤ) - 1 - Int.log 10 q) := by
            rw [← zpow_add₀ (by norm_num)]
            congr 1
            ring
        _ ≤ q * 10 ^ ((digits : ℤ) - 1 - Int.log 10 q) := by gcongr
    linarith

/-! ## Whole numbers -/

/-- A whole number is its own nearest integer. -/
@[simp] theorem roundHalfEven_intCast (n : ℤ) :
    roundHalfEven (n : ℚ) = n := by
  simp [roundHalfEven]

/-- Rounding to places that do not cut a number leaves it alone. -/
theorem roundPlaces_of_scaled
    {places : ℤ}
    {q : ℚ}
    {scaled : ℤ}
    (exact_ : q * 10 ^ places = scaled) :
    roundPlaces places q = q := by
  have base_ne : (10 : ℚ) ^ places ≠ 0 := zpow_ne_zero _ (by norm_num)
  rw [roundPlaces, exact_, roundHalfEven_intCast, ← exact_,
    mul_div_cancel_right₀ _ base_ne]

/-- A decimal with no more digits than the precision is its own rounding. -/
theorem roundDigits_of_few_digits
    {digits n places : ℕ}
    (few : n < 10 ^ digits) :
    roundDigits digits ((n : ℚ) / 10 ^ places) = n / 10 ^ places := by
  rcases Nat.eq_zero_or_pos n with rfl | positive
  · rw [roundDigits, Nat.cast_zero, zero_div]
    exact @roundPlaces_of_scaled _ _ 0 (by simp)
  · have positive_q : (0 : ℚ) < n / 10 ^ places := by positivity
    have below : (n : ℚ) / 10 ^ places < 10 ^ ((digits : ℤ) - places) := by
      rw [zpow_sub₀ (by norm_num), zpow_natCast, zpow_natCast]
      gcongr
      exact_mod_cast few
    have log_lt : Int.log 10 ((n : ℚ) / 10 ^ places) < digits - places := by
      refine (Int.lt_zpow_iff_log_lt (by norm_num) positive_q).mp ?_
      rw [Nat.cast_ofNat]
      exact below
    rw [roundDigits, abs_of_pos positive_q]
    obtain ⟨more, enough⟩ := Int.eq_ofNat_of_zero_le
      (a := (digits : ℤ) - 1 - Int.log 10 ((n : ℚ) / 10 ^ places) - places)
      (by omega)
    have split : (digits : ℤ) - 1 - Int.log 10 ((n : ℚ) / 10 ^ places) =
        (more : ℤ) + places := by
      omega
    refine @roundPlaces_of_scaled _ _ (n * 10 ^ more : ℕ) ?_
    rw [split, zpow_add₀ (by norm_num), zpow_natCast, zpow_natCast]
    push_cast
    field_simp

/-- The digits of a whole number that a precision cuts off. -/
def cutDigits (digits n : ℕ) : ℕ :=
  Nat.log 10 n + 1 - digits

theorem roundDigits_natCast_places (digits n : ℕ) :
    roundDigits digits (n : ℚ) =
      roundPlaces ((digits : ℤ) - (Nat.log 10 n + 1 : ℕ)) n := by
  rw [roundDigits, Nat.abs_cast, Int.log_natCast]
  congr 1
  push_cast
  ring

/-- A whole number keeps its value when the digits cut off are zeros. -/
theorem roundDigits_natCast_of_dvd
    {digits n : ℕ}
    (zeros : 10 ^ cutDigits digits n ∣ n) :
    roundDigits digits (n : ℚ) = n := by
  rw [roundDigits_natCast_places]
  rcases Nat.le_total (Nat.log 10 n + 1) digits with fits | cut
  · obtain ⟨places, enough⟩ := Nat.exists_eq_add_of_le fits
    have places_eq : (digits : ℤ) - (Nat.log 10 n + 1 : ℕ) = places := by
      rw [enough]
      push_cast
      ring
    have scaled : (n : ℚ) * 10 ^ ((digits : ℤ) - (Nat.log 10 n + 1 : ℕ)) =
        ((n * 10 ^ places : ℕ) : ℤ) := by
      rw [places_eq, zpow_natCast]
      push_cast
      rfl
    exact roundPlaces_of_scaled scaled
  · obtain ⟨rest, split⟩ := zeros
    refine @roundPlaces_of_scaled _ _ rest ?_
    have places_eq : (digits : ℤ) - (Nat.log 10 n + 1 : ℕ) =
        -(cutDigits digits n : ℕ) := by
      unfold cutDigits
      omega
    rw [places_eq, zpow_neg, zpow_natCast]
    have splitCast : (n : ℚ) = 10 ^ cutDigits digits n * rest := by
      exact_mod_cast split
    rw [splitCast, Int.cast_natCast]
    field_simp

/-- Rounding a whole number that is long enough cuts its last digits. -/
theorem roundDigits_natCast_of_long
    {digits n : ℕ}
    (long : digits ≤ Nat.log 10 n + 1) :
    roundDigits digits (n : ℚ) =
      roundHalfEven ((n : ℚ) / 10 ^ cutDigits digits n) *
        10 ^ cutDigits digits n := by
  have places_eq : (digits : ℤ) - (Nat.log 10 n + 1 : ℕ) =
      -(cutDigits digits n : ℕ) := by
    unfold cutDigits
    omega
  rw [roundDigits_natCast_places, places_eq, roundPlaces, zpow_neg,
    zpow_natCast, div_inv_eq_mul, div_eq_mul_inv]

/-- Rounding that cuts digits leaves a multiple of their power of ten. -/
theorem dvd_floor_roundDigits_natCast (digits n : ℕ) :
    ((10 ^ cutDigits digits n : ℕ) : ℤ) ∣ ⌊roundDigits digits (n : ℚ)⌋ := by
  rcases Nat.le_total (Nat.log 10 n + 1) digits with fits | cut
  · have none_cut : cutDigits digits n = 0 := by
      unfold cutDigits
      omega
    simp [none_cut]
  · have places_eq : (digits : ℤ) - (Nat.log 10 n + 1 : ℕ) =
        -(cutDigits digits n : ℕ) := by
      unfold cutDigits
      omega
    rw [roundDigits_natCast_places, places_eq, roundPlaces, zpow_neg,
      zpow_natCast, div_inv_eq_mul]
    refine ⟨roundHalfEven (n * ((10 : ℚ) ^ cutDigits digits n)⁻¹), ?_⟩
    have whole : (roundHalfEven (n * ((10 : ℚ) ^ cutDigits digits n)⁻¹) : ℚ) *
        10 ^ cutDigits digits n =
        ((10 ^ cutDigits digits n : ℕ) *
          roundHalfEven (n * ((10 : ℚ) ^ cutDigits digits n)⁻¹) : ℤ) := by
      push_cast
      ring
    rw [whole, Int.floor_intCast]

/-- A whole number survives rounding to a precision exactly when the digits
cut off are zeros. -/
theorem floor_roundDigits_natCast_eq_iff (digits n : ℕ) :
    ⌊roundDigits digits (n : ℚ)⌋ = n ↔ 10 ^ cutDigits digits n ∣ n := by
  constructor
  · intro survives
    have divides := dvd_floor_roundDigits_natCast digits n
    rw [survives] at divides
    exact_mod_cast divides
  · intro zeros
    rw [roundDigits_natCast_of_dvd zeros, Int.floor_natCast]

end DecimalRounding
