import Coinbend.Library.DecimalRounding
import Coinbend.Library.FixedPoint
import Coinbend.PyError
import Mathlib.Data.Rat.Defs
import Mathlib.Algebra.Order.Field.Rat
import Mathlib.Tactic.Linarith

/-!
# Currency amounts

Class `C` of `currency_type.py`: a non-negative amount kept as a whole part up
to the database's 64-bit limit and sixteen decimals.  Arithmetic raises when a
result leaves the range.  `as_str` and `as_decimal` show the amount cut to
`limit_precision` = 8 decimals.
-/

namespace Coinbend

/-- `C.whole_no_limit`. -/
def wholeNoLimit : Nat := 18446744073709551610

/-- One whole unit counted in the last of the `C.precision` = 16 decimals. -/
def decBase : Nat := 10000000000000000

/-- One unit of the eighth decimal, counted in the sixteenth. -/
def satoshiUnit : Nat := 100000000

/-- Satoshi in one whole coin. -/
def COIN : Nat := 100000000

theorem decBase_pos : 0 < decBase := by decide

theorem satoshiUnit_pos : 0 < satoshiUnit := by decide

/-- An amount within the range `C.number` admits. -/
structure C extends FixedPoint decBase where
  whole_le : whole ≤ wholeNoLimit
  deriving DecidableEq

namespace C

/-- The amount counted in units of the sixteenth decimal. -/
abbrev val (c : C) : Nat :=
  c.toFixedPoint.value

theorem val_injective : Function.Injective val := by
  intro x y equal
  have parts := FixedPoint.value_injective equal
  cases x
  cases y
  simp_all

theorem eq_iff (x y : C) : x = y ↔ x.val = y.val :=
  val_injective.eq_iff.symm

/-- `C(0)`. -/
def zero : C where
  whole := 0
  dec := 0
  dec_lt := decBase_pos
  whole_le := Nat.zero_le _

instance : Zero C := ⟨zero⟩

@[simp] theorem val_zero : (0 : C).val = 0 := rfl

theorem eq_zero_iff (c : C) : c = 0 ↔ c.val = 0 := by
  rw [eq_iff, val_zero]

/-- The range check of `C.number` on two parts. -/
def ofParts (x : FixedPoint decBase) : Except PyError C :=
  if bounded : x.whole ≤ wholeNoLimit then
    .ok { toFixedPoint := x, whole_le := bounded }
  else
    .error (.exception "whole overflow in math bignum func")

/-- An in-range amount from its count of sixteenth decimals. -/
def ofVal (n : Nat) (bounded : n / decBase ≤ wholeNoLimit) : C where
  toFixedPoint := FixedPoint.ofValue decBase_pos n
  whole_le := bounded

/-- A small whole number of coins. -/
def coins
    (n : Nat)
    (bounded : n.ble wholeNoLimit = true := by exact Eq.refl true) : C where
  whole := n
  dec := 0
  dec_lt := decBase_pos
  whole_le := Nat.le_of_ble_eq_true bounded

/-! Amounts that the samples of several modules write out are in range. -/

theorem oneCoin_bounded : 10 ^ 16 / decBase ≤ wholeNoLimit := by decide

theorem half_bounded : 5000000000000000 / decBase ≤ wholeNoLimit := by decide

theorem deposit_bounded : 1234567800000000 / decBase ≤ wholeNoLimit := by
  decide

theorem onePercent_bounded : 100000000000000 / decBase ≤ wholeNoLimit := by
  decide

@[simp] theorem val_ofVal (n : Nat) (bounded : n / decBase ≤ wholeNoLimit) :
    (ofVal n bounded).val = n :=
  FixedPoint.value_ofValue decBase_pos n

/-! ## Arithmetic -/

/-- What a difference below zero raises. -/
def negativeError : PyError :=
  .exception "whole cannot be negative in bignum func"

/-- `C.__add__`. -/
def add (a b : C) : Except PyError C :=
  ofParts (a.toFixedPoint.add b.toFixedPoint)

/-- `C.__sub__`. -/
def sub (a b : C) : Except PyError C :=
  match a.toFixedPoint.sub? b.toFixedPoint with
  | some difference => ofParts difference
  | none => .error negativeError

/-- `C.__mul__`: the product of the digit strings, its fractional part cut
after sixteen digits. -/
def mul (a b : C) : Except PyError C :=
  ofParts (FixedPoint.ofValue decBase_pos (a.val * b.val / decBase))

/-- `C.__lt__`. -/
instance : LT C := ⟨fun a b => a.toFixedPoint.Less b.toFixedPoint⟩

/-- `C.__le__`: less or equal in both parts. -/
instance : LE C := ⟨fun a b => a < b ∨ a = b⟩

instance (a b : C) : Decidable (a < b) :=
  inferInstanceAs (Decidable (a.toFixedPoint.Less b.toFixedPoint))

instance (a b : C) : Decidable (a ≤ b) :=
  inferInstanceAs (Decidable (a < b ∨ a = b))

/-! ## The eight visible decimals -/

/-- The amount cut to eight decimals, counted in satoshi. -/
def satoshi (c : C) : Nat :=
  c.val / satoshiUnit

/-- `C.as_decimal`. -/
def asDecimal (c : C) : ℚ :=
  (c.satoshi : ℚ) / COIN

/-- `C(decimal)`: the decimal printed with sixteen places and parsed; the sign
of a negative one is not part of the grammar. -/
def ofDecimal (q : ℚ) : Except PyError C :=
  let units := (DecimalRounding.roundHalfEven (q * decBase)).toNat
  if q < 0 then
    .error (.exception "Invalid number format for pieces.")
  else if bounded : units / decBase ≤ wholeNoLimit then
    .ok (ofVal units bounded)
  else
    .error (.exception "Whole number overflow in number")

/-- `str(c)`: the eight visible decimals without their last zeros, and `.00`
when none is left. -/
def str (c : C) : String :=
  let dec := toString (c.satoshi % COIN)
  let digits := List.replicate (8 - dec.length) '0' ++ dec.toList
  let significant := (digits.reverse.dropWhile (· = '0')).reverse
  if significant = [] then toString c.whole ++ ".00"
  else toString c.whole ++ "." ++ String.ofList significant

/-! ## Properties -/

theorem lt_iff (a b : C) : a < b ↔ a.val < b.val :=
  FixedPoint.less_iff _ _

theorem le_iff (a b : C) : a ≤ b ↔ a.val ≤ b.val := by
  change a < b ∨ a = b ↔ _
  rw [lt_iff, eq_iff]
  omega

theorem ofParts_eq_ok_iff (x : FixedPoint decBase) (c : C) :
    ofParts x = .ok c ↔ c.toFixedPoint = x := by
  unfold ofParts
  split
  · rw [Except.ok.injEq]
    constructor
    · rintro rfl
      rfl
    · rintro rfl
      rfl
  next unbounded =>
    constructor
    · intro impossible
      cases impossible
    · rintro rfl
      exact absurd c.whole_le unbounded

/-- A value in range passes the check. -/
theorem ofParts_of_le
    {x : FixedPoint decBase}
    {c : C}
    (le : x.value ≤ c.val) :
    ∃ d, ofParts x = .ok d ∧ d.val = x.value := by
  have bounded : x.whole ≤ wholeNoLimit := by
    rw [← x.value_div]
    refine Nat.le_trans (Nat.div_le_div_right le) ?_
    rw [c.toFixedPoint.value_div]
    exact c.whole_le
  refine ⟨{ toFixedPoint := x, whole_le := bounded }, ?_, rfl⟩
  exact (ofParts_eq_ok_iff _ _).mpr rfl

theorem ofParts_ne_negativeError (x : FixedPoint decBase) :
    ofParts x ≠ .error negativeError := by
  unfold ofParts negativeError
  split <;> simp

theorem add_ne_negativeError (a b : C) : a.add b ≠ .error negativeError :=
  ofParts_ne_negativeError _

/-- Arithmetic looks nothing up. -/
theorem ofParts_ne_keyError (x : FixedPoint decBase) :
    ofParts x ≠ .error .keyError := by
  unfold ofParts
  split <;> simp

theorem add_ne_keyError (a b : C) : a.add b ≠ .error .keyError :=
  ofParts_ne_keyError _

theorem mul_ne_keyError (a b : C) : a.mul b ≠ .error .keyError :=
  ofParts_ne_keyError _

theorem sub_ne_keyError (a b : C) : a.sub b ≠ .error .keyError := by
  unfold sub
  split
  · exact ofParts_ne_keyError _
  · simp [negativeError]

theorem ofDecimal_ne_keyError (q : ℚ) : ofDecimal q ≠ .error .keyError := by
  unfold ofDecimal
  simp only
  split
  · simp
  · split <;> simp

/-- A sum that succeeds is exact. -/
theorem val_add {a b c : C} (sum : a.add b = .ok c) :
    c.val = a.val + b.val := by
  rw [add, ofParts_eq_ok_iff] at sum
  rw [val, sum, FixedPoint.value_add]

/-- A sum below some amount succeeds. -/
theorem add_of_le {a b c : C} (le : a.val + b.val ≤ c.val) :
    ∃ d, a.add b = .ok d ∧ d.val = a.val + b.val := by
  obtain ⟨d, found, value⟩ := ofParts_of_le
    (x := a.toFixedPoint.add b.toFixedPoint) (c := c)
    (by rw [FixedPoint.value_add]; exact le)
  exact ⟨d, found, by rw [value, FixedPoint.value_add]⟩

@[simp] theorem add_zero (a : C) : a.add 0 = .ok a := by
  obtain ⟨sum, found, value⟩ := add_of_le (a := a) (b := 0) (c := a)
    (by rw [val_zero, Nat.add_zero])
  rw [found, Except.ok.injEq, eq_iff, value, val_zero, Nat.add_zero]

/-- A difference that is not negative succeeds and is exact. -/
theorem sub_of_le {a b : C} (le : b.val ≤ a.val) :
    ∃ d, a.sub b = .ok d ∧ d.val = a.val - b.val := by
  rcases FixedPoint.sub?_spec a.toFixedPoint b.toFixedPoint with
    ⟨_, difference, found, value⟩ | ⟨less, _⟩
  · obtain ⟨d, checked, exact⟩ := ofParts_of_le
      (x := difference) (c := a) (by rw [value]; exact Nat.sub_le _ _)
    refine ⟨d, ?_, exact.trans value⟩
    rw [sub, found]
    exact checked
  · exact absurd le (Nat.not_le_of_lt less)

/-- A negative difference raises. -/
theorem sub_of_lt {a b : C} (less : a.val < b.val) :
    a.sub b = .error negativeError := by
  rcases FixedPoint.sub?_spec a.toFixedPoint b.toFixedPoint with
    ⟨le, _⟩ | ⟨_, missing⟩
  · exact absurd less (Nat.not_lt_of_le le)
  · rw [sub, missing]

theorem val_sub {a b c : C} (difference : a.sub b = .ok c) :
    b.val ≤ a.val ∧ c.val = a.val - b.val := by
  rcases Nat.lt_or_ge a.val b.val with less | le
  · rw [sub_of_lt less] at difference
    cases difference
  · obtain ⟨d, found, value⟩ := sub_of_le le
    rw [found] at difference
    cases difference
    exact ⟨le, value⟩

/-- A product that succeeds is the exact one cut to sixteen decimals. -/
theorem val_mul {a b c : C} (product : a.mul b = .ok c) :
    c.val = a.val * b.val / decBase := by
  rw [mul, ofParts_eq_ok_iff] at product
  rw [val, product, FixedPoint.value_ofValue]

/-- A product below some amount succeeds. -/
theorem mul_of_le {a b c : C} (le : a.val * b.val / decBase ≤ c.val) :
    ∃ d, a.mul b = .ok d ∧ d.val = a.val * b.val / decBase := by
  obtain ⟨d, found, value⟩ := ofParts_of_le
    (x := FixedPoint.ofValue decBase_pos (a.val * b.val / decBase)) (c := c)
    (by rw [FixedPoint.value_ofValue]; exact le)
  exact ⟨d, found, by rw [value, FixedPoint.value_ofValue]⟩

theorem add_eq_ok_iff (a b c : C) :
    a.add b = .ok c ↔ c.val = a.val + b.val := by
  constructor
  · exact val_add
  · intro value
    obtain ⟨sum, found, sum_val⟩ := add_of_le value.ge
    rw [found, Except.ok.injEq, eq_iff, sum_val, value]

theorem mul_eq_ok_iff (a b c : C) :
    a.mul b = .ok c ↔ c.val = a.val * b.val / decBase := by
  constructor
  · exact val_mul
  · intro value
    obtain ⟨product, found, product_val⟩ := mul_of_le value.ge
    rw [found, Except.ok.injEq, eq_iff, product_val, value]

/-- Some amount has a value when its whole part is in range. -/
theorem exists_val_iff (n : Nat) :
    (∃ c : C, c.val = n) ↔ n / decBase ≤ wholeNoLimit := by
  constructor
  · rintro ⟨c, rfl⟩
    rw [c.toFixedPoint.value_div]
    exact c.whole_le
  · intro bounded
    exact ⟨ofVal n bounded, val_ofVal n bounded⟩

/-- A decimal in units of the sixteenth place, as `C(decimal)` rounds it. -/
def unitsOf (q : ℚ) : Nat :=
  (DecimalRounding.roundHalfEven (q * decBase)).toNat

theorem ofDecimal_eq_ok_iff (q : ℚ) (c : C) :
    ofDecimal q = .ok c ↔ 0 ≤ q ∧ c.val = unitsOf q := by
  unfold ofDecimal unitsOf
  simp only
  split
  next negative =>
    constructor
    · intro impossible
      cases impossible
    · rintro ⟨nonneg, _⟩
      exact absurd negative (not_lt.mpr nonneg)
  next nonneg =>
    rw [not_lt] at nonneg
    split
    next bounded =>
      rw [Except.ok.injEq, eq_iff, val_ofVal]
      exact ⟨fun same => ⟨nonneg, same.symm⟩, fun both => both.2.symm⟩
    next unbounded =>
      constructor
      · intro impossible
        cases impossible
      · rintro ⟨_, same⟩
        exact absurd ((exists_val_iff _).mp ⟨c, same⟩) unbounded

theorem ofDecimal_of_overflow
    {q : ℚ}
    (nonneg : 0 ≤ q)
    (overflow : wholeNoLimit < unitsOf q / decBase) :
    ofDecimal q = .error (.exception "Whole number overflow in number") := by
  unfold unitsOf at overflow
  unfold ofDecimal
  simp only [if_neg (not_lt.mpr nonneg), dif_neg (Nat.not_le_of_lt overflow)]

theorem mul_of_overflow
    {a b : C}
    (overflow : wholeNoLimit < a.val * b.val / decBase / decBase) :
    a.mul b = .error (.exception "whole overflow in math bignum func") := by
  have whole : (FixedPoint.ofValue decBase_pos
      (a.val * b.val / decBase)).whole = a.val * b.val / decBase / decBase := by
    rw [← FixedPoint.value_div, FixedPoint.value_ofValue]
  rw [mul, ofParts, dif_neg]
  rw [whole]
  exact Nat.not_le_of_lt overflow

theorem exists_mul_iff (a b : C) :
    (∃ c, a.mul b = .ok c) ↔
      a.val * b.val / decBase / decBase ≤ wholeNoLimit := by
  rw [← exists_val_iff]
  exact exists_congr fun c => mul_eq_ok_iff a b c

/-- Decimals with the same sixteen places are read the same. -/
theorem ofDecimal_congr
    {p q : ℚ}
    (p_nonneg : 0 ≤ p)
    (q_nonneg : 0 ≤ q)
    (same : unitsOf p = unitsOf q) :
    ofDecimal p = ofDecimal q := by
  unfold unitsOf at same
  unfold ofDecimal
  simp only [not_lt.mpr p_nonneg, not_lt.mpr q_nonneg, if_false, same]

theorem asDecimal_nonneg (c : C) : 0 ≤ c.asDecimal := by
  unfold asDecimal
  positivity

/-- Decimals up to the limit are read. -/
theorem ofDecimal_of_le
    {q : ℚ}
    (nonneg : 0 ≤ q)
    (le : q ≤ wholeNoLimit) :
    ∃ c, ofDecimal q = .ok c := by
  have rounded : DecimalRounding.roundHalfEven (q * decBase) ≤
      (wholeNoLimit * decBase : ℕ) := by
    have bound := DecimalRounding.roundHalfEven_le (q * decBase)
    have scaled : q * decBase ≤ (wholeNoLimit * decBase : ℕ) := by
      push_cast
      gcongr
    have below : (DecimalRounding.roundHalfEven (q * decBase) : ℚ) <
        ((wholeNoLimit * decBase : ℕ) : ℤ) + 1 := by
      push_cast at *
      linarith
    exact Int.lt_add_one_iff.mp (by exact_mod_cast below)
  have bounded : unitsOf q / decBase ≤ wholeNoLimit := by
    rw [Nat.div_le_iff_le_mul_add_pred decBase_pos,
      Nat.mul_comm decBase wholeNoLimit]
    unfold unitsOf
    omega
  obtain ⟨c, value⟩ := (exists_val_iff _).mpr bounded
  exact ⟨c, (ofDecimal_eq_ok_iff _ _).mpr ⟨nonneg, value⟩⟩

/-- Whole satoshi are read exactly. -/
theorem unitsOf_satoshi (n : Nat) :
    unitsOf ((n : ℚ) / COIN) = n * satoshiUnit := by
  have scale : (n : ℚ) / COIN * decBase = ((n * satoshiUnit : ℕ) : ℤ) := by
    simp only [COIN, decBase, satoshiUnit]
    push_cast
    ring
  rw [unitsOf, scale, DecimalRounding.roundHalfEven_intCast, Int.toNat_natCast]

@[simp] theorem ofDecimal_zero : ofDecimal 0 = .ok 0 := by
  rw [ofDecimal_eq_ok_iff]
  have none := unitsOf_satoshi 0
  rw [Nat.cast_zero, zero_div, Nat.zero_mul] at none
  exact ⟨le_rfl, none.symm⟩

theorem satoshi_mono {a b : C} (le : a.val ≤ b.val) :
    a.satoshi ≤ b.satoshi :=
  Nat.div_le_div_right le

example : (ofVal 12345678901234567890 (by decide)).str = "1234.56789012" := by
  decide +kernel

end C
end Coinbend
