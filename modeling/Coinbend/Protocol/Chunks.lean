import Coinbend.Protocol.Match
import Coinbend.Trade.Analysis

/-!
# The chunks of a contract

`format_contract` can divide a trade into chunks exactly when the smaller one
of its amount and its total is worth at least one satoshi.
-/

namespace Coinbend

/-- The decimal of an amount is below its next whole number of coins. -/
theorem C.asDecimal_le (c : C) : c.asDecimal ≤ (c.val : ℚ) / decBase := by
  have cut : c.satoshi * satoshiUnit ≤ c.val := Nat.div_mul_le_self _ _
  have cutCast : (c.satoshi : ℚ) * satoshiUnit ≤ c.val := by exact_mod_cast cut
  rw [C.asDecimal]
  rw [div_le_div_iff₀ (by norm_num [COIN]) (by norm_num [decBase])]
  simp only [COIN, decBase, satoshiUnit] at *
  push_cast at *
  linarith

theorem C.val_lt (c : C) : c.val < (wholeNoLimit + 1) * decBase := by
  have whole_le := c.whole_le
  rw [← c.toFixedPoint.value_div] at whole_le
  rw [← Nat.div_lt_iff_lt_mul decBase_pos]
  exact Nat.lt_succ_of_le whole_le

theorem C.asDecimal_lt (c : C) : c.asDecimal < wholeNoLimit + 1 := by
  refine c.asDecimal_le.trans_lt ?_
  rw [div_lt_iff₀ (by norm_num [decBase])]
  exact_mod_cast c.val_lt

/-- The amount below which a chunk is one satoshi. -/
theorem exists_threshold :
    ∃ threshold, C.ofDecimal (999 / 100000000) = .ok threshold ∧
      threshold.val = 999 * satoshiUnit := by
  obtain ⟨threshold, found⟩ :=
    C.ofDecimal_of_le (q := 999 / 100000000) (by norm_num)
      (by norm_num [wholeNoLimit])
  refine ⟨threshold, found, ?_⟩
  rw [((C.ofDecimal_eq_ok_iff _ _).mp found).2, ← C.unitsOf_satoshi]
  norm_num [COIN]

/-- Chunks of a ratio that is not too large can be printed. -/
theorem chunks_of_bounds
    {a b : C}
    {ca : ℚ}
    (positive : a.asDecimal ≠ 0)
    (ca_nonneg : 0 ≤ ca)
    (ca_le : ca ≤ wholeNoLimit)
    (cb_le : 9 / 4 * (b.asDecimal * (ca / a.asDecimal)) ≤ wholeNoLimit) :
    ∃ ratio, Trade.divideDecimals contractPrec ca a.asDecimal = .ok ratio ∧
      (∃ chunk, C.ofDecimal ca = .ok chunk) ∧
      ∃ chunk, C.ofDecimal
        (DecimalRounding.roundDigits contractPrec (b.asDecimal * ratio)) =
          .ok chunk := by
  refine ⟨_, if_neg positive, C.ofDecimal_of_le ca_nonneg ca_le, ?_⟩
  have a_nonneg := a.asDecimal_nonneg
  have b_nonneg := b.asDecimal_nonneg
  have quotient_nonneg : 0 ≤ ca / a.asDecimal := div_nonneg ca_nonneg a_nonneg
  have digits_pos : 1 ≤ contractPrec := by decide
  have ratio_le := DecimalRounding.roundDigits_le digits_pos quotient_nonneg
  have ratio_nonneg :=
    DecimalRounding.roundDigits_nonneg contractPrec quotient_nonneg
  have product_nonneg := mul_nonneg b_nonneg ratio_nonneg
  refine C.ofDecimal_of_le
    (DecimalRounding.roundDigits_nonneg _ product_nonneg) ?_
  have product_le := mul_le_mul_of_nonneg_left ratio_le b_nonneg
  calc DecimalRounding.roundDigits contractPrec _
      ≤ 3 / 2 * _ := DecimalRounding.roundDigits_le (by decide) product_nonneg
    _ ≤ 3 / 2 * (b.asDecimal * (3 / 2 * (ca / a.asDecimal))) := by gcongr
    _ = 9 / 4 * (b.asDecimal * (ca / a.asDecimal)) := by ring
    _ ≤ wholeNoLimit := cb_le

/-- Chunks exist when the smaller amount has a decimal and the larger one is
not too large for it. -/
theorem divisibleChunks_of_le
    {a b : C}
    (positive : a.satoshi ≠ 0)
    (moderate : a.val ≤ 999 * satoshiUnit →
      b.asDecimal ≤ 1000000000000000) :
    ∃ chunks, divisibleChunks a b = .ok chunks := by
  have one_satoshi : (1 : ℚ) / 100000000 ≤ a.asDecimal := by
    have count : (1 : ℚ) ≤ a.satoshi := by
      exact_mod_cast Nat.one_le_iff_ne_zero.mpr positive
    rw [C.asDecimal]
    simp only [COIN]
    push_cast
    linarith
  have nonzero : a.asDecimal ≠ 0 := by linarith
  have b_nonneg := b.asDecimal_nonneg
  obtain ⟨threshold, found, threshold_val⟩ := exists_threshold
  unfold divisibleChunks
  rw [Except.bind_of_eq_ok found]
  by_cases small : a ≤ threshold
  · have bounded := moderate (by
      rw [← threshold_val]
      exact (C.le_iff _ _).mp small)
    have quotient_le : 1 / 100000000 / a.asDecimal ≤ 1 := by
      rw [div_le_one (by linarith)]
      exact one_satoshi
    obtain ⟨ratio, divided, ⟨ca, ca_found⟩, cb, cb_found⟩ :=
      @chunks_of_bounds a b (1 / 100000000) nonzero (by norm_num)
        (by norm_num [wholeNoLimit]) (by
          have := mul_le_mul_of_nonneg_left quotient_le b_nonneg
          simp only [wholeNoLimit]
          push_cast
          linarith)
    refine ⟨(ca, cb), ?_⟩
    simp only [if_pos small]
    rw [Except.bind_of_eq_ok divided, Except.bind_of_eq_ok ca_found,
      Except.bind_of_eq_ok cb_found]
    rfl
  · have a_lt := a.asDecimal_lt
    have b_lt := b.asDecimal_lt
    have part_nonneg : 0 ≤ a.asDecimal * (5 / 1000) := by linarith
    have digits_pos : 1 ≤ contractPrec := by decide
    have part_le := DecimalRounding.roundDigits_le digits_pos part_nonneg
    have quotient_le : DecimalRounding.roundDigits contractPrec
        (a.asDecimal * (5 / 1000)) / a.asDecimal ≤ 3 / 400 := by
      rw [div_le_iff₀ (by linarith)]
      linarith
    obtain ⟨ratio, divided, ⟨ca, ca_found⟩, cb, cb_found⟩ :=
      @chunks_of_bounds a b _ nonzero
        (DecimalRounding.roundDigits_nonneg contractPrec part_nonneg)
        (by
          simp only [wholeNoLimit] at *
          push_cast at *
          linarith)
        (by
          have := mul_le_mul_of_nonneg_left quotient_le b_nonneg
          simp only [wholeNoLimit] at *
          push_cast at *
          linarith)
    refine ⟨(ca, cb), ?_⟩
    simp only [if_neg small]
    rw [Except.bind_of_eq_ok divided, Except.bind_of_eq_ok ca_found,
      Except.bind_of_eq_ok cb_found]
    rfl

/-- Without a decimal the division by the smaller amount raises. -/
theorem satoshi_of_divisibleChunks
    {a b : C}
    {chunks : C × C}
    (found : divisibleChunks a b = .ok chunks) :
    a.satoshi ≠ 0 := by
  unfold divisibleChunks at found
  rw [Except.bind_eq_ok_iff] at found
  obtain ⟨threshold, _, found⟩ := found
  simp only [Except.bind_eq_ok_iff] at found
  obtain ⟨ratio, divided, _⟩ := found
  intro zero
  unfold Trade.divideDecimals at divided
  rw [if_pos (by rw [C.asDecimal, zero]; simp)] at divided
  cases divided

/-- The larger one of amount and total is moderate when the smaller one is
small but not nothing. -/
theorem larger_le
    {amount ppc total : C}
    (product : amount.mul ppc = .ok total)
    {a b : C}
    (sides : (a = amount ∧ b = total) ∨ (a = total ∧ b = amount))
    (positive : a.satoshi ≠ 0)
    (small : a.val ≤ 999 * satoshiUnit) :
    b.asDecimal ≤ 1000000000000000 := by
  have total_val := C.val_mul product
  have ppc_lt := ppc.val_lt
  have bound : b.val ≤ 1000000000000000 * decBase := by
    rcases sides with ⟨rfl, rfl⟩ | ⟨rfl, rfl⟩
    · rw [total_val]
      refine Nat.div_le_of_le_mul ?_
      calc a.val * ppc.val
          ≤ 999 * satoshiUnit * ((wholeNoLimit + 1) * decBase) :=
            Nat.mul_le_mul small ppc_lt.le
        _ ≤ decBase * (1000000000000000 * decBase) := by decide
    · have total_pos : a.val ≠ 0 := by
        intro zero
        exact positive (by rw [C.satoshi, zero, Nat.zero_div])
      have price_pos : 0 < ppc.val := by
        rcases Nat.eq_zero_or_pos ppc.val with zero | some_price
        · rw [zero, Nat.mul_zero, Nat.zero_div] at total_val
          exact absurd total_val total_pos
        · exact some_price
      have product_lt : b.val * ppc.val < (999 * satoshiUnit + 1) * decBase := by
        rw [← Nat.div_lt_iff_lt_mul decBase_pos, ← total_val]
        exact Nat.lt_succ_of_le small
      have le_product : b.val ≤ b.val * ppc.val :=
        Nat.le_mul_of_pos_right _ price_pos
      have numeral : (999 * satoshiUnit + 1) * decBase ≤
          1000000000000000 * decBase := by decide
      omega
  refine b.asDecimal_le.trans ?_
  rw [div_le_iff₀ (by norm_num [decBase])]
  exact_mod_cast bound

/-- A trade is divided into chunks exactly when both its amount and its total
are worth a satoshi. -/
theorem exists_chunkLookup_iff
    {amount ppc total : C}
    (product : amount.mul ppc = .ok total) :
    (∃ chunks, chunkLookup amount total = .ok chunks) ↔
      amount.satoshi ≠ 0 ∧ total.satoshi ≠ 0 := by
  unfold chunkLookup
  constructor
  · rintro ⟨chunks, found⟩
    split at found
    next less =>
      rw [Except.bind_eq_ok_iff] at found
      obtain ⟨_, found, _⟩ := found
      have positive := satoshi_of_divisibleChunks found
      have mono := C.satoshi_mono (Nat.le_of_lt ((C.lt_iff _ _).mp less))
      omega
    next not_less =>
      rw [Except.bind_eq_ok_iff] at found
      obtain ⟨_, found, _⟩ := found
      have positive := satoshi_of_divisibleChunks found
      rw [C.lt_iff, Nat.not_lt] at not_less
      have mono := C.satoshi_mono not_less
      omega
  · rintro ⟨amount_positive, total_positive⟩
    split
    · obtain ⟨chunks, found⟩ := divisibleChunks_of_le amount_positive
        (larger_le product (Or.inl ⟨rfl, rfl⟩) amount_positive)
      rw [Except.bind_of_eq_ok found]
      exact ⟨_, rfl⟩
    · obtain ⟨chunks, found⟩ := divisibleChunks_of_le total_positive
        (larger_le product (Or.inr ⟨rfl, rfl⟩) total_positive)
      rw [Except.bind_of_eq_ok found]
      exact ⟨_, rfl⟩

end Coinbend
