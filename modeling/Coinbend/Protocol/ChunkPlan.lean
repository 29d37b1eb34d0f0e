import Coinbend.Library.RoundingError
import Coinbend.Microtransfer.AdjustRefund
import Coinbend.Protocol.Chunks
import Coinbend.Trade.Book

/-!
# The chunk plan

What `format_contract` writes into a contract as the chunks of the amount and
of the total.  The smaller side gets one satoshi or half a percent, the larger
side the same share of itself, computed with two roundings to eight digits and
cut to eight decimals at the end.
-/

namespace Coinbend

open DecimalRounding

/-- The sides of a trade and their chunks, ordered by size. -/
structure ChunkPlan where
  smaller : C
  larger : C
  smallerChunk : C
  largerChunk : C

/-- The plan a contract message makes for a trade. -/
def ContractMsg.chunkPlan (msg : ContractMsg) (trade : Trade) : ChunkPlan :=
  if trade.amount < trade.total then
    { smaller := trade.amount
      larger := trade.total
      smallerChunk := msg.amountChunk
      largerChunk := msg.totalChunk }
  else
    { smaller := trade.total
      larger := trade.amount
      smallerChunk := msg.totalChunk
      largerChunk := msg.amountChunk }

/-- What has been moved of an amount after a number of payments. -/
def transferred (amount chunk : C) : Nat → Except PyError C
  | 0 => .ok 0
  | count + 1 => do
      let moved ← transferred amount chunk count
      let size ← MicrotransferContract.chunkSize amount moved chunk
      moved.add size

namespace ChunkPlan

def Positive (plan : ChunkPlan) : Prop :=
  0 < plan.smallerChunk ∧ 0 < plan.largerChunk

def WithinSides (plan : ChunkPlan) : Prop :=
  plan.smallerChunk ≤ plan.smaller ∧ plan.largerChunk ≤ plan.larger

/-- The larger chunk is off the smaller one's share by less than two satoshi
or by less than one part in ten million. -/
def InProportion (plan : ChunkPlan) : Prop :=
  let share : ℚ := plan.larger.val * plan.smallerChunk.val / plan.smaller.val
  let error := |(plan.largerChunk.val : ℚ) - share|
  error < 2 * satoshiUnit ∨ error < share / 10 ^ 7

/-- Payments of either chunk move every amount completely. -/
def Finite (plan : ChunkPlan) : Prop :=
  ∀ amount : C,
    (∃ count, transferred amount plan.smallerChunk count = .ok amount) ∧
      ∃ count, transferred amount plan.largerChunk count = .ok amount

end ChunkPlan

def Trade.smallerSide (trade : Trade) : C :=
  if trade.amount < trade.total then trade.amount else trade.total

def Trade.largerSide (trade : Trade) : C :=
  if trade.amount < trade.total then trade.total else trade.amount

/-- The chunk of a side up to 999 satoshi is one satoshi. -/
def C.SmallSide (side : C) : Prop :=
  side.val ≤ 999 * satoshiUnit

/-- The half percent of a side, in satoshi. -/
def C.halfPercent (side : C) : ℚ :=
  roundDigits contractPrec ((side.satoshi : ℚ) / 200)

/-- The sides are equal in satoshi and small, and the reciprocal of their
satoshi is cut too short. -/
def Trade.ChunkVanishes (trade : Trade) : Prop :=
  trade.smallerSide.SmallSide ∧
    trade.largerSide.satoshi = trade.smallerSide.satoshi ∧
    ShortReciprocal contractPrec trade.smallerSide.satoshi

/-- The smaller side is one satoshi, and eight digits of the larger one are
more than it. -/
def Trade.ChunkExceeds (trade : Trade) : Prop :=
  trade.smallerSide.satoshi = 1 ∧
    ¬RoundsDown trade.largerSide.satoshi
      (10 ^ cutDigits contractPrec trade.largerSide.satoshi)

/-- Nothing is cut before the larger chunk is: the sides are whole satoshi,
and so is the chunk of the smaller side. -/
def Trade.Uncut (trade : Trade) : Prop :=
  satoshiUnit ∣ trade.amount.val ∧ satoshiUnit ∣ trade.total.val ∧
    (trade.smallerSide.SmallSide ∨
      ∃ whole : ℕ, trade.smallerSide.halfPercent = whole)

/-! ## Payments -/

theorem transferred_spec (amount chunk : C) (count : Nat) :
    ∃ moved, transferred amount chunk count = .ok moved ∧
      moved.val = Saturation.level amount.val chunk.val count := by
  induction count with
  | zero => exact ⟨0, rfl, by rw [C.val_zero, Saturation.level_zero]⟩
  | succ count inductionHypothesis =>
      obtain ⟨moved, found, value⟩ := inductionHypothesis
      have below : moved.val ≤ amount.val := by
        rw [value]
        exact Saturation.level_le_cap _ _ _
      obtain ⟨size, sized, size_val⟩ :=
        MicrotransferContract.chunkSize_of_le chunk below
      have sum_val : moved.val + size.val =
          Saturation.level amount.val chunk.val (count + 1) := by
        rw [size_val, value]
        exact Saturation.level_add_growth _ _ _
      obtain ⟨sum, added, sum_eq⟩ := @C.add_of_le moved size amount (by
        rw [sum_val]
        exact Saturation.level_le_cap _ _ _)
      refine ⟨sum, ?_, sum_eq.trans sum_val⟩
      rw [transferred, Except.bind_of_eq_ok found, Except.bind_of_eq_ok sized,
        added]

/-- A chunk moves every amount completely exactly when it is something. -/
theorem transferred_completes_iff (chunk : C) :
    (∀ amount : C, ∃ count, transferred amount chunk count = .ok amount) ↔
      0 < chunk := by
  rw [C.lt_iff, C.val_zero]
  constructor
  · intro completes
    obtain ⟨count, done⟩ := completes (C.coins 1)
    obtain ⟨moved, found, value⟩ := transferred_spec (C.coins 1) chunk count
    rw [found, Except.ok.injEq] at done
    rw [done, Saturation.level] at value
    by_contra none
    rw [Nat.eq_zero_of_not_pos none, Nat.mul_zero, Nat.min_zero] at value
    exact absurd value (by decide)
  · intro positive amount
    refine ⟨amount.val, ?_⟩
    obtain ⟨moved, found, value⟩ := transferred_spec amount chunk amount.val
    rw [found, Except.ok.injEq, C.eq_iff, value, Saturation.level]
    exact Nat.min_eq_left (Nat.le_mul_of_pos_right _ positive)

theorem ChunkPlan.finite_iff (plan : ChunkPlan) :
    plan.Finite ↔ plan.Positive := by
  rw [Positive, ← transferred_completes_iff, ← transferred_completes_iff]
  exact forall_and

/-! ## Extrapolation -/

/-- Half a unit of the eighth digit. -/
theorem contract_error
    {q : ℚ}
    (positive : 0 < q) :
    |roundDigits contractPrec q - q| * 20000001 ≤ q := by
  have error := @roundDigits_relative_error contractPrec (by decide) q positive
  norm_num [contractPrec] at error
  exact error

theorem one_le_round
    {q : ℚ}
    (le : 1 ≤ q) :
    1 ≤ roundDigits contractPrec q := by
  have kept := @zpow_le_roundDigits contractPrec (by decide) q (by linarith) 0
    (by rw [zpow_zero]; exact le)
  rw [zpow_zero] at kept
  exact kept

/-- The larger side times the rounded ratio of `chunk` to the smaller one. -/
def ratioProduct (smaller larger : ℕ) (chunk : ℚ) : ℚ :=
  larger * roundDigits contractPrec (chunk / smaller)

/-- The larger side's chunk before it is cut, in satoshi. -/
def extrapolated (smaller larger : ℕ) (chunk : ℚ) : ℚ :=
  roundDigits contractPrec (ratioProduct smaller larger chunk)

section
variable {smaller larger : ℕ} {chunk : ℚ}

/-- The errors of both roundings. -/
theorem extrapolated_errors
    (smaller_pos : 0 < smaller)
    (larger_pos : 0 < larger)
    (chunk_pos : 0 < chunk) :
    0 < ratioProduct smaller larger chunk ∧
      |ratioProduct smaller larger chunk - larger * (chunk / smaller)| *
        20000001 ≤ larger * (chunk / smaller) ∧
      |extrapolated smaller larger chunk - ratioProduct smaller larger chunk| *
        20000001 ≤ ratioProduct smaller larger chunk := by
  have smallerCast : (0 : ℚ) < smaller := by exact_mod_cast smaller_pos
  have largerCast : (0 : ℚ) < larger := by exact_mod_cast larger_pos
  have ratio_pos : 0 < chunk / smaller := div_pos chunk_pos smallerCast
  have ratio_error := contract_error ratio_pos
  have rounded_pos : 0 < roundDigits contractPrec (chunk / smaller) := by
    have lower := neg_abs_le
      (roundDigits contractPrec (chunk / smaller) - chunk / smaller)
    linarith
  refine ⟨mul_pos largerCast rounded_pos, ?_,
    contract_error (mul_pos largerCast rounded_pos)⟩
  rw [ratioProduct, ← mul_sub, abs_mul, abs_of_pos largerCast, mul_assoc]
  exact mul_le_mul_of_nonneg_left ratio_error largerCast.le

/-- A share of one satoshi keeps it in the product but for a rounding error. -/
theorem le_ratioProduct
    (smaller_pos : 0 < smaller)
    (larger_pos : 0 < larger)
    (chunk_pos : 0 < chunk) :
    20000000 * (larger * (chunk / smaller)) ≤
      20000001 * ratioProduct smaller larger chunk := by
  obtain ⟨_, near, _⟩ := extrapolated_errors smaller_pos larger_pos chunk_pos
  have lower := neg_abs_le
    (ratioProduct smaller larger chunk - larger * (chunk / smaller))
  linarith

theorem one_le_extrapolated
    (smaller_pos : 0 < smaller)
    (larger_pos : 0 < larger)
    (chunk_pos : 0 < chunk)
    (enough : 20000001 ≤ 20000000 * (larger * (chunk / smaller))) :
    1 ≤ extrapolated smaller larger chunk := by
  have product_ge := le_ratioProduct smaller_pos larger_pos chunk_pos
  exact one_le_round (by linarith)

/-- A chunk of up to a half of one side extrapolates to within the other. -/
theorem extrapolated_le
    (smaller_pos : 0 < smaller)
    (larger_pos : 0 < larger)
    (chunk_pos : 0 < chunk)
    (half : chunk / smaller ≤ 1 / 2) :
    extrapolated smaller larger chunk ≤ larger := by
  obtain ⟨_, near, rounded⟩ :=
    extrapolated_errors smaller_pos larger_pos chunk_pos
  have product_le := le_abs_self
    (ratioProduct smaller larger chunk - larger * (chunk / smaller))
  have rounded_le := le_abs_self
    (extrapolated smaller larger chunk - ratioProduct smaller larger chunk)
  have largerCast : (0 : ℚ) < larger := by exact_mod_cast larger_pos
  have share_le := mul_le_mul_of_nonneg_left half largerCast.le
  linarith

/-- Cutting the extrapolated chunk leaves it in proportion: below seven digits
the error is the one of the cut, from there on the one of two roundings. -/
theorem floor_extrapolated_near
    (smaller_pos : 0 < smaller)
    (larger_pos : 0 < larger)
    (chunk_pos : 0 < chunk) :
    |(⌊extrapolated smaller larger chunk⌋ : ℚ) -
        larger * (chunk / smaller)| < 2 ∨
      |(⌊extrapolated smaller larger chunk⌋ : ℚ) -
        larger * (chunk / smaller)| < larger * (chunk / smaller) / 10 ^ 7 := by
  obtain ⟨product_pos, near, rounded⟩ :=
    extrapolated_errors smaller_pos larger_pos chunk_pos
  unfold extrapolated at *
  generalize ratioProduct smaller larger chunk = product at *
  generalize (larger : ℚ) * (chunk / smaller) = share at *
  have near_le := abs_sub_le (roundDigits contractPrec product) product share
  rcases lt_or_ge product (10 ^ (7 : ℤ)) with small | large
  · left
    have absolute := roundDigits_error_of_lt contractPrec product_pos small
    have unit : (10 : ℚ) ^ ((7 : ℤ) - contractPrec) / 2 = 1 / 20 := by
      norm_num [contractPrec]
    have product_ge := neg_abs_le (product - share)
    have floor_le := Int.floor_le (roundDigits contractPrec product)
    have lt_floor := Int.lt_floor_add_one (roundDigits contractPrec product)
    have bounds := abs_le.mp near_le
    have seven : (10 : ℚ) ^ (7 : ℤ) = 10000000 := by norm_num
    rw [unit] at absolute
    rw [seven] at small
    rw [abs_lt]
    constructor <;> linarith [bounds.1, bounds.2]
  · right
    obtain ⟨units, whole⟩ := @exists_roundDigits_eq_div contractPrec 0 _
      product_pos (by norm_num [contractPrec] at *; exact large)
    have floor_eq : (⌊roundDigits contractPrec product⌋ : ℚ) =
        roundDigits contractPrec product := by
      rw [whole, pow_zero, div_one, Int.floor_natCast, Int.cast_natCast]
    have product_pos_share := le_abs_self (product - share)
    rw [floor_eq]
    norm_num at *
    linarith

end

/-! ## The two chunks in satoshi -/

instance (side : C) : Decidable side.SmallSide :=
  inferInstanceAs (Decidable (_ ≤ _))

/-- The smaller side's chunk before it is cut, in satoshi. -/
def C.sideChunk (side : C) : ℚ :=
  if side.SmallSide then 1 else side.halfPercent

theorem C.satoshi_ge_of_not_small
    {side : C}
    (large : ¬side.SmallSide) :
    999 ≤ side.satoshi := by
  rw [C.SmallSide, not_le] at large
  rw [C.satoshi, Nat.le_div_iff_mul_le satoshiUnit_pos]
  exact large.le

theorem C.satoshi_le_of_small
    {side : C}
    (small : side.SmallSide) :
    side.satoshi ≤ 999 := by
  rw [C.satoshi]
  exact Nat.div_le_of_le_mul (by rw [Nat.mul_comm]; exact small)

theorem C.halfPercent_bounds
    {side : C}
    (large : ¬side.SmallSide) :
    4 ≤ side.halfPercent ∧ side.halfPercent ≤ (side.satoshi : ℚ) / 100 := by
  have enough : (999 : ℚ) ≤ side.satoshi := by
    exact_mod_cast C.satoshi_ge_of_not_small large
  have error := @contract_error ((side.satoshi : ℚ) / 200) (by linarith)
  have lower := neg_abs_le (side.halfPercent - (side.satoshi : ℚ) / 200)
  have upper := le_abs_self (side.halfPercent - (side.satoshi : ℚ) / 200)
  rw [← C.halfPercent] at error
  constructor <;> linarith

theorem C.one_le_sideChunk (side : C) : 1 ≤ side.sideChunk := by
  unfold C.sideChunk
  split
  next small => exact le_rfl
  next large => linarith [(C.halfPercent_bounds large).1]

/-- Eight decimals of coins are a whole number of units of the sixteenth. -/
theorem C.satoshi_of_ofDecimal
    {units : ℕ}
    {chunk : C}
    (found : C.ofDecimal ((units : ℚ) / 10 ^ 8 / COIN) = .ok chunk) :
    (chunk.satoshi : ℤ) = ⌊(units : ℚ) / 10 ^ 8⌋ := by
  have scale : (units : ℚ) / 10 ^ 8 / COIN * decBase = (units : ℤ) := by
    simp only [COIN, decBase]
    push_cast
    ring
  have value := ((C.ofDecimal_eq_ok_iff _ _).mp found).2
  rw [C.unitsOf, scale, roundHalfEven_intCast, Int.toNat_natCast] at value
  have floor := Rat.floor_natCast_div_natCast units (10 ^ 8)
  rw [Nat.cast_pow, Nat.cast_ofNat] at floor
  rw [floor, C.satoshi, value, satoshiUnit]
  norm_num

/-- A chunk of at least one satoshi in eight digits is cut to its floor. -/
theorem C.satoshi_of_ofDecimal_round
    {q : ℚ}
    {chunk : C}
    (enough : 1 / 10 ≤ q)
    (found : C.ofDecimal (roundDigits contractPrec q / COIN) = .ok chunk) :
    (chunk.satoshi : ℤ) = ⌊roundDigits contractPrec q⌋ := by
  obtain ⟨units, whole⟩ := @exists_roundDigits_eq_div contractPrec 8 q
    (by linarith) (by norm_num [contractPrec] at *; exact enough)
  rw [whole] at found ⊢
  exact C.satoshi_of_ofDecimal found

/-- The chunks of two sides, in satoshi. -/
theorem divisibleChunks_satoshi
    {smaller larger smallerChunk largerChunk : C}
    (positive : smaller.satoshi ≠ 0)
    (le : smaller.val ≤ larger.val)
    (found : divisibleChunks smaller larger =
      .ok (smallerChunk, largerChunk)) :
    (smallerChunk.satoshi : ℤ) = ⌊smaller.sideChunk⌋ ∧
      (largerChunk.satoshi : ℤ) =
        ⌊extrapolated smaller.satoshi larger.satoshi smaller.sideChunk⌋ := by
  have smaller_pos : 0 < smaller.satoshi := Nat.pos_of_ne_zero positive
  have satoshi_le := C.satoshi_mono le
  have larger_pos : 0 < larger.satoshi := smaller_pos.trans_le satoshi_le
  have smallerCast : (0 : ℚ) < smaller.satoshi := by exact_mod_cast smaller_pos
  have largerCast : (0 : ℚ) < larger.satoshi := by exact_mod_cast larger_pos
  have chunk_ge := smaller.one_le_sideChunk
  have coin_eq : (COIN : ℚ) = 10 ^ 8 := by norm_num [COIN]
  obtain ⟨threshold, threshold_found, threshold_val⟩ := exists_threshold
  have small_iff : smaller ≤ threshold ↔ smaller.SmallSide := by
    rw [C.le_iff, threshold_val, C.SmallSide]
  have chunk_eq : (if smaller ≤ threshold then 1 / 100000000
      else roundDigits contractPrec (smaller.asDecimal * (5 / 1000))) =
      smaller.sideChunk / COIN := by
    unfold C.sideChunk
    by_cases small : smaller.SmallSide
    · rw [if_pos small, if_pos (small_iff.mpr small)]
      norm_num [COIN]
    · have part_eq : smaller.asDecimal * (5 / 1000) =
          (smaller.satoshi : ℚ) / 200 / 10 ^ 8 := by
        rw [C.asDecimal, coin_eq]
        ring
      rw [if_neg small, if_neg (small_iff.not.mpr small), part_eq,
        roundDigits_div_pow _ (by positivity), C.halfPercent, coin_eq]
  unfold divisibleChunks at found
  rw [Except.bind_of_eq_ok threshold_found] at found
  simp only [chunk_eq, Except.bind_eq_ok_iff] at found
  obtain ⟨ratio, divided, smallChunk, smallFound, largeChunk, largeFound,
    same⟩ := found
  rw [Except.pure_eq_ok_iff, Prod.mk.injEq] at same
  obtain ⟨rfl, rfl⟩ := same
  unfold Trade.divideDecimals at divided
  split at divided
  · cases divided
  rw [Except.ok.injEq] at divided
  have large_eq : larger.asDecimal * ratio =
      ratioProduct smaller.satoshi larger.satoshi smaller.sideChunk /
        10 ^ 8 := by
    rw [← divided, C.asDecimal, C.asDecimal, coin_eq,
      div_div_div_cancel_right₀ (by norm_num), ratioProduct]
    ring
  have share_ge : 1 ≤ (larger.satoshi : ℚ) *
      (smaller.sideChunk / smaller.satoshi) := by
    have satoshi_leCast : (smaller.satoshi : ℚ) ≤ larger.satoshi := by
      exact_mod_cast satoshi_le
    rw [← mul_div_assoc, one_le_div smallerCast]
    exact satoshi_leCast.trans (le_mul_of_one_le_right largerCast.le chunk_ge)
  have product_ge :=
    @le_ratioProduct smaller.satoshi larger.satoshi smaller.sideChunk
      smaller_pos larger_pos (by linarith)
  constructor
  · unfold C.sideChunk at smallFound ⊢
    split at smallFound
    next small =>
      have whole : (1 : ℚ) = (100000000 : ℕ) / 10 ^ 8 := by norm_num
      rw [if_pos small, whole]
      rw [whole] at smallFound
      exact C.satoshi_of_ofDecimal smallFound
    next large =>
      have enough : (999 : ℚ) ≤ smaller.satoshi := by
        exact_mod_cast C.satoshi_ge_of_not_small large
      rw [if_neg large]
      exact C.satoshi_of_ofDecimal_round (by linarith) smallFound
  · rw [large_eq, roundDigits_div_pow _ (by linarith), ← coin_eq] at largeFound
    exact C.satoshi_of_ofDecimal_round (by linarith) largeFound

/-! ## Positive, within the sides and in proportion -/

theorem C.floor_sideChunk_bounds
    {side : C}
    (positive : side.satoshi ≠ 0) :
    1 ≤ ⌊side.sideChunk⌋ ∧ ⌊side.sideChunk⌋ ≤ side.satoshi := by
  constructor
  · rw [Int.le_floor]
    exact_mod_cast side.one_le_sideChunk
  · refine Int.floor_le_iff.mpr ?_
    have someCast : (1 : ℚ) ≤ side.satoshi := by
      exact_mod_cast Nat.one_le_iff_ne_zero.mpr positive
    unfold C.sideChunk
    rw [Int.cast_natCast]
    split
    next small => linarith
    next large => linarith [(C.halfPercent_bounds large).2]

section
variable {smaller larger : C}

/-- The larger chunk vanishes only between equal small sides. -/
theorem extrapolated_lt_one_iff
    (positive : smaller.satoshi ≠ 0)
    (le : smaller.satoshi ≤ larger.satoshi) :
    extrapolated smaller.satoshi larger.satoshi smaller.sideChunk < 1 ↔
      smaller.SmallSide ∧ larger.satoshi = smaller.satoshi ∧
        ShortReciprocal contractPrec smaller.satoshi := by
  have smaller_pos : 0 < smaller.satoshi := Nat.pos_of_ne_zero positive
  have larger_pos : 0 < larger.satoshi := smaller_pos.trans_le le
  have smallerCast : (0 : ℚ) < smaller.satoshi := by exact_mod_cast smaller_pos
  have leCast : (smaller.satoshi : ℚ) ≤ larger.satoshi := by exact_mod_cast le
  have chunk_pos : 0 < smaller.sideChunk := by
    linarith [smaller.one_le_sideChunk]
  have at_least_one
      (enough : 20000001 / 20000000 * smaller.satoshi ≤
        (larger.satoshi : ℚ) * smaller.sideChunk) :
      ¬extrapolated smaller.satoshi larger.satoshi smaller.sideChunk < 1 := by
    refine not_lt.mpr
      (one_le_extrapolated smaller_pos larger_pos chunk_pos ?_)
    rw [← le_div_iff₀ smallerCast, mul_div_assoc] at enough
    linarith
  by_cases small : smaller.SmallSide
  · have chunk_eq : smaller.sideChunk = 1 := if_pos small
    rw [and_iff_right small]
    rcases le.eq_or_lt with equal | less
    · rw [and_iff_right equal.symm, chunk_eq, ← equal]
      exact roundDigits_mul_reciprocal_lt_one_iff (by decide) smaller_pos
    · refine iff_of_false (at_least_one ?_) (fun both => less.ne' both.1)
      have few : (smaller.satoshi : ℚ) ≤ 999 := by
        exact_mod_cast C.satoshi_le_of_small small
      have more : (smaller.satoshi : ℚ) + 1 ≤ larger.satoshi := by
        exact_mod_cast less
      rw [chunk_eq]
      linarith
  · refine iff_of_false (at_least_one ?_) (fun both => small both.1)
    have chunk_ge : 4 ≤ smaller.sideChunk := by
      rw [C.sideChunk, if_neg small]
      exact (C.halfPercent_bounds small).1
    have product_ge := mul_le_mul leCast chunk_ge (by norm_num)
      (smallerCast.le.trans leCast)
    linarith

/-- Only a side of one satoshi makes the other one's chunk exceed it. -/
theorem lt_floor_extrapolated_iff
    (positive : smaller.satoshi ≠ 0)
    (le : smaller.satoshi ≤ larger.satoshi) :
    (larger.satoshi : ℤ) <
        ⌊extrapolated smaller.satoshi larger.satoshi smaller.sideChunk⌋ ↔
      smaller.satoshi = 1 ∧
        ¬RoundsDown larger.satoshi
          (10 ^ cutDigits contractPrec larger.satoshi) := by
  have smaller_pos : 0 < smaller.satoshi := Nat.pos_of_ne_zero positive
  have larger_pos : 0 < larger.satoshi := smaller_pos.trans_le le
  have smallerCast : (0 : ℚ) < smaller.satoshi := by exact_mod_cast smaller_pos
  have chunk_pos : 0 < smaller.sideChunk := by
    linarith [smaller.one_le_sideChunk]
  rcases Nat.lt_or_ge 1 smaller.satoshi with several | single
  · refine iff_of_false (not_lt.mpr (Int.floor_le_iff.mpr ?_))
      (fun both => several.ne' both.1)
    have severalCast : (2 : ℚ) ≤ smaller.satoshi := by exact_mod_cast several
    have half : smaller.sideChunk / smaller.satoshi ≤ 1 / 2 := by
      rw [div_le_div_iff₀ smallerCast (by norm_num)]
      unfold C.sideChunk
      split
      next small => linarith
      next large => linarith [(C.halfPercent_bounds large).2]
    have within := extrapolated_le smaller_pos larger_pos chunk_pos half
    rw [Int.cast_natCast]
    linarith
  · have one : smaller.satoshi = 1 := by omega
    have small : smaller.SmallSide := by
      by_contra large
      have := C.satoshi_ge_of_not_small large
      omega
    have ratio_one : roundDigits contractPrec (1 : ℚ) = 1 := by
      have same := @roundDigits_natCast_of_dvd contractPrec 1 (by
        rw [cutDigits, Nat.log_one_right]
        decide)
      rw [Nat.cast_one] at same
      exact same
    have value : extrapolated smaller.satoshi larger.satoshi
        smaller.sideChunk =
          roundDigits contractPrec (larger.satoshi : ℚ) := by
      rw [extrapolated, ratioProduct, C.sideChunk, if_pos small, one,
        Nat.cast_one, div_one, ratio_one, mul_one]
    obtain ⟨whole, whole_eq⟩ :=
      exists_roundDigits_natCast contractPrec larger.satoshi
    rw [and_iff_right one, ← lt_roundDigits_natCast_iff, value, whole_eq,
      Int.floor_natCast, Nat.cast_lt, Nat.cast_lt]

/-- Chunks of sides from which nothing is cut are in proportion. -/
theorem inProportion_of_uncut
    {smallerChunk largerChunk : C}
    (positive : smaller.satoshi ≠ 0)
    (le : smaller.satoshi ≤ larger.satoshi)
    (smaller_whole : satoshiUnit ∣ smaller.val)
    (larger_whole : satoshiUnit ∣ larger.val)
    (chunk_whole : smaller.SmallSide ∨
      ∃ whole : ℕ, smaller.halfPercent = whole)
    (smaller_eq : (smallerChunk.satoshi : ℤ) = ⌊smaller.sideChunk⌋)
    (larger_eq : (largerChunk.satoshi : ℤ) =
      ⌊extrapolated smaller.satoshi larger.satoshi smaller.sideChunk⌋) :
    (ChunkPlan.mk smaller larger smallerChunk.printed
      largerChunk.printed).InProportion := by
  have smaller_pos : 0 < smaller.satoshi := Nat.pos_of_ne_zero positive
  have larger_pos : 0 < larger.satoshi := smaller_pos.trans_le le
  have smallerCast : (0 : ℚ) < smaller.satoshi := by exact_mod_cast smaller_pos
  have unit_pos : (0 : ℚ) < satoshiUnit := by exact_mod_cast satoshiUnit_pos
  have chunk_eq : (smallerChunk.satoshi : ℚ) = smaller.sideChunk := by
    have whole : ∃ whole : ℕ, smaller.sideChunk = whole := by
      unfold C.sideChunk
      split
      next small => exact ⟨1, Nat.cast_one.symm⟩
      next large => exact chunk_whole.resolve_left large
    obtain ⟨whole, whole_eq⟩ := whole
    rw [whole_eq, Int.floor_natCast] at smaller_eq
    rw [whole_eq]
    exact_mod_cast smaller_eq
  have smaller_val : (smaller.val : ℚ) = smaller.satoshi * satoshiUnit := by
    exact_mod_cast (Nat.div_mul_cancel smaller_whole).symm
  have larger_val : (larger.val : ℚ) = larger.satoshi * satoshiUnit := by
    exact_mod_cast (Nat.div_mul_cancel larger_whole).symm
  have larger_eqCast : (largerChunk.satoshi : ℚ) =
      (⌊extrapolated smaller.satoshi larger.satoshi smaller.sideChunk⌋ : ℚ) := by
    exact_mod_cast larger_eq
  have near := @floor_extrapolated_near smaller.satoshi larger.satoshi
    smaller.sideChunk smaller_pos larger_pos
    (by linarith [smaller.one_le_sideChunk])
  have share_eq : (larger.val : ℚ) * smallerChunk.printed.val / smaller.val =
      larger.satoshi * (smaller.sideChunk / smaller.satoshi) *
        satoshiUnit := by
    rw [C.val_printed, smaller_val, larger_val]
    push_cast
    rw [chunk_eq]
    field_simp
  have error_eq : |(largerChunk.printed.val : ℚ) -
      larger.satoshi * (smaller.sideChunk / smaller.satoshi) *
        satoshiUnit| =
      |(⌊extrapolated smaller.satoshi larger.satoshi smaller.sideChunk⌋ : ℚ) -
        larger.satoshi * (smaller.sideChunk / smaller.satoshi)| *
          satoshiUnit := by
    rw [C.val_printed]
    push_cast
    rw [larger_eqCast, ← sub_mul, abs_mul, abs_of_pos unit_pos]
  unfold ChunkPlan.InProportion
  simp only [share_eq, error_eq]
  generalize (satoshiUnit : ℚ) = unit at unit_pos
  rw [mul_div_right_comm (larger.satoshi * (_ / _) : ℚ)]
  exact near.imp (fun few => mul_lt_mul_of_pos_right few unit_pos)
    (fun small => mul_lt_mul_of_pos_right small unit_pos)

end

/-! ## The plan of a contract -/

/-- The trade that defines the contract. -/
def contractTemplate {Hex : Type} (match1 match2 : MatchType Hex) : Trade :=
  let (buyMatch, sellMatch) := match1.buySell match2
  (templateMatch buyMatch sellMatch).trade

theorem C.printed_pos_iff (c : C) : 0 < c.printed ↔ c.satoshi ≠ 0 := by
  rw [C.lt_iff, C.val_zero, C.val_printed]
  have unit_pos := satoshiUnit_pos
  rw [Nat.mul_pos_iff_of_pos_right unit_pos, Nat.pos_iff_ne_zero]

theorem C.printed_le_iff (c side : C) :
    c.printed ≤ side ↔ c.satoshi ≤ side.satoshi := by
  rw [C.le_iff, C.val_printed, C.satoshi.eq_def side,
    Nat.le_div_iff_mul_le satoshiUnit_pos]

theorem formatContract_of_chunks
    {Hex : Type}
    (version : Nat)
    {match1 match2 : MatchType Hex}
    {chunks : C × C}
    (found : chunkLookup (contractTemplate match1 match2).amount
      (contractTemplate match1 match2).total = .ok chunks) :
    ∃ msg, formatContract version match1 match2 = .ok msg ∧
      msg.amountChunk = chunks.1.printed ∧
      msg.totalChunk = chunks.2.printed := by
  unfold formatContract
  simp only
  unfold contractTemplate at found
  rw [Except.bind_of_eq_ok found]
  exact ⟨_, rfl, rfl, rfl⟩

theorem Trade.smallerSide_le (trade : Trade) :
    trade.smallerSide.val ≤ trade.largerSide.val := by
  unfold smallerSide largerSide
  split
  next less => exact ((C.lt_iff _ _).mp less).le
  next not_less => exact not_lt.mp fun less => not_less ((C.lt_iff _ _).mpr less)

/-- The plan of a contract is made of the printed chunks of the two sides. -/
theorem exists_chunkPlan
    {Hex : Type}
    (version : Nat)
    (match1 match2 : MatchType Hex)
    (trade : Trade)
    (template : contractTemplate match1 match2 = trade)
    (calibrated : trade.amount.mul trade.ppc = .ok trade.total)
    (some_amount : trade.amount.satoshi ≠ 0)
    (some_total : trade.total.satoshi ≠ 0) :
    ∃ msg smallerChunk largerChunk,
      formatContract version match1 match2 = .ok msg ∧
      msg.chunkPlan trade =
        { smaller := trade.smallerSide
          larger := trade.largerSide
          smallerChunk := smallerChunk.printed
          largerChunk := largerChunk.printed } ∧
      divisibleChunks trade.smallerSide trade.largerSide =
        .ok (smallerChunk, largerChunk) := by
  obtain ⟨chunks, found⟩ :=
    (exists_chunkLookup_iff calibrated).mpr ⟨some_amount, some_total⟩
  obtain ⟨msg, formatted, amount_eq, total_eq⟩ :=
    @formatContract_of_chunks Hex version match1 match2 chunks
      (by rw [template]; exact found)
  unfold chunkLookup at found
  unfold ContractMsg.chunkPlan Trade.smallerSide Trade.largerSide
  by_cases less : trade.amount < trade.total
  · simp only [if_pos less, Except.bind_eq_ok_iff] at found ⊢
    obtain ⟨⟨smallerChunk, largerChunk⟩, divided, same⟩ := found
    rw [Except.pure_eq_ok_iff] at same
    subst same
    exact ⟨msg, smallerChunk, largerChunk, formatted,
      by rw [amount_eq, total_eq], divided⟩
  · simp only [if_neg less, Except.bind_eq_ok_iff] at found ⊢
    obtain ⟨⟨smallerChunk, largerChunk⟩, divided, same⟩ := found
    rw [Except.pure_eq_ok_iff] at same
    subst same
    exact ⟨msg, smallerChunk, largerChunk, formatted,
      by rw [amount_eq, total_eq], divided⟩

theorem Trade.smallerSide_satoshi_ne_zero
    {trade : Trade}
    (some_amount : trade.amount.satoshi ≠ 0)
    (some_total : trade.total.satoshi ≠ 0) :
    trade.smallerSide.satoshi ≠ 0 := by
  unfold smallerSide
  split
  · exact some_amount
  · exact some_total

section
variable {trade : Trade} {smallerChunk largerChunk : C}

theorem chunkPlan_positive_iff
    (positive : trade.smallerSide.satoshi ≠ 0)
    (found : divisibleChunks trade.smallerSide trade.largerSide =
      .ok (smallerChunk, largerChunk)) :
    (ChunkPlan.mk trade.smallerSide trade.largerSide smallerChunk.printed
      largerChunk.printed).Positive ↔ ¬trade.ChunkVanishes := by
  obtain ⟨smaller_eq, larger_eq⟩ :=
    divisibleChunks_satoshi positive trade.smallerSide_le found
  have some_smaller := (C.floor_sideChunk_bounds positive).1
  have vanishes : (largerChunk.satoshi : ℤ) < 1 ↔ trade.ChunkVanishes := by
    rw [larger_eq, Int.floor_lt, Int.cast_one]
    exact extrapolated_lt_one_iff positive
      (C.satoshi_mono trade.smallerSide_le)
  rw [← vanishes]
  unfold ChunkPlan.Positive
  rw [C.printed_pos_iff, C.printed_pos_iff]
  omega

theorem chunkPlan_withinSides_iff
    (positive : trade.smallerSide.satoshi ≠ 0)
    (found : divisibleChunks trade.smallerSide trade.largerSide =
      .ok (smallerChunk, largerChunk)) :
    (ChunkPlan.mk trade.smallerSide trade.largerSide smallerChunk.printed
      largerChunk.printed).WithinSides ↔ ¬trade.ChunkExceeds := by
  obtain ⟨smaller_eq, larger_eq⟩ :=
    divisibleChunks_satoshi positive trade.smallerSide_le found
  have smaller_le := (C.floor_sideChunk_bounds positive).2
  have exceeds := lt_floor_extrapolated_iff positive
    (C.satoshi_mono trade.smallerSide_le)
  unfold ChunkPlan.WithinSides Trade.ChunkExceeds
  simp only [C.printed_le_iff]
  rw [← exceeds, ← larger_eq]
  omega

end

namespace Sample

/-- A match for a trade of bitcoins for litecoins. -/
def chunkMatch (action : Action) (amount ppc total : C) : MatchType String where
  matchHash := "match"
  ntp := 1
  orderHash := "order"
  trade := openTrade action amount ppc total
  greenAddress := {
    trade := openTrade action amount ppc total
    ecdsa1 := "key1"
    ecdsa2 := "key2"
    ecdsaEncrypted := "server"
    address := "green"
    depositTxid := "deposit"
    depositTxHex := none
    inputs := [] }
  address := "address"
  ecdsa1 := "key1"
  ecdsa2 := "key2"
  sig1 := "sig1"
  sig2 := "sig2"
  timestamp := 1

def twoSatoshi : C := C.ofVal (2 * satoshiUnit) (by decide)

def threeSatoshi : C := C.ofVal (3 * satoshiUnit) (by decide)

/-- 1199 satoshi have a half percent of 5.995. -/
def manySatoshi : C := C.ofVal (1199 * satoshiUnit) (by decide)

def millionfold : C := C.ofVal (1199 * 1000000 * satoshiUnit) (by decide)

end Sample

theorem contractTemplate_sample (amount ppc total : C) :
    contractTemplate (Sample.chunkMatch .buy amount ppc total)
      (Sample.chunkMatch .sell amount ppc total) =
        Sample.openTrade .sell amount ppc total :=
  rfl

/-- A contract's chunks exist for every calibrated trade of at least a satoshi
a side.  They are positive, and payments of them end, unless the larger chunk
vanishes; they stay within the sides unless the larger chunk exceeds its own;
and they are in proportion when nothing but the larger chunk is cut. -/
theorem formatContract_chunkPlan
    {Hex : Type}
    (version : Nat)
    (match1 match2 : MatchType Hex)
    (trade : Trade)
    (template : contractTemplate match1 match2 = trade)
    (calibrated : trade.amount.mul trade.ppc = .ok trade.total)
    (some_amount : trade.amount.satoshi ≠ 0)
    (some_total : trade.total.satoshi ≠ 0) :
    ∃ msg, formatContract version match1 match2 = .ok msg ∧
      ((msg.chunkPlan trade).Positive ↔ ¬trade.ChunkVanishes) ∧
      ((msg.chunkPlan trade).Finite ↔ ¬trade.ChunkVanishes) ∧
      ((msg.chunkPlan trade).WithinSides ↔ ¬trade.ChunkExceeds) ∧
      (trade.Uncut → (msg.chunkPlan trade).InProportion) := by
  obtain ⟨msg, smallerChunk, largerChunk, formatted, plan, found⟩ :=
    exists_chunkPlan version match1 match2 trade template calibrated
      some_amount some_total
  have positive := Trade.smallerSide_satoshi_ne_zero some_amount some_total
  have positive_iff := chunkPlan_positive_iff positive found
  refine ⟨msg, formatted, ?_⟩
  rw [plan, ChunkPlan.finite_iff]
  refine ⟨positive_iff, positive_iff, chunkPlan_withinSides_iff positive found,
    ?_⟩
  rintro ⟨amount_whole, total_whole, chunk_whole⟩
  obtain ⟨smaller_eq, larger_eq⟩ :=
    divisibleChunks_satoshi positive trade.smallerSide_le found
  have wholes : satoshiUnit ∣ trade.smallerSide.val ∧
      satoshiUnit ∣ trade.largerSide.val := by
    unfold Trade.smallerSide Trade.largerSide
    split
    · exact ⟨amount_whole, total_whole⟩
    · exact ⟨total_whole, amount_whole⟩
  exact inProportion_of_uncut positive (C.satoshi_mono trade.smallerSide_le)
    wholes.1 wholes.2 chunk_whole smaller_eq larger_eq

/-- Two satoshi at a price of one are divided into chunks of one satoshi. -/
theorem formatContract_chunkPlan_of_two_satoshi :
    ∃ msg, formatContract 1
        (Sample.chunkMatch .buy Sample.twoSatoshi (C.coins 1)
          Sample.twoSatoshi)
        (Sample.chunkMatch .sell Sample.twoSatoshi (C.coins 1)
          Sample.twoSatoshi) = .ok msg ∧
      (msg.chunkPlan (Sample.openTrade .sell Sample.twoSatoshi (C.coins 1)
        Sample.twoSatoshi)).Positive ∧
      (msg.chunkPlan (Sample.openTrade .sell Sample.twoSatoshi (C.coins 1)
        Sample.twoSatoshi)).WithinSides ∧
      (msg.chunkPlan (Sample.openTrade .sell Sample.twoSatoshi (C.coins 1)
        Sample.twoSatoshi)).InProportion := by
  obtain ⟨msg, formatted, positive, _, within, proportion⟩ :=
    formatContract_chunkPlan 1 _ _ _ (contractTemplate_sample
      Sample.twoSatoshi (C.coins 1) Sample.twoSatoshi)
      ((C.mul_eq_ok_iff _ _ _).mpr (by decide)) (by decide) (by decide)
  refine ⟨msg, formatted, positive.mpr ?_, within.mpr ?_, proportion ?_⟩
  · intro vanishes
    exact absurd vanishes.2.2 (by decide)
  · intro exceeds
    exact absurd exceeds.1 (by decide)
  · exact ⟨by decide, by decide, Or.inl (by decide)⟩

theorem halfPercent_of_many : Sample.manySatoshi.halfPercent = 5995 / 1000 := by
  have satoshi : Sample.manySatoshi.satoshi = 1199 := by decide
  have digits := @roundDigits_of_few_digits contractPrec 5995 3 (by decide)
  rw [C.halfPercent, satoshi]
  norm_num at digits ⊢
  exact digits

theorem extrapolated_of_many :
    extrapolated 1199 1199000000 (5995 / 1000) = 5995000 := by
  have ratio := @roundDigits_of_few_digits contractPrec 5 3 (by decide)
  have product := @roundDigits_of_few_digits contractPrec 5995000 0 (by decide)
  rw [extrapolated, ratioProduct]
  norm_num at ratio product ⊢
  rw [ratio]
  norm_num
  exact product

/-- What the half percent of 1199 satoshi loses is multiplied a million times
on the other side. -/
theorem not_inProportion_of_many
    {smallerChunk largerChunk : C}
    (found : divisibleChunks Sample.manySatoshi Sample.millionfold =
      .ok (smallerChunk, largerChunk)) :
    ¬(ChunkPlan.mk Sample.manySatoshi Sample.millionfold smallerChunk.printed
      largerChunk.printed).InProportion := by
  have satoshi : Sample.manySatoshi.satoshi = 1199 := by decide
  have many : Sample.millionfold.satoshi = 1199000000 := by decide
  have large : ¬Sample.manySatoshi.SmallSide := by decide
  obtain ⟨smaller_eq, larger_eq⟩ :=
    divisibleChunks_satoshi (by rw [satoshi]; decide) (by decide) found
  rw [C.sideChunk, if_neg large, halfPercent_of_many] at smaller_eq larger_eq
  rw [satoshi, many, extrapolated_of_many] at larger_eq
  norm_num at smaller_eq larger_eq
  have smaller_satoshi : smallerChunk.satoshi = 5 := by exact_mod_cast smaller_eq
  have larger_satoshi : largerChunk.satoshi = 5995000 := by
    exact_mod_cast larger_eq
  have many_val : Sample.manySatoshi.val = 1199 * satoshiUnit := by decide
  have larger_val : Sample.millionfold.val = 1199000000 * satoshiUnit := by
    decide
  unfold ChunkPlan.InProportion
  simp only [C.val_printed, many_val, larger_val, smaller_satoshi,
    larger_satoshi, satoshiUnit]
  norm_num

/-- Three satoshi at a price of one: the total's chunk is one satoshi, the
amount's is cut to nothing.  1199 satoshi at a price of a million: the total's
chunk is too large by a fifth. -/
theorem chunkPlan_unusable :
    (∃ msg, formatContract 1
        (Sample.chunkMatch .buy Sample.threeSatoshi (C.coins 1)
          Sample.threeSatoshi)
        (Sample.chunkMatch .sell Sample.threeSatoshi (C.coins 1)
          Sample.threeSatoshi) = .ok msg ∧
      ¬(msg.chunkPlan (Sample.openTrade .sell Sample.threeSatoshi (C.coins 1)
        Sample.threeSatoshi)).Positive) ∧
    ∃ msg, formatContract 1
        (Sample.chunkMatch .buy Sample.manySatoshi (C.coins 1000000)
          Sample.millionfold)
        (Sample.chunkMatch .sell Sample.manySatoshi (C.coins 1000000)
          Sample.millionfold) = .ok msg ∧
      ¬(msg.chunkPlan (Sample.openTrade .sell Sample.manySatoshi
        (C.coins 1000000) Sample.millionfold)).InProportion := by
  constructor
  · obtain ⟨msg, smallerChunk, largerChunk, formatted, plan, found⟩ :=
      exists_chunkPlan 1 _ _ _ (contractTemplate_sample Sample.threeSatoshi
        (C.coins 1) Sample.threeSatoshi)
        ((C.mul_eq_ok_iff _ _ _).mpr (by decide)) (by decide) (by decide)
    refine ⟨msg, formatted, ?_⟩
    rw [plan, chunkPlan_positive_iff (by decide) found, not_not]
    exact ⟨by decide, by decide, by decide⟩
  · obtain ⟨msg, smallerChunk, largerChunk, formatted, plan, found⟩ :=
      exists_chunkPlan 1 _ _ _ (contractTemplate_sample Sample.manySatoshi
        (C.coins 1000000) Sample.millionfold)
        ((C.mul_eq_ok_iff _ _ _).mpr (by decide)) (by decide) (by decide)
    refine ⟨msg, formatted, ?_⟩
    rw [plan]
    exact not_inProportion_of_many found

end Coinbend
