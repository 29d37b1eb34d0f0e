import Coinbend.Library.Machine
import Coinbend.Library.RoundingError
import Coinbend.Protocol.Match
import Coinbend.Trade.Rows

/-!
# Trade numbers and the decimal precision

The precision of decimal division belongs to the process.  `format_contract`
and the constructor of `MicrotransferContract` set it to eight digits, and
trades divide under whatever precision they find.  Their numbers depend on
that history exactly through the quotients they compute.
-/

namespace Coinbend

/-- What sets the precision of the process. -/
inductive PrecisionCall
  | formatContract
  | microtransferContract
  deriving DecidableEq

/-- `decimal.getcontext().prec` after a call. -/
def setPrec (_ : Nat) : PrecisionCall → Nat
  | .formatContract => contractPrec
  | .microtransferContract => contractPrec

/-- The precision a history of calls leaves. -/
def precAfter (prec : Nat) (calls : List PrecisionCall) : Nat :=
  Machine.run setPrec prec calls

theorem precAfter_eq_or (prec : Nat) (calls : List PrecisionCall) :
    precAfter prec calls = prec ∨ precAfter prec calls = contractPrec := by
  induction calls generalizing prec with
  | nil => exact Or.inl rfl
  | cons call calls inductionHypothesis =>
      have set : setPrec prec call = contractPrec := by cases call <;> rfl
      rw [precAfter, Machine.run_cons, set, ← precAfter]
      rcases inductionHypothesis contractPrec with same | same <;>
        exact Or.inr same

/-- The process with another precision. -/
def TradeContext.withPrec (context : TradeContext) (prec : Nat) :
    TradeContext :=
  { context with prec }

/-- The numbers of a trade. -/
structure TradeNumbers where
  amount : C
  ppc : C
  total : C
  toSend : C
  toRecv : C
  deriving DecidableEq

def Trade.numbers (trade : Trade) : TradeNumbers where
  amount := trade.amount
  ppc := trade.ppc
  total := trade.total
  toSend := trade.toSend
  toRecv := trade.toRecv

/-- The numbers of `Trade(...)`. -/
def tradeNumbers (context : TradeContext) (args : TradeArgs) :
    Except PyError TradeNumbers :=
  (Trade.new context args).map Trade.numbers

/-- The numbers of the trade after `apply_trade_fee`. -/
def chargedNumbers (context : TradeContext) (args : TradeArgs) (tradeFee : C) :
    Except PyError TradeNumbers :=
  (Trade.new context args >>= fun trade =>
    trade.applyTradeFee context tradeFee).map Trade.numbers

/-- The numbers are the same whatever calls came before. -/
def HistoryFree
    (context : TradeContext)
    (args : TradeArgs)
    (tradeFee : C) : Prop :=
  ∀ calls : List PrecisionCall,
    let later := context.withPrec (precAfter context.prec calls)
    tradeNumbers later args = tradeNumbers context args ∧
      chargedNumbers later args tradeFee = chargedNumbers context args tradeFee

/-! ## Quotients -/

/-- The sixteen decimals of a quotient have at most eight significant digits.
A quotient of fewer decimals, or under a precision of less than eight digits,
must not be rounded twice to another one. -/
def FewDigits (prec x y : Nat) : Prop :=
  let units := quotientUnits prec x y
  if contractPrec ≤ prec ∧ 10 ^ contractPrec < units then
    10 ^ DecimalRounding.cutDigits contractPrec units ∣ units
  else quotientUnits contractPrec x y = units

/-- A quotient rounded in units of the sixteenth decimal. -/
theorem quotientUnits_eq
    (prec x y : Nat)
    {q : ℚ}
    (positive : 0 < q)
    (quotient : ((x / satoshiUnit : Nat) : ℚ) / COIN /
      (((y / satoshiUnit : Nat) : ℚ) / COIN) = q / 10 ^ 16) :
    (quotientUnits prec x y : Int) =
      DecimalRounding.roundHalfEven (DecimalRounding.roundDigits prec q) := by
  have scale : DecimalRounding.roundDigits prec q / 10 ^ 16 * decBase =
      DecimalRounding.roundDigits prec q := by
    norm_num [decBase]
  rw [quotientUnits, quotient,
    DecimalRounding.roundDigits_div_pow prec positive, C.unitsOf, scale,
    Int.toNat_of_nonneg]
  exact DecimalRounding.roundHalfEven_nonneg
    (DecimalRounding.roundDigits_nonneg prec positive.le)

/-- With few digits, and only then, eight digits leave the sixteen decimals of
a quotient as they are. -/
theorem fewDigits_iff (prec x y : Nat) :
    FewDigits prec x y ↔
      quotientUnits contractPrec x y = quotientUnits prec x y := by
  unfold FewDigits
  simp only
  split
  next long =>
    obtain ⟨fewer, long⟩ := long
    generalize quotient : ((x / satoshiUnit : Nat) : ℚ) / COIN /
      (((y / satoshiUnit : Nat) : ℚ) / COIN) = q
    have nonneg : 0 ≤ q := by
      rw [← quotient]
      positivity
    rcases nonneg.eq_or_lt with zero | positive
    · have none : quotientUnits prec x y = 0 := by
        rw [quotientUnits, quotient, ← zero, ← zero_div (10 ^ 0),
          ← Nat.cast_zero, DecimalRounding.roundDigits_of_few_digits
            (Nat.pow_pos (by decide))]
        simp [C.unitsOf, DecimalRounding.roundHalfEven]
      rw [none] at long
      exact absurd long (Nat.not_lt_zero _)
    · have scaled : q = q * 10 ^ 16 / 10 ^ 16 := by
        field_simp
      rw [scaled] at quotient
      have scaled_pos : 0 < q * 10 ^ 16 := by positivity
      have rounded := quotientUnits_eq prec x y scaled_pos quotient
      have short := quotientUnits_eq contractPrec x y scaled_pos quotient
      have same := DecimalRounding.roundHalfEven_roundDigits_eq_iff (by decide)
        fewer scaled_pos rounded.symm long
      rw [← short, Nat.cast_inj] at same
      exact same.symm
  · exact Iff.rfl

instance (prec x y : Nat) : Decidable (FewDigits prec x y) :=
  decidable_of_iff _ (fewDigits_iff prec x y).symm

/-- The amount, the price and the total of an analysed trade, from an amount
and a price. -/
def analysedUnits
    (prec : Nat)
    (pair : CurrencyPair)
    (amount ppc : Nat) : Nat × Nat × Nat :=
  let total := amount * ppc / decBase
  if pair.Flips then
    let flippedPpc := quotientUnits prec amount total
    (total, flippedPpc, total * flippedPpc / decBase)
  else (amount, ppc, total)

/-- The quotient `analyze_trade` computes, if any, has few digits. -/
def AnalysisFewDigits
    (prec : Nat)
    (pair : CurrencyPair)
    (amount ppc : Nat) : Prop :=
  pair.Flips → FewDigits prec amount (amount * ppc / decBase)

/-- The quotients of `apply_fee` have few digits: a buyer's total after the
fee over the price, and what the analysis after it computes. -/
def FeeFewDigits
    (prec : Nat)
    (action : Action)
    (pair : CurrencyPair)
    (numbers : Nat × Nat × Nat)
    (tradeFee : Nat) : Prop :=
  let (amount, ppc, total) := numbers
  match action with
  | .buy =>
      let fee := total * tradeFee / decBase
      fee ≠ 0 → FewDigits prec (total - fee) ppc ∧
        AnalysisFewDigits prec pair (quotientUnits prec (total - fee) ppc) ppc
  | .sell =>
      let fee := amount * tradeFee / decBase
      fee ≠ 0 → AnalysisFewDigits prec pair (amount - fee) ppc

/-- All quotients of a trade and of its fee have few digits. -/
structure QuotientsFewDigits
    (prec : Nat)
    (args : TradeArgs)
    (tradeFee : C) : Prop where
  analysis : AnalysisFewDigits prec args.pair args.amount.val args.ppc.val
  fee : FeeFewDigits prec (Trade.TradeArgs.analysedAction args)
    (if args.pair.Flips then args.pair.flip else args.pair)
    (analysedUnits prec args.pair args.amount.val args.ppc.val) tradeFee.val

/-- A quotient with few digits does not depend on the precision. -/
theorem quotient_congr
    {prec : Nat}
    {x y : C}
    (few : FewDigits prec x.val y.val) :
    (Trade.divideDecimals contractPrec x.asDecimal y.asDecimal
        >>= C.ofDecimal) =
      (Trade.divideDecimals prec x.asDecimal y.asDecimal >>= C.ofDecimal) := by
  rw [fewDigits_iff, quotientUnits_val, quotientUnits_val] at few
  unfold Trade.divideDecimals
  split
  · rfl
  · have nonneg : (0 : ℚ) ≤ x.asDecimal / y.asDecimal :=
      div_nonneg x.asDecimal_nonneg y.asDecimal_nonneg
    rw [Except.ok_bind, Except.ok_bind]
    exact C.ofDecimal_congr (DecimalRounding.roundDigits_nonneg _ nonneg)
      (DecimalRounding.roundDigits_nonneg _ nonneg) few

/-- Quotients that are read the same have few digits. -/
theorem fewDigits_of_quotient
    {prec : Nat}
    {x y c : C}
    (short : (Trade.divideDecimals contractPrec x.asDecimal y.asDecimal
      >>= C.ofDecimal) = .ok c)
    (long : (Trade.divideDecimals prec x.asDecimal y.asDecimal
      >>= C.ofDecimal) = .ok c) :
    FewDigits prec x.val y.val := by
  rw [fewDigits_iff, ← val_of_quotient short, ← val_of_quotient long]

/-! ## Analysis -/

variable {context : TradeContext} {args : TradeArgs}

/-- The numbers of an analysed trade are those worked out in units. -/
theorem val_priceNumbers
    {numbers : C × C × C}
    (found : Trade.priceNumbers context args = .ok numbers) :
    (numbers.1.val, numbers.2.1.val, numbers.2.2.val) =
      analysedUnits context.prec args.pair args.amount.val args.ppc.val := by
  unfold analysedUnits
  by_cases flips : args.pair.Flips
  · obtain ⟨total, product, found⟩ :=
      (Trade.priceNumbers_eq_ok_iff_of_flips flips _).mp found
    unfold Trade.flippedNumbers at found
    rw [Except.bind_eq_ok_iff] at found
    obtain ⟨ppc, quotient, found⟩ := found
    rw [Except.bind_eq_ok_iff] at found
    obtain ⟨newTotal, newProduct, returned⟩ := found
    rw [Except.pure_eq_ok_iff] at returned
    subst returned
    simp only [if_pos flips]
    rw [← C.val_mul product, ← val_of_quotient quotient,
      ← C.val_mul newProduct]
  · obtain ⟨total, product, rfl⟩ :=
      (Trade.priceNumbers_eq_ok_iff_of_straight flips _).mp found
    rw [if_neg flips, C.val_mul product]

theorem flippedNumbers_congr
    {amount total : C}
    (few : FewDigits context.prec amount.val total.val) :
    Trade.flippedNumbers (context.withPrec contractPrec) amount total =
      Trade.flippedNumbers context amount total := by
  unfold Trade.flippedNumbers
  simp only [TradeContext.withPrec]
  rw [quotient_congr few]

/-- With few digits the analysis does not depend on the precision. -/
theorem analyzeTrade_congr
    (few : AnalysisFewDigits context.prec args.pair args.amount.val
      args.ppc.val) :
    Trade.analyzeTrade (context.withPrec contractPrec) args =
      Trade.analyzeTrade context args := by
  rw [Trade.analyzeTrade_eq, Trade.analyzeTrade_eq]
  have numbers : Trade.priceNumbers (context.withPrec contractPrec) args =
      Trade.priceNumbers context args := by
    unfold Trade.priceNumbers
    by_cases flips : args.pair.Flips
    · simp only [if_pos flips]
      refine Except.bind_congr_of_ok fun total multiplied => ?_
      have product := (Trade.mapError_eq_ok_iff _ _ _).mp multiplied
      have quotient := few flips
      rw [← C.val_mul product] at quotient
      exact flippedNumbers_congr quotient
    · simp only [if_neg flips]
  rw [numbers]

theorem new_congr
    (few : AnalysisFewDigits context.prec args.pair args.amount.val
      args.ppc.val) :
    Trade.new (context.withPrec contractPrec) args =
      Trade.new context args := by
  unfold Trade.new
  rw [analyzeTrade_congr few]
  rfl

/-! ## Fees -/

variable {trade : Trade}

theorem withToSend_congr
    {toSend : C}
    (few : trade.action = .buy →
      FewDigits context.prec toSend.val trade.ppc.val) :
    Trade.withToSend (context.withPrec contractPrec) trade toSend =
      Trade.withToSend context trade toSend := by
  unfold Trade.withToSend
  split
  next buys =>
    simp only [TradeContext.withPrec]
    rw [quotient_congr (few buys)]
  · rfl

theorem reanalyze_congr
    (few : AnalysisFewDigits context.prec trade.pair trade.amount.val
      trade.ppc.val) :
    trade.reanalyze (context.withPrec contractPrec) =
      trade.reanalyze context := by
  unfold Trade.reanalyze
  rw [analyzeTrade_congr few]

/-- The units of what a trade sends. -/
theorem withToSend_val
    {toSend : C}
    {changed : Trade}
    (change : Trade.withToSend context trade toSend = .ok changed) :
    changed.pair = trade.pair ∧ changed.ppc = trade.ppc ∧
      changed.amount.val =
        match trade.action with
        | .buy => quotientUnits context.prec toSend.val trade.ppc.val
        | .sell => toSend.val := by
  unfold Trade.withToSend at change
  cases action : trade.action with
  | buy =>
      rw [action] at change
      simp only at change
      rw [Except.bind_eq_ok_iff] at change
      obtain ⟨amount, quotient, returned⟩ := change
      rw [Except.pure_eq_ok_iff] at returned
      subst returned
      exact ⟨rfl, rfl, val_of_quotient quotient⟩
  | sell =>
      rw [action] at change
      simp only [Except.ok.injEq] at change
      subst change
      exact ⟨rfl, rfl, rfl⟩

/-- What few digits mean for the trade a fee is taken from. -/
theorem FeeFewDigits.of_left
    {tradeFee fee left : C}
    (few : FeeFewDigits context.prec trade.action trade.pair
      (trade.amount.val, trade.ppc.val, trade.total.val) tradeFee.val)
    (product : trade.toSend.mul tradeFee = .ok fee)
    (charged : fee ≠ 0)
    (difference : trade.toSend.sub fee = .ok left) :
    (trade.action = .buy → FewDigits context.prec left.val trade.ppc.val) ∧
      ∀ changed, Trade.withToSend context trade left = .ok changed →
        AnalysisFewDigits context.prec changed.pair changed.amount.val
          changed.ppc.val := by
  have fee_val := C.val_mul product
  have left_val := (C.val_sub difference).2
  rw [ne_eq, C.eq_zero_iff, fee_val] at charged
  rw [fee_val] at left_val
  unfold FeeFewDigits at few
  cases action : trade.action with
  | buy =>
      have sends : trade.toSend = trade.total := by
        rw [Trade.toSend, action]
      rw [sends] at charged left_val
      simp only [action] at few
      obtain ⟨quotient, again⟩ := few charged
      rw [← left_val] at quotient again
      refine ⟨fun _ => quotient, fun changed change => ?_⟩
      obtain ⟨pair, ppc, amount⟩ := withToSend_val change
      simp only [action] at amount
      rw [pair, ppc, amount]
      exact again
  | sell =>
      have sends : trade.toSend = trade.amount := by
        rw [Trade.toSend, action]
      rw [sends] at charged left_val
      simp only [action] at few
      have again := few charged
      rw [← left_val] at again
      refine ⟨fun impossible => ?_, fun changed change => ?_⟩
      · cases impossible
      · obtain ⟨pair, ppc, amount⟩ := withToSend_val change
        simp only [action] at amount
        rw [pair, ppc, amount]
        exact again

/-- With few digits the fee does not depend on the precision. -/
theorem applyTradeFee_congr
    {tradeFee : C}
    (few : FeeFewDigits context.prec trade.action trade.pair
      (trade.amount.val, trade.ppc.val, trade.total.val) tradeFee.val) :
    trade.applyTradeFee (context.withPrec contractPrec) tradeFee =
      trade.applyTradeFee context tradeFee := by
  unfold Trade.applyTradeFee
  refine Except.bind_congr_of_ok fun fee product => ?_
  unfold Trade.applyFee
  split
  · rfl
  next charged =>
    refine bind_congr fun _ => ?_
    refine Except.bind_congr_of_ok fun left difference => ?_
    obtain ⟨quotient, again⟩ :=
      FeeFewDigits.of_left few product charged difference
    rw [withToSend_congr quotient]
    refine Except.bind_congr_of_ok fun changed change => ?_
    refine bind_congr fun fees => ?_
    exact reanalyze_congr (again changed change)

/-! ## Histories -/

theorem tradeNumbers_congr
    (few : AnalysisFewDigits context.prec args.pair args.amount.val
      args.ppc.val) :
    tradeNumbers (context.withPrec contractPrec) args =
      tradeNumbers context args := by
  rw [tradeNumbers, tradeNumbers, new_congr few]

theorem analyzeTrade_of_new
    (built : Trade.new context args = .ok trade) :
    Trade.analyzeTrade context args = .ok trade := by
  unfold Trade.new at built
  split at built
  · cases built
  · split at built
    · cases built
    · exact built

/-- A constructed trade has the units worked out. -/
theorem val_of_new
    (built : Trade.new context args = .ok trade) :
    trade.action = Trade.TradeArgs.analysedAction args ∧
      trade.pair = (if args.pair.Flips then args.pair.flip else args.pair) ∧
      (trade.amount.val, trade.ppc.val, trade.total.val) =
        analysedUnits context.prec args.pair args.amount.val args.ppc.val := by
  have analyzed := analyzeTrade_of_new built
  rw [Trade.analyzeTrade_eq_ok_iff] at analyzed
  obtain ⟨numbers, remaining, found, _, rfl⟩ := analyzed
  exact ⟨rfl, rfl, val_priceNumbers found⟩

theorem chargedNumbers_congr
    {tradeFee : C}
    (few : QuotientsFewDigits context.prec args tradeFee) :
    chargedNumbers (context.withPrec contractPrec) args tradeFee =
      chargedNumbers context args tradeFee := by
  unfold chargedNumbers
  rw [new_congr few.analysis]
  refine congrArg _ (Except.bind_congr_of_ok fun trade built => ?_)
  obtain ⟨action, pair, units⟩ := val_of_new built
  have fee := few.fee
  rw [← action, ← pair, ← units] at fee
  exact applyTradeFee_congr fee

/-- When all quotients have few digits the numbers are free of history. -/
theorem historyFree_of_fewDigits
    {tradeFee : C}
    (few : QuotientsFewDigits context.prec args tradeFee) :
    HistoryFree context args tradeFee := by
  intro calls later
  rcases precAfter_eq_or context.prec calls with same | set
  · have unchanged : later = context := by
      simp only [later, TradeContext.withPrec, same]
    rw [unchanged]
    exact ⟨rfl, rfl⟩
  · have changed : later = context.withPrec contractPrec := by
      simp only [later, set]
    rw [changed]
    exact ⟨tradeNumbers_congr few.analysis, chargedNumbers_congr few⟩

/-! ## What free numbers tell about the quotients -/

/-- The price of a trade that was flipped is a quotient. -/
theorem quotient_of_new
    (flips : args.pair.Flips)
    (built : Trade.new context args = .ok trade) :
    ∃ total, args.amount.mul args.ppc = .ok total ∧
      (Trade.divideDecimals context.prec args.amount.asDecimal total.asDecimal
        >>= C.ofDecimal) = .ok trade.ppc := by
  have analyzed := analyzeTrade_of_new built
  rw [Trade.analyzeTrade_eq_ok_iff] at analyzed
  obtain ⟨numbers, remaining, found, _, rfl⟩ := analyzed
  obtain ⟨total, product, found⟩ :=
    (Trade.priceNumbers_eq_ok_iff_of_flips flips _).mp found
  unfold Trade.flippedNumbers at found
  rw [Except.bind_eq_ok_iff] at found
  obtain ⟨ppc, quotient, found⟩ := found
  rw [Except.bind_eq_ok_iff] at found
  obtain ⟨newTotal, newProduct, returned⟩ := found
  rw [Except.pure_eq_ok_iff] at returned
  subst returned
  exact ⟨total, product, quotient⟩

/-- A trade in alphabetical order keeps its amount when it is analysed
again. -/
theorem reanalyze_amount
    {analyzed : Trade}
    (straight : ¬trade.pair.Flips)
    (again : trade.reanalyze context = .ok analyzed) :
    analyzed.amount = trade.amount := by
  unfold Trade.reanalyze at again
  split at again
  · cases again
    rfl
  · rw [Trade.analyzeTrade_eq_ok_iff] at again
    obtain ⟨numbers, remaining, found, _, rfl⟩ := again
    obtain ⟨total, _, rfl⟩ :=
      (Trade.priceNumbers_eq_ok_iff_of_straight straight _).mp found
    rfl

/-- The amount a charged buyer is left with is a quotient. -/
theorem quotient_of_applyTradeFee
    {tradeFee : C}
    {charged : Trade}
    (straight : ¬trade.pair.Flips)
    (buys : trade.action = .buy)
    (nonzero : trade.toSend.val * tradeFee.val / decBase ≠ 0)
    (applied : trade.applyTradeFee context tradeFee = .ok charged) :
    ∃ left : C,
      left.val = trade.toSend.val - trade.toSend.val * tradeFee.val / decBase ∧
      (Trade.divideDecimals context.prec left.asDecimal trade.ppc.asDecimal
        >>= C.ofDecimal) = .ok charged.amount := by
  rw [Trade.applyTradeFee, Except.bind_eq_ok_iff] at applied
  obtain ⟨fee, product, applied⟩ := applied
  have fee_val := C.val_mul product
  unfold Trade.applyFee at applied
  rw [if_neg (by rw [C.eq_zero_iff, fee_val]; exact nonzero)] at applied
  simp only [Except.bind_eq_ok_iff] at applied
  obtain ⟨_, _, left, difference, changed, change, fees, _, again⟩ := applied
  have left_val := (C.val_sub difference).2
  rw [fee_val] at left_val
  refine ⟨left, left_val, ?_⟩
  unfold Trade.withToSend at change
  rw [buys] at change
  simp only at change
  rw [Except.bind_eq_ok_iff] at change
  obtain ⟨amount, quotient, returned⟩ := change
  rw [Except.pure_eq_ok_iff] at returned
  subst returned
  have kept : charged.amount = amount := by
    refine reanalyze_amount ?_ again
    exact straight
  rw [kept]
  exact quotient

theorem map_eq_ok_iff {α β : Type}
    (first : Except PyError α)
    (change : α → β)
    (value : β) :
    first.map change = .ok value ↔
      ∃ found, first = .ok found ∧ change found = value := by
  cases first with
  | error error => simp [Except.map]
  | ok found => simp [Except.map]

theorem chargedNumbers_eq_ok_iff
    (context : TradeContext)
    (args : TradeArgs)
    (tradeFee : C)
    (numbers : TradeNumbers) :
    chargedNumbers context args tradeFee = .ok numbers ↔
      ∃ trade after, Trade.new context args = .ok trade ∧
        trade.applyTradeFee context tradeFee = .ok after ∧
        after.numbers = numbers := by
  simp only [chargedNumbers, map_eq_ok_iff, Except.bind_eq_ok_iff]
  constructor
  · rintro ⟨after, ⟨trade, built, applied⟩, same⟩
    exact ⟨trade, after, built, applied, same⟩
  · rintro ⟨trade, after, built, applied, same⟩
    exact ⟨after, ⟨trade, built, applied⟩, same⟩

/-- Numbers of a trade between two currencies that are free of history come
from quotients with few digits. -/
theorem fewDigits_of_historyFree
    {tradeFee : C}
    {numbers : TradeNumbers}
    (distinct : args.pair.base ≠ args.pair.quote)
    (charged : chargedNumbers context args tradeFee = .ok numbers)
    (free : HistoryFree context args tradeFee) :
    QuotientsFewDigits context.prec args tradeFee := by
  obtain ⟨trade_same, charged_same⟩ := free [.formatContract]
  change tradeNumbers (context.withPrec contractPrec) args = _ at trade_same
  change chargedNumbers (context.withPrec contractPrec) args tradeFee = _
    at charged_same
  rw [charged] at charged_same
  obtain ⟨trade, after, built, applied, after_numbers⟩ :=
    (chargedNumbers_eq_ok_iff _ _ _ _).mp charged
  have analysis : AnalysisFewDigits context.prec args.pair args.amount.val
      args.ppc.val := by
    intro flips
    rw [tradeNumbers, tradeNumbers, built] at trade_same
    obtain ⟨short, short_built, same⟩ :=
      (map_eq_ok_iff _ _ _).mp trade_same
    obtain ⟨total, product, quotient⟩ := quotient_of_new flips built
    obtain ⟨short_total, short_product, short_quotient⟩ :=
      quotient_of_new flips short_built
    rw [product, Except.ok.injEq] at short_product
    subst short_product
    have ppc : short.ppc = trade.ppc := congrArg TradeNumbers.ppc same
    rw [ppc] at short_quotient
    rw [← C.val_mul product]
    exact fewDigits_of_quotient short_quotient quotient
  refine ⟨analysis, ?_⟩
  obtain ⟨action, pair, units⟩ := val_of_new built
  have straight : ¬trade.pair.Flips :=
    (Trade.settled_of_analyzed distinct (analyzeTrade_of_new built)).straight
  rw [← action, ← pair, ← units]
  obtain ⟨short, short_after, short_built, short_applied, short_numbers⟩ :=
    (chargedNumbers_eq_ok_iff _ _ _ _).mp charged_same
  rw [new_congr analysis, built, Except.ok.injEq] at short_built
  subst short_built
  unfold FeeFewDigits
  cases buys : trade.action with
  | buy =>
      have sends : trade.toSend = trade.total := by
        rw [Trade.toSend, buys]
      intro nonzero
      rw [← sends] at nonzero ⊢
      obtain ⟨left, left_val, quotient⟩ :=
        quotient_of_applyTradeFee straight buys nonzero applied
      obtain ⟨short_left, short_left_val, short_quotient⟩ :=
        quotient_of_applyTradeFee straight buys nonzero short_applied
      have same_left : short_left = left :=
        (C.eq_iff _ _).mpr (short_left_val.trans left_val.symm)
      have amount : short_after.amount = after.amount :=
        congrArg TradeNumbers.amount (short_numbers.trans after_numbers.symm)
      rw [same_left, amount] at short_quotient
      refine ⟨?_, fun flips => absurd flips straight⟩
      rw [← left_val]
      exact fewDigits_of_quotient short_quotient quotient
  | sell => exact fun _ flips => absurd flips straight

/-- The numbers of a trade do not depend on the calls before it when its
quotients have few digits, and for a trade between two currencies only
then. -/
theorem historyFree_iff_fewDigits
    (context : TradeContext)
    (args : TradeArgs)
    (tradeFee : C) :
    (QuotientsFewDigits context.prec args tradeFee →
        HistoryFree context args tradeFee) ∧
      ∀ numbers, args.pair.base ≠ args.pair.quote →
        chargedNumbers context args tradeFee = .ok numbers →
        (HistoryFree context args tradeFee ↔
          QuotientsFewDigits context.prec args tradeFee) :=
  ⟨historyFree_of_fewDigits, fun _ distinct charged =>
    ⟨fewDigits_of_historyFree distinct charged, historyFree_of_fewDigits⟩⟩

namespace Sample

/-- A buy of one litecoin for three bitcoins: the model trades the reversed
pair. -/
def thirdArgs : TradeArgs where
  action := .buy
  amount := C.coins 1
  pair := { base := "litecoin", quote := "bitcoin" }
  ppc := C.coins 3

/-- A buy of two coins at half a coin each. -/
def halfArgs : TradeArgs where
  action := .buy
  amount := C.coins 2
  pair := { base := "bitcoin", quote := "litecoin" }
  ppc := C.ofVal 5000000000000000 C.half_bounded

/-- A trade fee of one percent. -/
def onePercent : C :=
  C.ofVal 100000000000000 C.onePercent_bounded

end Sample

/-- After a contract was formatted the price has eight digits instead of
sixteen. -/
theorem thirdArgs_depends_on_history :
    ((tradeNumbers (Sample.rowContext.withPrec
          (precAfter 28 [.formatContract])) Sample.thirdArgs).toOption.map
        fun numbers => numbers.ppc.val) = some 3333333300000000 ∧
      ((tradeNumbers Sample.rowContext Sample.thirdArgs).toOption.map
        fun numbers => numbers.ppc.val) = some 3333333333333333 ∧
      ¬HistoryFree Sample.rowContext Sample.thirdArgs Sample.onePercent := by
  refine ⟨by decide +kernel, by decide +kernel, fun free => ?_⟩
  have same := (free [.formatContract]).1
  revert same
  decide +kernel

/-- Two coins at half a coin each cost the same after every history. -/
theorem halfArgs_historyFree :
    HistoryFree Sample.rowContext Sample.halfArgs Sample.onePercent :=
  (historyFree_iff_fewDigits _ _ _).1
    { analysis := by
        intro flips
        revert flips
        decide +kernel
      fee := by
        intro _
        refine ⟨by decide +kernel, fun flips => ?_⟩
        revert flips
        decide +kernel }

end Coinbend
