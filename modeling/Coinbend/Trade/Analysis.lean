import Coinbend.Library.Raising
import Coinbend.Trade.Defs

/-!
# Analysed trades

What `analyze_trade` makes of its arguments.  A pair that is not in
alphabetical order is flipped, and the trade with it; a pair of two different
currencies is then in order and is not flipped again.
-/

namespace Coinbend

/-- The trade is against the reversed pair. -/
def CurrencyPair.Flips (pair : CurrencyPair) : Prop :=
  pair.flip = orderPair pair.flip

instance (pair : CurrencyPair) : Decidable pair.Flips :=
  inferInstanceAs (Decidable (_ = _))

/-- The names of a pair are in lower case. -/
def CurrencyPair.LowerCase (pair : CurrencyPair) : Prop :=
  pair.base.toLower = pair.base ∧ pair.quote.toLower = pair.quote

theorem CurrencyPair.not_flips_of_lt
    {pair : CurrencyPair}
    (ordered : pair.base < pair.quote) :
    ¬pair.Flips := by
  have order : orderPair pair.flip = pair := by
    unfold orderPair
    rw [if_neg]
    · rfl
    · exact String.not_le.mpr ordered
  rw [Flips, order]
  intro same
  have names : pair.quote = pair.base := congrArg CurrencyPair.base same
  rw [names] at ordered
  exact String.lt_irrefl _ ordered

theorem CurrencyPair.lt_of_not_flips
    {pair : CurrencyPair}
    (straight : ¬pair.Flips) :
    pair.base < pair.quote := by
  rw [← String.not_le]
  intro reversed
  refine straight (Eq.symm ?_)
  unfold orderPair
  exact if_pos reversed

theorem CurrencyPair.lt_of_flips
    {pair : CurrencyPair}
    (flips : pair.Flips)
    (distinct : pair.base ≠ pair.quote) :
    pair.quote < pair.base := by
  rw [← String.not_le]
  intro ordered
  unfold Flips orderPair at flips
  split at flips
  next reversed => exact distinct (String.le_antisymm ordered reversed)
  · exact distinct (congrArg CurrencyPair.quote flips)

/-- What is left of an amount after what was received or sent of it. -/
def remainingOf (action : Action) (amount sent recv : C) : Except PyError C :=
  match action with
  | .buy => amount.sub recv
  | .sell => amount.sub sent

/-- All of an amount is left when nothing was sent or received. -/
theorem remainingOf_untouched (action : Action) (amount : C) :
    remainingOf action amount 0 0 = .ok amount := by
  obtain ⟨remaining, found, value⟩ := @C.sub_of_le amount 0 (Nat.zero_le _)
  rw [C.val_zero, Nat.sub_zero] at value
  rw [C.val_injective value] at found
  cases action <;> exact found

theorem remainingOf_zero (action : Action) (amount : C) :
    ∃ remaining, remainingOf action amount 0 0 = .ok remaining :=
  ⟨amount, remainingOf_untouched action amount⟩

/-- `C(x.as_decimal / y.as_decimal)` in sixteenth decimals, for amounts
counted in sixteenth decimals. -/
def quotientUnits (prec x y : Nat) : Nat :=
  C.unitsOf (DecimalRounding.roundDigits prec
    (((x / satoshiUnit : Nat) : ℚ) / COIN / (((y / satoshiUnit : Nat) : ℚ) / COIN)))

theorem quotientUnits_val (prec : Nat) (x y : C) :
    quotientUnits prec x.val y.val =
      C.unitsOf (DecimalRounding.roundDigits prec
        (x.asDecimal / y.asDecimal)) := by
  simp only [quotientUnits, C.asDecimal, C.satoshi]

theorem val_of_quotient
    {prec : Nat}
    {x y c : C}
    (found : (Trade.divideDecimals prec x.asDecimal y.asDecimal
      >>= C.ofDecimal) = .ok c) :
    c.val = quotientUnits prec x.val y.val := by
  rw [Except.bind_eq_ok_iff] at found
  obtain ⟨quotient, divided, read⟩ := found
  unfold Trade.divideDecimals at divided
  split at divided
  · cases divided
  · rw [Except.ok.injEq] at divided
    subst divided
    rw [quotientUnits_val]
    exact ((C.ofDecimal_eq_ok_iff _ _).mp read).2

/-- What a division by zero raises: of zero, and of another number. -/
def DivisionError (error : PyError) : Prop :=
  error = .invalidOperation ∨ error = .zeroDivision

/-- A quotient of two amounts divides by nothing, leaves the range, or is
their quotient in sixteenth decimals. -/
theorem quotient_cases (prec : Nat) (x y : C) :
    (y.satoshi = 0 ∧ ∃ error, DivisionError error ∧
        (Trade.divideDecimals prec x.asDecimal y.asDecimal >>= C.ofDecimal) =
          .error error) ∨
      (y.satoshi ≠ 0 ∧
        wholeNoLimit < quotientUnits prec x.val y.val / decBase ∧
        (Trade.divideDecimals prec x.asDecimal y.asDecimal >>= C.ofDecimal) =
          .error (.exception "Whole number overflow in number")) ∨
      (y.satoshi ≠ 0 ∧ ∃ c : C,
        (Trade.divideDecimals prec x.asDecimal y.asDecimal >>= C.ofDecimal) =
          .ok c ∧
        c.val = quotientUnits prec x.val y.val) := by
  have zero_iff : y.asDecimal = 0 ↔ y.satoshi = 0 := by
    rw [C.asDecimal, div_eq_zero_iff]
    simp [COIN]
  rw [quotientUnits_val, Trade.divideDecimals]
  by_cases zero : y.satoshi = 0
  · rw [if_pos (zero_iff.mpr zero)]
    refine Or.inl ⟨zero, _, ?_, rfl⟩
    split
    · exact Or.inl rfl
    · exact Or.inr rfl
  · rw [if_neg (fun none => zero (zero_iff.mp none)), Except.ok_bind]
    have nonneg : (0 : ℚ) ≤
        DecimalRounding.roundDigits prec (x.asDecimal / y.asDecimal) :=
      DecimalRounding.roundDigits_nonneg _
        (div_nonneg x.asDecimal_nonneg y.asDecimal_nonneg)
    rcases Nat.lt_or_ge wholeNoLimit (C.unitsOf (DecimalRounding.roundDigits
      prec (x.asDecimal / y.asDecimal)) / decBase) with overflow | fits
    · exact Or.inr (Or.inl
        ⟨zero, overflow, C.ofDecimal_of_overflow nonneg overflow⟩)
    · obtain ⟨c, value⟩ := (C.exists_val_iff _).mpr fits
      exact Or.inr (Or.inr
        ⟨zero, c, (C.ofDecimal_eq_ok_iff _ _).mpr ⟨nonneg, value⟩, value⟩)

namespace Trade

/-- The amount, the price and the total of a trade against the reversed pair,
from the total `total` of its arguments. -/
def flippedNumbers (context : TradeContext) (amount total : C) :
    Except PyError (C × C × C) := do
  let ppc ←
    divideDecimals context.prec amount.asDecimal total.asDecimal
      >>= C.ofDecimal
  let newTotal ← total.mul ppc
  return (total, ppc, newTotal)

/-- The amount, the price and the total of an analysed trade. -/
def priceNumbers (context : TradeContext) (args : TradeArgs) :
    Except PyError (C × C × C) := do
  let total ← (args.amount.mul args.ppc).mapError fun _ => .attributeError
  if args.pair.Flips then flippedNumbers context args.amount total
  else return (args.amount, args.ppc, total)

/-- The action of an analysed trade. -/
def TradeArgs.analysedAction (args : TradeArgs) : Action :=
  if args.pair.Flips then args.action.toggle else args.action

/-- The trade with the numbers worked out. -/
def analysedTrade
    (args : TradeArgs)
    (numbers : C × C × C)
    (remaining : C) : Trade where
  action := TradeArgs.analysedAction args
  pair := if args.pair.Flips then args.pair.flip else args.pair
  amount := numbers.1
  ppc := numbers.2.1
  total := numbers.2.2
  orderHash := args.orderHash
  sent := args.sent
  recv := args.recv
  remaining := remaining
  fees := args.fees
  destIp := args.destIp
  recvAddr := args.recvAddr
  status := args.status
  flipped := args.pair.Flips

/-- `analyze_trade` works out the three numbers, and what remains. -/
theorem analyzeTrade_eq (context : TradeContext) (args : TradeArgs) :
    analyzeTrade context args = (do
      let numbers ← priceNumbers context args
      let remaining ← remainingOf (TradeArgs.analysedAction args) numbers.1
        args.sent args.recv
      return analysedTrade args numbers remaining) := by
  unfold analyzeTrade priceNumbers flippedNumbers analysedTrade
    TradeArgs.analysedAction
  rw [bind_assoc]
  refine bind_congr fun total => ?_
  by_cases flips : args.pair.Flips
  · have flip : args.pair.flip = orderPair args.pair.flip := flips
    simp only [if_pos flips, if_pos flip, bind_assoc, pure_bind]
    refine bind_congr fun quotient => bind_congr fun ppc =>
      bind_congr fun newTotal => ?_
    cases args.action.toggle <;> rfl
  · have straight : ¬args.pair.flip = orderPair args.pair.flip := flips
    simp only [if_neg flips, if_neg straight, pure_bind]
    cases args.action <;> rfl

/-- An analysed trade has the numbers worked out. -/
theorem analyzeTrade_eq_ok_iff
    (context : TradeContext)
    (args : TradeArgs)
    (trade : Trade) :
    analyzeTrade context args = .ok trade ↔
      ∃ numbers remaining, priceNumbers context args = .ok numbers ∧
        remainingOf (TradeArgs.analysedAction args) numbers.1 args.sent
          args.recv = .ok remaining ∧
        analysedTrade args numbers remaining = trade := by
  rw [analyzeTrade_eq]
  simp only [Except.bind_eq_ok_iff, Except.pure_eq_ok_iff]
  constructor
  · rintro ⟨numbers, found, remaining, left, returned⟩
    exact ⟨numbers, remaining, found, left, returned⟩
  · rintro ⟨numbers, remaining, found, left, returned⟩
    exact ⟨numbers, found, remaining, left, returned⟩

theorem mapError_eq_ok_iff
    (first : Except PyError C)
    (change : PyError → PyError)
    (value : C) :
    first.mapError change = .ok value ↔ first = .ok value := by
  cases first with
  | error error => simp [Except.mapError]
  | ok found => exact Iff.rfl

/-- A pair in alphabetical order keeps the amount and the price. -/
theorem priceNumbers_eq_ok_iff_of_straight
    {context : TradeContext}
    {args : TradeArgs}
    (straight : ¬args.pair.Flips)
    (numbers : C × C × C) :
    priceNumbers context args = .ok numbers ↔
      ∃ total, args.amount.mul args.ppc = .ok total ∧
        (args.amount, args.ppc, total) = numbers := by
  simp only [priceNumbers, Except.bind_eq_ok_iff, mapError_eq_ok_iff,
    if_neg straight, Except.pure_eq_ok_iff]

/-- The numbers of a trade against the reversed pair. -/
theorem priceNumbers_eq_ok_iff_of_flips
    {context : TradeContext}
    {args : TradeArgs}
    (flips : args.pair.Flips)
    (numbers : C × C × C) :
    priceNumbers context args = .ok numbers ↔
      ∃ total, args.amount.mul args.ppc = .ok total ∧
        flippedNumbers context args.amount total = .ok numbers := by
  simp only [priceNumbers, Except.bind_eq_ok_iff, mapError_eq_ok_iff,
    if_pos flips]

/-- The total is the product of the amount and the price. -/
theorem mul_of_priceNumbers
    {context : TradeContext}
    {args : TradeArgs}
    {numbers : C × C × C}
    (found : priceNumbers context args = .ok numbers) :
    numbers.1.mul numbers.2.1 = .ok numbers.2.2 := by
  by_cases flips : args.pair.Flips
  · obtain ⟨total, _, found⟩ :=
      (priceNumbers_eq_ok_iff_of_flips flips _).mp found
    simp only [flippedNumbers, Except.bind_eq_ok_iff] at found
    obtain ⟨ppc, _, newTotal, product, returned⟩ := found
    rw [Except.pure_eq_ok_iff] at returned
    subst returned
    exact product
  · obtain ⟨total, product, rfl⟩ :=
      (priceNumbers_eq_ok_iff_of_straight flips _).mp found
    exact product

/-- What the constructor makes of a trade between two currencies. -/
structure Settled (trade : Trade) : Prop where
  ordered : trade.pair.base < trade.pair.quote
  total : trade.amount.mul trade.ppc = .ok trade.total
  remaining : remainingOf trade.action trade.amount trade.sent trade.recv =
    .ok trade.remaining

theorem Settled.straight
    {trade : Trade}
    (settled : trade.Settled) :
    ¬trade.pair.Flips :=
  CurrencyPair.not_flips_of_lt settled.ordered

/-- A trade between two currencies is analysed once and for all. -/
theorem settled_of_analyzed
    {context : TradeContext}
    {args : TradeArgs}
    {trade : Trade}
    (distinct : args.pair.base ≠ args.pair.quote)
    (analyzed : analyzeTrade context args = .ok trade) :
    trade.Settled := by
  rw [analyzeTrade_eq_ok_iff] at analyzed
  obtain ⟨numbers, remaining, found, left, rfl⟩ := analyzed
  refine ⟨?_, mul_of_priceNumbers found, left⟩
  simp only [analysedTrade]
  split
  next flips => exact CurrencyPair.lt_of_flips flips distinct
  next straight => exact CurrencyPair.lt_of_not_flips straight

end Trade
end Coinbend
