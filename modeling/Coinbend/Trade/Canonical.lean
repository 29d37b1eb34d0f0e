import Coinbend.Currency.Arithmetic
import Coinbend.Trade.Fees

/-!
# The canonical form of a trade

The constructor turns a trade against a reversed pair around.  Copying and
analysing a trade again leaves it as it is when its pair was given in
alphabetical order; otherwise the mark of the turn is lost, and the price is a
rounded quotient of amounts cut to eight decimals.
-/

namespace Coinbend
namespace Trade

/-- The constructor accepts the addresses of its arguments. -/
structure AddressesValid
    (context : TradeContext)
    (args : TradeArgs) : Prop where
  destIp : args.destIp = "" ∨ context.isIpValid args.destIp = true
  recvAddr : args.recvAddr = "" ∨ context.isAddressValid args.recvAddr = true

/-- With valid addresses the constructor only analyses. -/
theorem new_eq
    {context : TradeContext}
    {args : TradeArgs}
    (valid : AddressesValid context args) :
    new context args = analyzeTrade context args := by
  have destIp : ¬(args.destIp ≠ "" ∧
      context.isIpValid args.destIp = false) := by
    rintro ⟨given, refused⟩
    rcases valid.destIp with none | accepted
    · exact given none
    · rw [refused] at accepted
      cases accepted
  have recvAddr : ¬(args.recvAddr ≠ "" ∧
      context.isAddressValid args.recvAddr = false) := by
    rintro ⟨given, refused⟩
    rcases valid.recvAddr with none | accepted
    · exact given none
    · rw [refused] at accepted
      cases accepted
  rw [new, if_neg destIp, if_neg recvAddr]

/-- A trade against a pair in alphabetical order keeps its numbers. -/
theorem analyzeTrade_of_straight
    (context : TradeContext)
    {args : TradeArgs}
    {total remaining : C}
    (straight : ¬args.pair.Flips)
    (product : args.amount.mul args.ppc = .ok total)
    (left : remainingOf args.action args.amount args.sent args.recv =
      .ok remaining) :
    analyzeTrade context args =
      .ok (analysedTrade args (args.amount, args.ppc, total) remaining) := by
  rw [analyzeTrade_eq_ok_iff]
  refine ⟨_, _, ?_, ?_, rfl⟩
  · exact (priceNumbers_eq_ok_iff_of_straight straight _).mpr
      ⟨total, product, rfl⟩
  · rw [TradeArgs.analysedAction, if_neg straight]
    exact left

/-- Analysing a trade again only forgets that it was turned around. -/
theorem Settled.analyzeTrade_args
    (context : TradeContext)
    {trade : Trade}
    (settled : trade.Settled) :
    analyzeTrade context trade.args = .ok { trade with flipped := false } := by
  have straight : ¬trade.args.pair.Flips := settled.straight
  rw [@analyzeTrade_of_straight context trade.args trade.total trade.remaining
    straight settled.total settled.remaining]
  simp only [analysedTrade, TradeArgs.analysedAction, if_neg straight,
    decide_eq_false straight]
  rfl

theorem Settled.not_totalOverflows
    {trade : Trade}
    (settled : trade.Settled) :
    trade.totalOverflows = false := by
  rw [totalOverflows, settled.total]
  rfl

theorem Settled.reanalyze
    (context : TradeContext)
    {trade : Trade}
    (settled : trade.Settled) :
    trade.reanalyze context = .ok { trade with flipped := false } := by
  rw [Trade.reanalyze, settled.not_totalOverflows]
  exact settled.analyzeTrade_args context

/-- So does copying it. -/
theorem Settled.copy
    {context : TradeContext}
    {trade : Trade}
    (settled : trade.Settled)
    (valid : AddressesValid context trade.args) :
    trade.copy context = .ok { trade with flipped := false } :=
  (new_eq valid).trans (settled.analyzeTrade_args context)

/-! ## Construction -/

/-- The currency an order gives. -/
def TradeArgs.sendCurrency (args : TradeArgs) : String :=
  match args.action with
  | .buy => args.pair.quote
  | .sell => args.pair.base

/-- The currency an order takes. -/
def TradeArgs.recvCurrency (args : TradeArgs) : String :=
  match args.action with
  | .buy => args.pair.base
  | .sell => args.pair.quote

/-- What an order gives: the amount, or its value at the price. -/
def TradeArgs.send (args : TradeArgs) : ℚ :=
  match args.action with
  | .buy => args.amount.toRat * args.ppc.toRat
  | .sell => args.amount.toRat

/-- What an order takes. -/
def TradeArgs.recv (args : TradeArgs) : ℚ :=
  match args.action with
  | .buy => args.amount.toRat
  | .sell => args.amount.toRat * args.ppc.toRat

/-- A trade is the order it was constructed from, against an ordered pair. -/
structure Preserves (args : TradeArgs) (trade : Trade) : Prop where
  ordered : trade.pair.base ≤ trade.pair.quote
  sendCurrency : trade.sendCurrency = TradeArgs.sendCurrency args
  recvCurrency : trade.recvCurrency = TradeArgs.recvCurrency args
  send_le : trade.toSend.toRat ≤ TradeArgs.send args
  send_near : |trade.toSend.toRat - TradeArgs.send args| < 1 / 10 ^ 8
  recv_near : |trade.toRecv.toRat - TradeArgs.recv args| < 1 / 10 ^ 8

/-- The constructor brings an order into its canonical form. -/
structure Canonical (context : TradeContext) (args : TradeArgs) : Prop where
  divides : ∀ error, DivisionError error → new context args ≠ .error error
  analysed : new context args ≠ .error .attributeError
  preserves : ∀ trade, new context args = .ok trade →
    Preserves args trade
  reanalyzed : ∀ trade, new context args = .ok trade →
    trade.reanalyze context = .ok trade
  copied : ∀ trade, new context args = .ok trade →
    trade.copy context = .ok trade

/-- A price or a total of the reversed trade is out of range. -/
def ReversedOverflows (prec : Nat) (args : TradeArgs) : Prop :=
  let total := args.amount.val * args.ppc.val / decBase
  let ppc := quotientUnits prec args.amount.val total
  wholeNoLimit < ppc / decBase ∨ wholeNoLimit < total * ppc / decBase / decBase

/-- The total is in range, and the pair is in alphabetical order or its
reversal raises an overflow. -/
def KeepsForm (prec : Nat) (args : TradeArgs) : Prop :=
  let total := args.amount.val * args.ppc.val / decBase
  total / decBase ≤ wholeNoLimit ∧
    (args.pair.base < args.pair.quote ∨
      total / satoshiUnit ≠ 0 ∧ ReversedOverflows prec args)

/-! ## The numbers of a reversed pair -/

/-- The numbers of a reversed trade divide by nothing, leave the range, or are
those worked out in units. -/
theorem flippedNumbers_cases (context : TradeContext) (amount total : C) :
    (total.satoshi = 0 ∧ ∃ error, DivisionError error ∧
        flippedNumbers context amount total = .error error) ∨
      (total.satoshi ≠ 0 ∧
        (wholeNoLimit <
            quotientUnits context.prec amount.val total.val / decBase ∨
          wholeNoLimit < total.val *
            quotientUnits context.prec amount.val total.val / decBase /
              decBase) ∧
        ∃ text, flippedNumbers context amount total =
          .error (.exception text)) ∨
      (total.satoshi ≠ 0 ∧
        ¬(wholeNoLimit <
            quotientUnits context.prec amount.val total.val / decBase ∨
          wholeNoLimit < total.val *
            quotientUnits context.prec amount.val total.val / decBase /
              decBase) ∧
        ∃ ppc newTotal, flippedNumbers context amount total =
            .ok (total, ppc, newTotal) ∧
          newTotal.val = total.val *
            quotientUnits context.prec amount.val total.val / decBase) := by
  unfold flippedNumbers
  rcases quotient_cases context.prec amount total with
    ⟨zero, error, isDivision, raised⟩ | ⟨nonzero, overflow, raised⟩ |
      ⟨nonzero, ppc, found, value⟩
  · rw [raised]
    exact Or.inl ⟨zero, error, isDivision, rfl⟩
  · rw [raised]
    exact Or.inr (Or.inl ⟨nonzero, Or.inl overflow, _, rfl⟩)
  · rw [found, Except.ok_bind, ← value]
    have ppc_le : ¬wholeNoLimit < ppc.val / decBase :=
      Nat.not_lt_of_le ((C.exists_val_iff _).mp ⟨ppc, rfl⟩)
    rcases Nat.lt_or_ge wholeNoLimit
        (total.val * ppc.val / decBase / decBase) with overflow | fits
    · rw [C.mul_of_overflow overflow]
      exact Or.inr (Or.inl ⟨nonzero, Or.inr overflow, _, rfl⟩)
    · obtain ⟨newTotal, product⟩ := (C.exists_mul_iff _ _).mpr fits
      rw [product]
      refine Or.inr (Or.inr ⟨nonzero, ?_, ppc, newTotal, rfl,
        C.val_mul product⟩)
      rintro (overflow | overflow)
      · exact ppc_le overflow
      · exact absurd fits (Nat.not_le_of_lt overflow)

/-- The arguments of an order. -/
def orderArgs
    (action : Action)
    (amount : C)
    (pair : CurrencyPair)
    (ppc : C) : TradeArgs where
  action := action
  amount := amount
  pair := pair
  ppc := ppc

variable {context : TradeContext} {action : Action} {amount ppc : C}
  {pair : CurrencyPair}

theorem new_orderArgs :
    new context (orderArgs action amount pair ppc) =
      priceNumbers context (orderArgs action amount pair ppc) >>=
        fun numbers => .ok
          (analysedTrade (orderArgs action amount pair ppc) numbers
            numbers.1) := by
  rw [new_eq ⟨Or.inl rfl, Or.inl rfl⟩, analyzeTrade_eq]
  refine bind_congr fun numbers => ?_
  change (remainingOf _ _ 0 0 >>= _) = _
  rw [remainingOf_untouched]
  rfl

/-- A total out of range leaves the trade without its attributes. -/
theorem new_of_overflow
    (overflow : wholeNoLimit < amount.val * ppc.val / decBase / decBase) :
    new context (orderArgs action amount pair ppc) =
      .error .attributeError := by
  rw [new_orderArgs, priceNumbers]
  change ((amount.mul ppc).mapError _ >>= _) >>= _ = _
  rw [C.mul_of_overflow overflow]
  rfl

theorem new_of_straight
    {total : C}
    (straight : ¬pair.Flips)
    (product : amount.mul ppc = .ok total) :
    new context (orderArgs action amount pair ppc) =
      .ok (analysedTrade (orderArgs action amount pair ppc)
        (amount, ppc, total) amount) := by
  have numbers := (@priceNumbers_eq_ok_iff_of_straight context
    (orderArgs action amount pair ppc) straight
    (amount, ppc, total)).mpr ⟨total, product, rfl⟩
  rw [new_orderArgs, numbers, Except.ok_bind]

theorem new_of_flips
    {total : C}
    (flips : pair.Flips)
    (product : amount.mul ppc = .ok total) :
    new context (orderArgs action amount pair ppc) =
      flippedNumbers context amount total >>= fun numbers => .ok
        (analysedTrade (orderArgs action amount pair ppc) numbers
          numbers.1) := by
  rw [new_orderArgs, priceNumbers]
  change ((amount.mul ppc).mapError _ >>= _) >>= _ = _
  rw [product]
  change (if pair.Flips then _ else _) >>= _ = _
  rw [if_pos flips]
  rfl

/-! ## Exactness -/

/-- A product is cut by less than a unit of the sixteenth decimal. -/
theorem toRat_mul_bounds
    {a b c : C}
    (product : a.mul b = .ok c) :
    c.toRat ≤ a.toRat * b.toRat ∧
      |c.toRat - a.toRat * b.toRat| < 1 / 10 ^ 8 := by
  have base_pos : (0 : ℚ) < decBase := by norm_num [decBase]
  have cut : c.val * decBase ≤ a.val * b.val ∧
      a.val * b.val < (c.val + 1) * decBase := by
    rw [C.val_mul product]
    exact ⟨Nat.div_mul_le_self _ _,
      (Nat.div_lt_iff_lt_mul decBase_pos).mp (Nat.lt_succ_self _)⟩
  have lower : (c.val : ℚ) * decBase ≤ a.val * b.val := by
    exact_mod_cast cut.1
  have upper : (a.val : ℚ) * b.val < (c.val + 1) * decBase := by
    exact_mod_cast cut.2
  have exact_ : a.toRat * b.toRat =
      (a.val * b.val : ℚ) / decBase / decBase := by
    rw [C.toRat_eq, C.toRat_eq]
    field_simp
  have below : c.toRat ≤ a.toRat * b.toRat := by
    rw [exact_, C.toRat_eq, div_le_div_iff_of_pos_right base_pos,
      le_div_iff₀ base_pos]
    exact lower
  refine ⟨below, ?_⟩
  rw [abs_sub_comm, abs_of_nonneg (sub_nonneg.mpr below), exact_, C.toRat_eq,
    ← sub_div, div_lt_iff₀ base_pos]
  have gap : (a.val * b.val : ℚ) / decBase < c.val + 1 := by
    rw [div_lt_iff₀ base_pos]
    exact upper
  have scale : (1 : ℚ) ≤ 1 / 10 ^ 8 * decBase := by norm_num [decBase]
  linarith

/-- Amounts differ by less than a unit of the eighth decimal. -/
theorem toRat_near_iff (a b : C) :
    |a.toRat - b.toRat| < 1 / 10 ^ 8 ↔
      a.val < b.val + satoshiUnit ∧ b.val < a.val + satoshiUnit := by
  have base_pos : (0 : ℚ) < decBase := by norm_num [decBase]
  have unit_eq : (1 / 10 ^ 8 : ℚ) = (satoshiUnit : ℚ) / decBase := by
    norm_num [satoshiUnit, decBase]
  rw [abs_sub_lt_iff, C.toRat_eq, C.toRat_eq, unit_eq, ← sub_div, ← sub_div,
    div_lt_div_iff_of_pos_right base_pos, div_lt_div_iff_of_pos_right base_pos,
    sub_lt_iff_lt_add', sub_lt_iff_lt_add']
  norm_cast

/-- A reversed trade is worth what the order was. -/
def ReversedNear (prec : Nat) (args : TradeArgs) : Prop :=
  let total := args.amount.val * args.ppc.val / decBase
  let back := total * quotientUnits prec args.amount.val total / decBase
  (back < args.amount.val + satoshiUnit ∧
      args.amount.val < back + satoshiUnit) ∧
    (args.action = .sell → back ≤ args.amount.val)

/-- An order against an ordered pair is kept. -/
theorem preserves_of_straight
    {total : C}
    (ordered : pair.base < pair.quote)
    (product : amount.mul ppc = .ok total) :
    Preserves (orderArgs action amount pair ppc)
      (analysedTrade (orderArgs action amount pair ppc) (amount, ppc, total)
        amount) := by
  have straight : ¬(orderArgs action amount pair ppc).pair.Flips :=
    CurrencyPair.not_flips_of_lt ordered
  obtain ⟨below, near⟩ := toRat_mul_bounds product
  have same : |amount.toRat - amount.toRat| < (1 / 10 ^ 8 : ℚ) := by
    rw [sub_self, abs_zero]
    norm_num
  have shape : analysedTrade (orderArgs action amount pair ppc)
      (amount, ppc, total) amount =
      { action, pair, amount, ppc, total
        orderHash := "", sent := 0, recv := 0, remaining := amount, fees := 0
        destIp := "", recvAddr := ""
        status := .pendingGreenAddressDeposit, flipped := false } := by
    simp only [analysedTrade, TradeArgs.analysedAction, if_neg straight,
      decide_eq_false straight]
    rfl
  have le : pair.base ≤ pair.quote :=
    (String.le_total _ _).resolve_right (String.not_le.mpr ordered)
  rw [shape]
  cases action with
  | buy => exact ⟨le, rfl, rfl, below, near, same⟩
  | sell => exact ⟨le, rfl, rfl, le_rfl, same, near⟩

/-- An order against a reversed pair is kept when its amount comes back. -/
theorem preserves_iff_of_flips
    {total newPpc newTotal : C}
    (flips : pair.Flips)
    (product : amount.mul ppc = .ok total) :
    Preserves (orderArgs action amount pair ppc)
        (analysedTrade (orderArgs action amount pair ppc)
          (total, newPpc, newTotal) total) ↔
      (newTotal.val < amount.val + satoshiUnit ∧
          amount.val < newTotal.val + satoshiUnit) ∧
        (action = .sell → newTotal.val ≤ amount.val) := by
  obtain ⟨below, near⟩ := toRat_mul_bounds product
  have le : pair.quote ≤ pair.base := by
    rw [← String.not_lt]
    exact fun ordered => CurrencyPair.not_flips_of_lt ordered flips
  have args_flips : (orderArgs action amount pair ppc).pair.Flips := flips
  have shape : analysedTrade (orderArgs action amount pair ppc)
      (total, newPpc, newTotal) total =
      { action := action.toggle, pair := pair.flip, amount := total
        ppc := newPpc, total := newTotal
        orderHash := "", sent := 0, recv := 0, remaining := total, fees := 0
        destIp := "", recvAddr := ""
        status := .pendingGreenAddressDeposit, flipped := true } := by
    simp only [analysedTrade, TradeArgs.analysedAction, if_pos args_flips,
      decide_eq_true args_flips]
    rfl
  rw [shape]
  cases action with
  | buy =>
      constructor
      · intro preserved
        refine ⟨(toRat_near_iff _ _).mp preserved.recv_near, ?_⟩
        intro isSell
        cases isSell
      · rintro ⟨back, -⟩
        exact ⟨le, rfl, rfl, below, near, (toRat_near_iff _ _).mpr back⟩
  | sell =>
      constructor
      · intro preserved
        refine ⟨(toRat_near_iff _ _).mp preserved.send_near, fun _ => ?_⟩
        rw [← Nat.not_lt, ← C.toRat_lt_iff, not_lt]
        exact preserved.send_le
      · rintro ⟨back, back_le⟩
        refine ⟨le, rfl, rfl, ?_, (toRat_near_iff _ _).mpr back, near⟩
        have not_less := Nat.not_lt_of_le (back_le rfl)
        rw [← C.toRat_lt_iff, not_lt] at not_less
        exact not_less

theorem toggle_ne (action : Action) : action.toggle ≠ action := by
  cases action <;> decide

/-- A reversed trade does not stay as it is when it is analysed again: it is no
longer marked as reversed. -/
theorem not_reanalyzed_of_flips
    {args : TradeArgs}
    {trade : Trade}
    (flips : args.pair.Flips)
    (analyzed : analyzeTrade context args = .ok trade) :
    trade.reanalyze context ≠ .ok trade := by
  obtain ⟨numbers, remaining, found, _, built⟩ :=
    (analyzeTrade_eq_ok_iff _ _ _).mp analyzed
  have marked : trade.flipped = decide args.pair.Flips := by
    rw [← built]
    rfl
  have product : trade.amount.mul trade.ppc = .ok trade.total := by
    rw [← built]
    exact mul_of_priceNumbers found
  have fits : trade.totalOverflows = false := by
    rw [totalOverflows, product]
    rfl
  intro again
  rw [reanalyze, fits, if_neg Bool.false_ne_true] at again
  obtain ⟨newNumbers, newRemaining, _, _, same⟩ :=
    (analyzeTrade_eq_ok_iff _ _ _).mp again
  have still_marked : (decide trade.pair.Flips : Bool) = trade.flipped :=
    congrArg Trade.flipped same
  rw [marked, decide_eq_true flips, decide_eq_true_eq] at still_marked
  have action : (if trade.pair.Flips then trade.action.toggle
      else trade.action) = trade.action := congrArg Trade.action same
  rw [if_pos still_marked] at action
  exact toggle_ne _ action

/-- The form of an order whose total is in range. -/
theorem keepsForm_iff
    {prec : Nat}
    {total : C}
    (product : amount.mul ppc = .ok total) :
    KeepsForm prec (orderArgs action amount pair ppc) ↔
      pair.base < pair.quote ∨
        (total.satoshi ≠ 0 ∧
          (wholeNoLimit <
              quotientUnits prec amount.val total.val / decBase ∨
            wholeNoLimit < total.val *
              quotientUnits prec amount.val total.val / decBase /
                decBase)) := by
  have fits := (C.exists_val_iff _).mp ⟨total, rfl⟩
  unfold KeepsForm ReversedOverflows
  change (amount.val * ppc.val / decBase / decBase ≤ wholeNoLimit ∧
    (pair.base < pair.quote ∨
      amount.val * ppc.val / decBase / satoshiUnit ≠ 0 ∧ _)) ↔ _
  simp only [orderArgs]
  rw [← C.val_mul product]
  exact and_iff_right fits

/-- Analysing or copying a constructed trade again only forgets its mark. -/
theorem again_of_new
    {trade : Trade}
    (distinct : pair.base ≠ pair.quote)
    (constructed : new context (orderArgs action amount pair ppc) =
      .ok trade) :
    trade.reanalyze context = .ok { trade with flipped := false } ∧
      trade.copy context = .ok { trade with flipped := false } := by
  rw [new_eq ⟨Or.inl rfl, Or.inl rfl⟩] at constructed
  have settled := settled_of_analyzed (show
    (orderArgs action amount pair ppc).pair.base ≠ _ from distinct) constructed
  obtain ⟨numbers, remaining, _, _, built⟩ :=
    (analyzeTrade_eq_ok_iff _ _ _).mp constructed
  have valid : AddressesValid context trade.args := by
    rw [← built]
    exact ⟨Or.inl rfl, Or.inl rfl⟩
  exact ⟨settled.reanalyze context, settled.copy valid⟩

theorem canonical_of_straight
    {total : C}
    (ordered : pair.base < pair.quote)
    (product : amount.mul ppc = .ok total) :
    Canonical context (orderArgs action amount pair ppc) := by
  have straight := CurrencyPair.not_flips_of_lt ordered
  have distinct : pair.base ≠ pair.quote := by
    intro same
    rw [same] at ordered
    exact String.lt_irrefl _ ordered
  have constructed := @new_of_straight context action amount ppc pair total
    straight product
  have unmarked {trade : Trade}
      (found : new context (orderArgs action amount pair ppc) = .ok trade) :
      { trade with flipped := false } = trade := by
    rw [constructed, Except.ok.injEq] at found
    have mark : trade.flipped = false := by
      rw [← found]
      exact decide_eq_false straight
    rw [← mark]
  refine ⟨?_, ?_, ?_, ?_, ?_⟩
  · intro error _
    rw [constructed]
    exact fun impossible => nomatch impossible
  · rw [constructed]
    exact fun impossible => nomatch impossible
  · intro trade found
    rw [constructed, Except.ok.injEq] at found
    rw [← found]
    exact preserves_of_straight ordered product
  · intro trade found
    rw [(again_of_new distinct found).1, unmarked found]
  · intro trade found
    rw [(again_of_new distinct found).2, unmarked found]

/-- The constructor brings an order into its canonical form exactly when its
total is in range and its pair is in alphabetical order, or the reversal raises
an overflow.  A reversed trade that was constructed is the order up to its
mark exactly when its amount comes back. -/
theorem canonical_iff
    (context : TradeContext)
    (action : Action)
    (amount : C)
    (pair : CurrencyPair)
    (ppc : C) :
    (Canonical context (orderArgs action amount pair ppc) ↔
        KeepsForm context.prec (orderArgs action amount pair ppc)) ∧
      ∀ trade, pair.quote < pair.base →
        new context (orderArgs action amount pair ppc) = .ok trade →
        trade.reanalyze context = .ok { trade with flipped := false } ∧
          trade.copy context = .ok { trade with flipped := false } ∧
          (Preserves (orderArgs action amount pair ppc) trade ↔
            ReversedNear context.prec (orderArgs action amount pair ppc)) := by
  constructor
  · rcases Nat.lt_or_ge wholeNoLimit
        (amount.val * ppc.val / decBase / decBase) with overflow | fits
    · constructor
      · intro canonical
        exact absurd (new_of_overflow overflow) canonical.analysed
      · rintro ⟨fits, -⟩
        exact absurd overflow (Nat.not_lt_of_le fits)
    obtain ⟨total, product⟩ := (C.exists_mul_iff _ _).mpr fits
    rw [keepsForm_iff product]
    by_cases flips : pair.Flips
    · have constructed := @new_of_flips context action amount ppc pair total
        flips product
      have not_ordered : ¬pair.base < pair.quote := fun ordered =>
        CurrencyPair.not_flips_of_lt ordered flips
      rcases flippedNumbers_cases context amount total with
        ⟨zero, error, isDivision, raised⟩ | ⟨nonzero, overflow, text, raised⟩ |
          ⟨nonzero, in_range, newPpc, newTotal, found, _⟩
      · rw [raised] at constructed
        constructor
        · intro canonical
          exact absurd constructed (canonical.divides error isDivision)
        · rintro (ordered | ⟨nonzero, -⟩)
          · exact absurd ordered not_ordered
          · exact absurd zero nonzero
      · rw [raised] at constructed
        have none (trade : Trade) :
            new context (orderArgs action amount pair ppc) ≠ .ok trade := by
          rw [constructed]
          exact fun impossible => nomatch impossible
        refine ⟨fun _ => Or.inr ⟨nonzero, overflow⟩, fun _ => ?_⟩
        refine ⟨?_, ?_, fun trade found => absurd found (none trade),
          fun trade found => absurd found (none trade),
          fun trade found => absurd found (none trade)⟩
        · rintro error (rfl | rfl) <;> rw [constructed] <;>
            exact fun impossible => nomatch impossible
        · rw [constructed]
          exact fun impossible => nomatch impossible
      · rw [found, Except.ok_bind] at constructed
        constructor
        · intro canonical
          have analyzed := constructed
          rw [new_eq ⟨Or.inl rfl, Or.inl rfl⟩] at analyzed
          exact absurd (canonical.reanalyzed _ constructed)
            (not_reanalyzed_of_flips flips analyzed)
        · rintro (ordered | ⟨-, overflow⟩)
          · exact absurd ordered not_ordered
          · exact absurd overflow in_range
    · have ordered := CurrencyPair.lt_of_not_flips flips
      exact iff_of_true (canonical_of_straight ordered product)
        (Or.inl ordered)
  · intro trade reversed found
    have distinct : pair.base ≠ pair.quote := by
      intro same
      rw [same] at reversed
      exact String.lt_irrefl _ reversed
    obtain ⟨again, copied⟩ := again_of_new distinct found
    refine ⟨again, copied, ?_⟩
    have flips : pair.Flips := by
      by_contra straight
      exact String.lt_irrefl _
        (String.lt_trans reversed (CurrencyPair.lt_of_not_flips straight))
    rcases Nat.lt_or_ge wholeNoLimit
        (amount.val * ppc.val / decBase / decBase) with overflow | fits
    · rw [new_of_overflow overflow] at found
      cases found
    obtain ⟨total, product⟩ := (C.exists_mul_iff _ _).mpr fits
    rw [@new_of_flips context action amount ppc pair total flips product]
      at found
    rcases flippedNumbers_cases context amount total with
      ⟨_, _, _, raised⟩ | ⟨_, _, text, raised⟩ |
        ⟨_, _, newPpc, newTotal, numbers, value⟩
    · rw [raised] at found
      cases found
    · rw [raised] at found
      cases found
    · rw [numbers, Except.ok_bind, Except.ok.injEq] at found
      rw [← found, preserves_iff_of_flips flips product, value,
        C.val_mul product]
      exact Iff.rfl

end Trade

namespace Sample

def bitcoinLitecoin : CurrencyPair where
  base := "bitcoin"
  quote := "litecoin"

def bookContext : TradeContext where
  prec := 28
  isIpValid := fun _ => true
  isAddressValid := fun _ => true

end Sample

/-- Reversed orders: the constructor divides by nothing when the total is below
one satoshi, and ten decimals of a large amount are lost. -/
theorem reversed_not_canonical :
    Trade.new Sample.bookContext (Trade.orderArgs .sell
        (C.ofVal 100000000000 (by decide)) Sample.bitcoinLitecoin.flip
        (C.ofVal 1000000000000 (by decide))) = .error .zeroDivision ∧
      ((Trade.new Sample.bookContext (Trade.orderArgs .buy
          (C.coins 1000000000) Sample.bitcoinLitecoin.flip
          (C.coins 3))).toOption.map fun trade =>
            (trade.action, trade.toSend, trade.toRecv.val)) =
        some (.sell, C.coins 3000000000, 9999999999999999000000000) ∧
      ¬Trade.Canonical Sample.bookContext (Trade.orderArgs .buy
        (C.coins 1000000000) Sample.bitcoinLitecoin.flip (C.coins 3)) := by
  have numbers :
      ((Trade.new Sample.bookContext (Trade.orderArgs .buy
          (C.coins 1000000000) Sample.bitcoinLitecoin.flip
          (C.coins 3))).toOption.map fun trade =>
            (trade.action, trade.toSend, trade.toRecv.val)) =
        some (.sell, C.coins 3000000000, 9999999999999999000000000) := by
    decide +kernel
  refine ⟨by decide +kernel, numbers, fun canonical => ?_⟩
  cases constructed : Trade.new Sample.bookContext (Trade.orderArgs .buy
      (C.coins 1000000000) Sample.bitcoinLitecoin.flip (C.coins 3)) with
  | error error =>
      rw [constructed] at numbers
      cases numbers
  | ok trade =>
      rw [constructed] at numbers
      have received : trade.toRecv.val = 9999999999999999000000000 :=
        congrArg (·.2.2) (Option.some.inj numbers)
      have near := (Trade.toRat_near_iff _ _).mp
        (canonical.preserves trade constructed).recv_near
      rw [received] at near
      revert near
      decide

end Coinbend
