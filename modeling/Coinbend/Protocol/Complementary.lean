import Coinbend.Protocol.Announcement
import Coinbend.Protocol.MainLoop
import Coinbend.Trade.FeeReturn

/-!
# Complementary orders

Two users open the same order, one to sell and one to buy, and each is charged
the trade fee: one out of the amount, one out of the total.  One order is
announced in a line, with eight decimals, and what is read from the line is
compared with the other order, decimal by decimal.
-/

namespace Coinbend

namespace Trade

/-- "Build trade object.": the trade `open_trade` makes of an order, the fees of
both sides worked out and its own applied. -/
def openTrade
    (context : TradeContext)
    (args : TradeArgs)
    (tradeFee : C) : Except PyError Trade := do
  let trade ← new context args
  let _ourTradeFee ← trade.toSend.mul tradeFee
  let _theirTradeFee ← trade.toRecv.mul tradeFee
  trade.applyTradeFee context tradeFee

/-! ## The numbers of an order -/

/-- Amount, price and total of a trade, counted in units. -/
structure Numbers where
  amount : Nat
  ppc : Nat
  total : Nat

/-- The numbers of an order against the pair in alphabetical order. -/
def orderNumbers
    (prec : Nat)
    (pair : CurrencyPair)
    (amount ppc : Nat) : Numbers :=
  let total := amount * ppc / decBase
  if pair.Flips then
    let price := quotientUnits prec amount total
    ⟨total, price, total * price / decBase⟩
  else ⟨amount, ppc, total⟩

/-- The amount once the fee is taken out of what is sent. -/
def Numbers.chargedAmount
    (prec : Nat)
    (numbers : Numbers)
    (tradeFee : Nat) : Action → Nat
  | .sell => numbers.amount - numbers.amount * tradeFee / decBase
  | .buy =>
      let fee := numbers.total * tradeFee / decBase
      if fee = 0 then numbers.amount
      else quotientUnits prec (numbers.total - fee) numbers.ppc

/-- The action of an order against the pair in alphabetical order. -/
def orderAction (pair : CurrencyPair) (action : Action) : Action :=
  if pair.Flips then action.toggle else action

/-- A number of units cut to eight decimals. -/
def cutUnits (units : Nat) : Nat :=
  units / satoshiUnit * satoshiUnit

theorem val_printed_eq (c : C) : c.printed.val = cutUnits c.val := by
  rw [C.val_printed, C.satoshi, cutUnits]

/-- The numbers of a trade are these. -/
structure HasNumbers (trade : Trade) (numbers : Numbers) : Prop where
  amount : trade.amount.val = numbers.amount
  ppc : trade.ppc.val = numbers.ppc
  total : trade.total.val = numbers.total

variable {context : TradeContext} {args : TradeArgs} {trade : Trade}

/-- What the constructor makes of an order. -/
theorem new_numbers
    (created : new context args = .ok trade) :
    trade.HasNumbers
        (orderNumbers context.prec args.pair args.amount.val args.ppc.val) ∧
      trade.action = TradeArgs.analysedAction args ∧
      trade.pair =
        (if args.pair.Flips then args.pair.flip else args.pair) ∧
      remainingOf trade.action trade.amount args.sent args.recv =
        .ok trade.remaining := by
  have analyzed : analyzeTrade context args = .ok trade := by
    unfold new at created
    split at created
    · cases created
    split at created
    · cases created
    · exact created
  rw [analyzeTrade_eq_ok_iff] at analyzed
  obtain ⟨numbers, remaining, found, left, rfl⟩ := analyzed
  refine ⟨?_, rfl, rfl, left⟩
  by_cases flips : args.pair.Flips
  · rw [priceNumbers_eq_ok_iff_of_flips flips] at found
    obtain ⟨total, product, found⟩ := found
    simp only [flippedNumbers, Except.bind_eq_ok_iff] at found
    obtain ⟨ppc, quotient, newTotal, newProduct, returned⟩ := found
    cases returned
    have quotient_found : (divideDecimals context.prec args.amount.asDecimal
        total.asDecimal >>= C.ofDecimal) = .ok ppc := by
      rw [Except.bind_eq_ok_iff]
      exact quotient
    have total_val := C.val_mul product
    have ppc_val := val_of_quotient quotient_found
    have newTotal_val := C.val_mul newProduct
    rw [total_val] at ppc_val
    rw [ppc_val, total_val] at newTotal_val
    simp only [orderNumbers, if_pos flips]
    exact ⟨total_val, ppc_val, newTotal_val⟩
  · rw [priceNumbers_eq_ok_iff_of_straight flips] at found
    obtain ⟨total, product, returned⟩ := found
    cases returned
    simp only [orderNumbers, if_neg flips]
    exact ⟨rfl, rfl, C.val_mul product⟩

/-- The object of a trade whose attributes were just assigned. -/
def toObject (trade : Trade) : TradeObject where
  trade := trade
  toSend := trade.toSend
  toRecv := trade.toRecv

/-- What a trade of which nothing was moved looks like once it is charged. -/
structure ChargedFrom
    (trade charged : Trade)
    (amount : Nat) : Prop where
  action : charged.action = trade.action
  pair : charged.pair = trade.pair
  ppc : charged.ppc = trade.ppc
  amount : charged.amount.val = amount
  remaining : charged.remaining = 0 ↔ charged.amount = 0

theorem toSend_eq_zero_of_amount
    (settled : trade.Settled)
    (none_left : trade.amount = 0) :
    trade.toSend = 0 := by
  have total_val := C.val_mul settled.total
  rw [none_left, C.val_zero, Nat.zero_mul, Nat.zero_div] at total_val
  unfold toSend
  cases trade.action with
  | buy => exact (C.eq_zero_iff _).mpr total_val
  | sell => exact none_left

/-- A positive fee changes the amount; what remains is all of it. -/
theorem chargedFrom_of_fee
    {charged : Trade}
    {fee : C}
    (settled : trade.Settled)
    (untouched : trade.remaining = trade.amount)
    (positive : fee ≠ 0)
    (applied : applyFee context trade fee = .ok charged) :
    ChargedFrom trade charged
      (match trade.action with
        | .buy => quotientUnits context.prec (trade.toSend.val - fee.val)
            trade.ppc.val
        | .sell => trade.toSend.val - fee.val) := by
  have straight := settled.straight
  have object_applies :
      (trade.toObject.applyFee context fee).result = .ok () ∧
        (trade.toObject.applyFee context fee).state.trade = charged := by
    have agrees := TradeObject.applyFee_agrees context trade.toObject fee
    unfold TradeObject.Agrees at agrees
    rw [show trade.toObject.trade = trade from rfl, applied] at agrees
    cases result : (trade.toObject.applyFee context fee).result with
    | error error =>
        rw [result] at agrees
        cases agrees
    | ok value =>
        rw [result] at agrees
        cases agrees
        exact ⟨rfl, rfl⟩
  obtain ⟨returned, isCharged⟩ := object_applies
  unfold TradeObject.applyFee at returned isCharged
  rw [if_neg positive] at returned isCharged
  by_cases high : trade.toObject.trade.toSend < fee
  · rw [if_pos high] at returned
    cases returned
  rw [if_neg high] at returned isCharged
  rw [C.lt_iff, Nat.not_lt] at high
  obtain ⟨left, difference, left_val⟩ := C.sub_of_le high
  rw [difference, Outcome.attempt_ok] at returned isCharged
  obtain ⟨amount, newFees, found, counted⟩ := TradeObject.chargeSend_ok returned
  have amount_val := TradeObject.amountFor_val found
  rw [left_val] at amount_val
  have trade_amount : trade.amount ≠ 0 := by
    intro none_left
    have nothing := toSend_eq_zero_of_amount settled none_left
    have sends : trade.toObject.trade.toSend = trade.toSend := rfl
    rw [sends, nothing, C.val_zero] at high
    exact positive ((C.eq_zero_iff fee).mpr (Nat.le_zero.mp high))
  by_cases product : ∃ total, amount.mul trade.ppc = .ok total
  · obtain ⟨total, product⟩ := product
    rw [TradeObject.chargeSend_of_product straight found product counted]
      at isCharged
    subst isCharged
    exact ⟨rfl, rfl, rfl, amount_val, Iff.rfl⟩
  · rw [TradeObject.chargeSend_of_overflow found product counted] at isCharged
    subst isCharged
    refine ⟨rfl, rfl, rfl, amount_val, ?_⟩
    refine iff_of_false ?_ ?_
    · intro none_left
      exact trade_amount (untouched ▸ none_left)
    · intro none_left
      have isZero : amount = 0 := none_left
      refine product ((C.exists_mul_iff _ _).mpr ?_)
      rw [isZero, C.val_zero, Nat.zero_mul]
      exact Nat.zero_le _

/-- What an opened trade looks like. -/
structure OrderOpened
    (prec : Nat)
    (args : TradeArgs)
    (tradeFee : C)
    (opened : Trade) : Prop where
  action : opened.action = TradeArgs.analysedAction args
  pair : opened.pair = if args.pair.Flips then args.pair.flip else args.pair
  ppc : opened.ppc.val =
    (orderNumbers prec args.pair args.amount.val args.ppc.val).ppc
  amount : opened.amount.val =
    (orderNumbers prec args.pair args.amount.val args.ppc.val).chargedAmount
      prec tradeFee.val opened.action
  remaining : opened.remaining = 0 ↔ opened.amount = 0

theorem orderOpened_of_openTrade
    {opened : Trade}
    {tradeFee : C}
    (distinct : args.pair.base ≠ args.pair.quote)
    (unsent : args.sent = 0)
    (unreceived : args.recv = 0)
    (isOpened : openTrade context args tradeFee = .ok opened) :
    opened.OrderOpened context.prec args tradeFee := by
  simp only [openTrade, Except.bind_eq_ok_iff] at isOpened
  obtain ⟨trade, created, ourTradeFee, _, theirTradeFee, _, applied⟩ := isOpened
  have settled : trade.Settled := by
    unfold new at created
    split at created
    · cases created
    split at created
    · cases created
    · exact settled_of_analyzed distinct created
  obtain ⟨numbers, action, pair, left⟩ := new_numbers created
  rw [unsent, unreceived, remainingOf_untouched, Except.ok.injEq] at left
  rw [applyTradeFee, Except.bind_eq_ok_iff] at applied
  obtain ⟨fee, product, applied⟩ := applied
  have fee_val := C.val_mul product
  by_cases free : fee = 0
  · rw [applyFee, if_pos free, Except.pure_eq_ok_iff] at applied
    subst applied
    rw [C.eq_zero_iff] at free
    refine ⟨action, pair, numbers.ppc, ?_, by rw [← left]⟩
    unfold Numbers.chargedAmount
    unfold toSend at fee_val
    cases acts : trade.action with
    | buy =>
        simp only [acts, numbers.total] at fee_val
        simp only [numbers.amount, ← fee_val, if_pos free]
    | sell =>
        simp only [acts, numbers.amount] at fee_val
        simp only [numbers.amount, ← fee_val, free, Nat.sub_zero]
  · have charged := chargedFrom_of_fee settled left.symm free applied
    refine ⟨charged.action.trans action, charged.pair.trans pair, ?_, ?_,
      charged.remaining⟩
    · rw [charged.ppc]
      exact numbers.ppc
    · rw [charged.amount, charged.action]
      unfold Numbers.chargedAmount
      unfold toSend at fee_val ⊢
      cases acts : trade.action with
      | buy =>
          simp only [acts, numbers.total] at fee_val
          have positive : fee.val ≠ 0 :=
            fun zero => free ((C.eq_zero_iff _).mpr zero)
          simp only [numbers.total, numbers.ppc, ← fee_val, if_neg positive]
      | sell =>
          simp only [acts, numbers.amount] at fee_val
          simp only [numbers.amount, ← fee_val]

end Trade

/-! ## The announced order -/

namespace Protocol

variable {Hex : Type}

/-- A node makes a trade of the line of an order and finds that it may match the
trade it opened, both being open by then. -/
def AnnouncementMatches
    (env : MarketEnv Hex)
    (context : TradeContext)
    (routeContext : RouteContext)
    (ntp : Nat)
    (line : Text)
    (ours : Trade) : Prop :=
  ∃ theirs, announcedTrade env context routeContext ntp line =
      .ok (some theirs) ∧
    ({ ours with status := .open } : Trade).matchable theirs = true

/-- The trade of an order's fields may match the trade a node opened. -/
def FieldsMatch
    (context : TradeContext)
    (fields : OpenOrderFields)
    (ours : Trade) : Prop :=
  ∃ theirs, theirTrade context fields = .ok (some theirs) ∧
    ({ ours with status := .open } : Trade).matchable theirs = true

instance
    (context : TradeContext)
    (fields : OpenOrderFields)
    (ours : Trade) :
    Decidable (FieldsMatch context fields ours) :=
  match read : theirTrade context fields with
  | .ok (some theirs) =>
      decidable_of_iff
        (({ ours with status := .open } : Trade).matchable theirs = true) <| by
          simp only [FieldsMatch, read, Except.ok.injEq,
            Option.some.injEq, exists_eq_left']
  | .ok none => .isFalse (by
      rintro ⟨theirs, found, _⟩
      cases read.symm.trans found)
  | .error _ => .isFalse (by
      rintro ⟨theirs, found, _⟩
      cases read.symm.trans found)

/-- The line of an order matches when it is readable and its fields match. -/
theorem announcementMatches_iff
    {env : MarketEnv Hex}
    {net : NetState}
    {fields : OpenOrderFields}
    {routes : Text}
    (posted : Posted env net fields routes)
    (context : TradeContext)
    (routeContext : RouteContext)
    (ours : Trade) :
    AnnouncementMatches env context routeContext fields.ntp
        (openOrderLine env fields routes) ours ↔
      (Readable routeContext fields.pair routes.tail fields.depositTxid
        fields.address ∧
          fields.amount.whole < 10 ^ 19 ∧ fields.ppc.whole < 10 ^ 19) ∧
        FieldsMatch context (fields.readBack routes.tail) ours := by
  unfold AnnouncementMatches FieldsMatch
  by_cases readable : Readable routeContext fields.pair routes.tail
      fields.depositTxid fields.address ∧
        fields.amount.whole < 10 ^ 19 ∧ fields.ppc.whole < 10 ^ 19
  · rw [announcedTrade_of_readable posted readable.1 readable.2.1
      readable.2.2]
    exact (and_iff_right readable).symm
  · rw [announcedTrade_of_unreadable posted readable]
    refine iff_of_false ?_ fun both => readable both.1
    rintro ⟨theirs, read, -⟩
    cases read

theorem readable_flip_iff
    {routeContext : RouteContext}
    {pair : CurrencyPair}
    {announced : Text}
    {depositTxid : Txid}
    {address : Address} :
    Readable routeContext pair.flip announced depositTxid address ↔
      Readable routeContext pair announced depositTxid address := by
  constructor <;> intro readable <;>
    exact ⟨readable.quote, readable.base, readable.routes, readable.kept,
      readable.depositTxid, readable.address⟩

/-- A node reads the trade the constructor makes. -/
theorem theirTrade_of_new
    {context : TradeContext}
    {fields : OpenOrderFields}
    {trade : Trade}
    (created : Trade.new context {
      action := fields.action
      amount := fields.amount
      pair := fields.pair
      ppc := fields.ppc
      status := .open } = .ok trade) :
    theirTrade context fields =
      .ok (some { trade with recvAddr := fields.address }) := by
  -- Unfolded in place the match would make the kernel run the constructor.
  generalize body : theirTrade = read
  delta theirTrade at body
  subst body
  beta_reduce
  rw [created]

/-- No trade is read where the constructor made an object without its
attributes. -/
theorem theirTrade_of_attributeError
    {context : TradeContext}
    {fields : OpenOrderFields}
    (failed : Trade.new context {
      action := fields.action
      amount := fields.amount
      pair := fields.pair
      ppc := fields.ppc
      status := .open } = .error .attributeError) :
    theirTrade context fields = .ok none := by
  generalize body : theirTrade = read
  delta theirTrade at body
  subst body
  beta_reduce
  rw [failed]

/-- Reading an announcement, when its total is in range. -/
theorem theirTrade_of_straight
    {context : TradeContext}
    {fields : OpenOrderFields}
    {total : C}
    (straight : ¬fields.pair.Flips)
    (product : fields.amount.mul fields.ppc = .ok total) :
    theirTrade context fields = .ok (some {
      action := fields.action
      pair := fields.pair
      amount := fields.amount
      ppc := fields.ppc
      total := total
      orderHash := ""
      sent := 0
      recv := 0
      remaining := fields.amount
      fees := 0
      destIp := ""
      recvAddr := fields.address
      status := .open
      flipped := false }) := by
  have analysed := @Trade.analyzeTrade_of_straight context {
    action := fields.action
    amount := fields.amount
    pair := fields.pair
    ppc := fields.ppc
    status := .open } total fields.amount straight product
      (remainingOf_untouched _ _)
  rw [← Trade.new_eq ⟨Or.inl rfl, Or.inl rfl⟩] at analysed
  rw [theirTrade_of_new analysed]
  simp only [Trade.analysedTrade, Trade.TradeArgs.analysedAction,
    if_neg straight, decide_eq_false straight]

/-- Without one there is no trade. -/
theorem theirTrade_of_overflow
    {context : TradeContext}
    {fields : OpenOrderFields}
    (overflow : wholeNoLimit <
      fields.amount.val * fields.ppc.val / decBase / decBase) :
    theirTrade context fields = .ok none := by
  apply theirTrade_of_attributeError
  rw [Trade.new_eq ⟨Or.inl rfl, Or.inl rfl⟩, Trade.analyzeTrade,
    C.mul_of_overflow overflow]
  rfl

/-- The pair in alphabetical order does not flip. -/
theorem straight_of_ordered
    {pair : CurrencyPair}
    (distinct : pair.base ≠ pair.quote) :
    ¬(if pair.Flips then pair.flip else pair).Flips := by
  apply CurrencyPair.not_flips_of_lt
  split
  next flips => exact CurrencyPair.lt_of_flips flips distinct
  next straight => exact CurrencyPair.lt_of_not_flips straight

/-- Open trades of one pair and with opposite actions match when the buyer pays
the seller's price, the amounts are the same and something remains of both. -/
theorem matchable_iff_of_opposite
    {self other : Trade}
    (action : Action)
    (openSelf : self.status = .open)
    (openOther : other.status = .open)
    (pair : self.pair = other.pair)
    (acts : self.action = action.toggle)
    (acts_too : other.action = action) :
    self.matchable other = true ↔
      other.amount.val = self.amount.val ∧
        (action = .sell → other.ppc.val ≤ self.ppc.val) ∧
        (action = .buy → self.ppc.val ≤ other.ppc.val) ∧
        self.remaining ≠ 0 ∧ other.remaining ≠ 0 := by
  have bothOpen : ¬(self.status ≠ .open ∨ other.status ≠ .open) := by
    rw [openSelf, openOther]
    decide
  have opposite : self.action ≠ other.action := by
    rw [acts, acts_too]
    cases action <;> decide
  have passes : ∀ (low uneven empty : Prop) [Decidable low] [Decidable uneven]
      [Decidable empty],
      (if low then false else if uneven then false
        else if empty then false else true) = true ↔
        ¬low ∧ ¬uneven ∧ ¬empty := by
    intro low uneven empty _ _ _
    split_ifs <;> simp_all
  cases action with
  | sell =>
      have roles : Trade.buySell self self other = (self, other) := by
        rw [Trade.buySell, Trade.actor, acts]
        rfl
      rw [Trade.matchable, roles]
      dsimp only
      rw [if_neg bothOpen, if_neg (not_not.mpr pair), if_neg opposite, passes,
        C.lt_iff, Nat.not_lt, not_not, C.eq_iff, not_or]
      constructor
      · rintro ⟨price, amounts, left, leftToo⟩
        exact ⟨amounts.symm, fun _ => price, nofun, left, leftToo⟩
      · rintro ⟨amounts, price, _, left, leftToo⟩
        exact ⟨price rfl, amounts.symm, left, leftToo⟩
  | buy =>
      have roles : Trade.buySell self self other = (other, self) := by
        rw [Trade.buySell, Trade.actor, acts]
        rfl
      rw [Trade.matchable, roles]
      dsimp only
      rw [if_neg bothOpen, if_neg (not_not.mpr pair), if_neg opposite, passes,
        C.lt_iff, Nat.not_lt, not_not, C.eq_iff, not_or]
      constructor
      · rintro ⟨price, amounts, left, leftToo⟩
        exact ⟨amounts, nofun, fun _ => price, left, leftToo⟩
      · rintro ⟨amounts, _, price, left, leftToo⟩
        exact ⟨price rfl, amounts, left, leftToo⟩

open Trade in
/-- Two complementary orders meet: the announced amount, less its fee and cut to
eight decimals, is the amount the other order is left with, and so for their
prices. -/
structure Meets
    (announcingPrec readingPrec : Nat)
    (action : Action)
    (pair : CurrencyPair)
    (amount ppc tradeFee : Nat) : Prop where
  amounts :
    cutUnits ((orderNumbers announcingPrec pair amount ppc).chargedAmount
        announcingPrec tradeFee (orderAction pair action)) =
      (orderNumbers readingPrec pair amount ppc).chargedAmount readingPrec
        tradeFee (orderAction pair action).toggle
  positive :
    (orderNumbers readingPrec pair amount ppc).chargedAmount readingPrec
      tradeFee (orderAction pair action).toggle ≠ 0
  price_sold : orderAction pair action = .sell →
    cutUnits (orderNumbers announcingPrec pair amount ppc).ppc ≤
      (orderNumbers readingPrec pair amount ppc).ppc
  price_bought : orderAction pair action = .buy →
    (orderNumbers readingPrec pair amount ppc).ppc ≤
      cutUnits (orderNumbers announcingPrec pair amount ppc).ppc
  in_range :
    cutUnits ((orderNumbers announcingPrec pair amount ppc).chargedAmount
        announcingPrec tradeFee (orderAction pair action)) *
      cutUnits (orderNumbers announcingPrec pair amount ppc).ppc / decBase /
        decBase ≤ wholeNoLimit

open Trade in
/-- Complementary orders meet, and what is announced fits into nineteen digits
before the point. -/
structure Complements
    (announcingPrec readingPrec : Nat)
    (action : Action)
    (pair : CurrencyPair)
    (amount ppc tradeFee : Nat) : Prop
    extends Meets announcingPrec readingPrec action pair amount ppc
      tradeFee where
  amount_short :
    cutUnits ((orderNumbers announcingPrec pair amount ppc).chargedAmount
        announcingPrec tradeFee (orderAction pair action)) / decBase < 10 ^ 19
  ppc_short :
    cutUnits (orderNumbers announcingPrec pair amount ppc).ppc / decBase <
      10 ^ 19

open Trade in
/-- The fields of an announced order match exactly when the orders meet. -/
theorem fieldsMatch_iff
    (announcing reading : TradeContext)
    (action : Action)
    (amount ppc tradeFee : C)
    (pair : CurrencyPair)
    (destIp otherIp : String)
    (announced ours : Trade)
    (fields : OpenOrderFields)
    (distinct : pair.base ≠ pair.quote)
    (opened : openTrade announcing
      { orderArgs action amount pair ppc with destIp := destIp } tradeFee =
        .ok announced)
    (openedToo : openTrade reading
      { orderArgs action.toggle amount pair ppc with destIp := otherIp }
        tradeFee = .ok ours)
    (fields_action : fields.action = announced.action)
    (fields_pair : fields.pair = announced.pair)
    (fields_amount : fields.amount = announced.amount.printed)
    (fields_ppc : fields.ppc = announced.ppc.printed) :
    FieldsMatch reading fields ours ↔
      Meets announcing.prec reading.prec action pair amount.val ppc.val
        tradeFee.val := by
  have theirs_opened := orderOpened_of_openTrade distinct rfl rfl opened
  have ours_opened := orderOpened_of_openTrade distinct rfl rfl openedToo
  have acts : announced.action = orderAction pair action := theirs_opened.action
  have acts_too : ours.action = (orderAction pair action).toggle := by
    rw [ours_opened.action]
    change (if pair.Flips then action.toggle.toggle else action.toggle) = _
    unfold orderAction
    split <;> rfl
  have same_pair : ours.pair = announced.pair :=
    ours_opened.pair.trans theirs_opened.pair.symm
  have straight : ¬announced.pair.Flips := by
    rw [theirs_opened.pair]
    exact straight_of_ordered distinct
  have amount_val := theirs_opened.amount
  have amount_val_too := ours_opened.amount
  have ppc_val := theirs_opened.ppc
  have ppc_val_too := ours_opened.ppc
  rw [acts] at amount_val
  rw [acts_too] at amount_val_too
  simp only [orderArgs] at amount_val amount_val_too ppc_val ppc_val_too
  by_cases in_range : ∃ total,
      announced.amount.printed.mul announced.ppc.printed = .ok total
  · obtain ⟨total, product⟩ := in_range
    have fits := (C.exists_mul_iff _ _).mp ⟨total, product⟩
    rw [val_printed_eq, val_printed_eq, amount_val, ppc_val] at fits
    have straight_fields : ¬fields.pair.Flips := fields_pair ▸ straight
    have product_fields : fields.amount.mul fields.ppc = .ok total := by
      rw [fields_amount, fields_ppc, product]
    unfold FieldsMatch
    rw [theirTrade_of_straight straight_fields product_fields]
    simp only [Except.ok.injEq, Option.some.injEq, exists_eq_left']
    refine Iff.trans (matchable_iff_of_opposite (orderAction pair action) ?_ ?_
      ?_ ?_ ?_) ?_
    · rfl
    · rfl
    · exact same_pair.trans fields_pair.symm
    · exact acts_too
    · exact fields_action.trans acts
    have remains : ours.remaining ≠ 0 ↔ ours.amount.val ≠ 0 := by
      rw [Ne, ours_opened.remaining, C.eq_zero_iff]
    have remains_too : announced.amount.printed ≠ 0 ↔
        announced.amount.printed.val ≠ 0 := by
      rw [Ne, C.eq_zero_iff]
    simp only [fields_amount, fields_ppc, remains, remains_too,
      val_printed_eq, amount_val, amount_val_too, ppc_val, ppc_val_too]
    constructor
    · rintro ⟨amounts, price_sold, price_bought, positive, _⟩
      exact ⟨amounts, positive, price_sold, price_bought, fits⟩
    · rintro ⟨amounts, positive, price_sold, price_bought, _⟩
      exact ⟨amounts, price_sold, price_bought, positive,
        amounts.symm ▸ positive⟩
  · have overflow : wholeNoLimit < announced.amount.printed.val *
        announced.ppc.printed.val / decBase / decBase := by
      rw [C.exists_mul_iff, Nat.not_le] at in_range
      exact in_range
    refine iff_of_false ?_ ?_
    · rintro ⟨theirs, read, _⟩
      rw [← fields_amount, ← fields_ppc] at overflow
      rw [theirTrade_of_overflow overflow] at read
      cases read
    · intro meets
      have fits := meets.in_range
      rw [← amount_val, ← ppc_val, ← val_printed_eq, ← val_printed_eq] at fits
      exact absurd fits (Nat.not_le_of_lt overflow)

open Trade in
/-- Complementary orders match exactly when the line of the announced one is
readable and they meet. -/
theorem complementary_match_iff
    (env : MarketEnv Hex)
    (announcing reading : TradeContext)
    (routeContext : RouteContext)
    (net : NetState)
    (routes : Text)
    (action : Action)
    (amount ppc tradeFee : C)
    (pair : CurrencyPair)
    (destIp otherIp : String)
    (announced ours : Trade)
    (answers : NewOrderAnswers)
    (parsed : List String)
    (address : Address)
    (ecdsa1 ecdsa2 : PubKey)
    (greenAddress : GreenAddress Hex)
    (distinct : pair.base ≠ pair.quote)
    (opened : openTrade announcing
      { orderArgs action amount pair ppc with destIp := destIp } tradeFee =
        .ok announced)
    (openedToo : openTrade reading
      { orderArgs action.toggle amount pair ppc with destIp := otherIp }
        tradeFee = .ok ours)
    (posted : Posted env net
      (orderFields answers parsed { announced with status := .open } address
        ecdsa1 ecdsa2 greenAddress) routes) :
    AnnouncementMatches env reading routeContext answers.ntp
        (openOrderLine env (orderFields answers parsed
          { announced with status := .open } address ecdsa1 ecdsa2
          greenAddress) routes) ours ↔
      Readable routeContext pair routes.tail greenAddress.depositTxid
          address ∧
        Complements announcing.prec reading.prec action pair amount.val ppc.val
          tradeFee.val := by
  have theirs_opened := orderOpened_of_openTrade distinct rfl rfl opened
  have amount_val := theirs_opened.amount
  have ppc_val := theirs_opened.ppc
  rw [show announced.action = orderAction pair action from
    theirs_opened.action] at amount_val
  simp only [orderArgs] at amount_val ppc_val
  have whole_eq (c : C) : c.printed.whole = cutUnits c.val / decBase := by
    rw [← val_printed_eq]
    exact c.printed.toFixedPoint.value_div.symm
  have printed_twice (c : C) : c.printed.printed = c.printed := by
    rw [C.eq_iff, C.val_printed, C.satoshi_printed, C.val_printed]
  have readable_iff : Readable routeContext announced.pair routes.tail
        greenAddress.depositTxid address ↔
      Readable routeContext pair routes.tail greenAddress.depositTxid
        address := by
    have pair_eq : announced.pair = if pair.Flips then pair.flip else pair :=
      theirs_opened.pair
    rw [pair_eq]
    by_cases flips : pair.Flips
    · rw [if_pos flips]
      exact readable_flip_iff
    · rw [if_neg flips]
  have matches_iff : FieldsMatch reading ((orderFields answers parsed
        { announced with status := .open } address ecdsa1 ecdsa2
        greenAddress).readBack routes.tail) ours ↔
      Meets announcing.prec reading.prec action pair amount.val ppc.val
        tradeFee.val := by
    apply fieldsMatch_iff announcing reading action amount ppc tradeFee pair
      destIp otherIp announced ours _ distinct opened openedToo
    · rfl
    · rfl
    · exact printed_twice announced.amount
    · exact printed_twice announced.ppc
  refine (announcementMatches_iff posted reading routeContext ours).trans ?_
  rw [matches_iff]
  have amount_whole : (orderFields answers parsed
      { announced with status := .open } address ecdsa1 ecdsa2
      greenAddress).amount.whole = cutUnits announced.amount.val / decBase :=
    whole_eq announced.amount
  have ppc_whole : (orderFields answers parsed
      { announced with status := .open } address ecdsa1 ecdsa2
      greenAddress).ppc.whole = cutUnits announced.ppc.val / decBase :=
    whole_eq announced.ppc
  rw [amount_whole, ppc_whole, amount_val, ppc_val]
  constructor
  · rintro ⟨⟨readable, amount_short, ppc_short⟩, meets⟩
    exact ⟨readable_iff.mp readable, meets, amount_short, ppc_short⟩
  · rintro ⟨readable, meets, amount_short, ppc_short⟩
    exact ⟨⟨readable_iff.mpr readable, amount_short, ppc_short⟩, meets⟩

instance
    (announcingPrec readingPrec : Nat)
    (action : Action)
    (pair : CurrencyPair)
    (amount ppc tradeFee : Nat) :
    Decidable (Meets announcingPrec readingPrec action pair amount ppc
      tradeFee) :=
  decidable_of_iff (_ ∧ _ ∧ _ ∧ _ ∧ _)
    ⟨fun ⟨amounts, positive, sold, bought, range⟩ =>
        ⟨amounts, positive, sold, bought, range⟩,
      fun ⟨amounts, positive, sold, bought, range⟩ =>
        ⟨amounts, positive, sold, bought, range⟩⟩

instance
    (announcingPrec readingPrec : Nat)
    (action : Action)
    (pair : CurrencyPair)
    (amount ppc tradeFee : Nat) :
    Decidable (Complements announcingPrec readingPrec action pair amount ppc
      tradeFee) :=
  decidable_of_iff (_ ∧ _ ∧ _)
    ⟨fun ⟨meets, amount_short, ppc_short⟩ => ⟨meets, amount_short, ppc_short⟩,
      fun ⟨meets, amount_short, ppc_short⟩ => ⟨meets, amount_short, ppc_short⟩⟩

end Protocol

namespace Sample

/-- What `open_trade` makes of an order at a fee of one percent. -/
def orderOpened (action : Action) (amount ppc : C) : Except PyError Trade :=
  Trade.openTrade bookContext
    { Trade.orderArgs action amount bitcoinLitecoin ppc with destIp := "" }
    tradeFee

/-- A signature of sixty-four bytes that depends on the key and the text. -/
def orderSig (key : PubKey) (text : String) : String :=
  String.ofList (Base64.encode
    ((textBytes (textSig key text) ++ List.replicate 64 0).take 64))

/-- A node whose first nonce always is a proof of work. -/
def marketEnv : MarketEnv CTransaction where
  toProtocolEnv := { protocolEnv with
    ecdsa := {
      load := some
      sign := orderSig
      validSignature := fun key sig text => sig = orderSig key text } }
  powIsValid := fun _ nonce => nonce = 1
  powCalculate := fun _ => 1
  openOrderText := fun fields => String.ofList (fields.msg [])
  matchOrderText := fun fields => String.ofList (fields.msg [] [] [])
  calculateMsgId := fun text => String.ofList (digest text.toList)

/-- The text of a public key. -/
def orderKey (name : String) : PubKey :=
  String.ofList (Base64.encode (textBytes name))

/-- The green address of an opened order. -/
def orderAddress (announced : Trade) : GreenAddress CTransaction where
  trade := announced
  ecdsa1 := orderKey "seller1"
  ecdsa2 := orderKey "seller2"
  ecdsaEncrypted := orderKey "encrypted"
  address := "sellerGreen"
  depositTxid := "sellerDeposit"
  depositTxHex := none
  inputs := []

/-- The fields of an opened order. -/
def announcement (announced : Trade) : OpenOrderFields :=
  Protocol.orderFields ⟨0, .ok []⟩ [] { announced with status := .open }
    "sellerAddress" (orderKey "seller1") (orderKey "seller2")
    (orderAddress announced)

/-- A reader that keeps addresses of every network. -/
def debugging : RouteContext :=
  { production with debug := true }

theorem publishedKey_orderKey
    {name : String}
    (some_byte : textBytes name ≠ [])
    (few : (textBytes name).length ≤ 65) :
    Protocol.PublishedKey marketEnv (orderKey name) :=
  ⟨rfl, _, some_byte, few, String.toList_ofList⟩

theorem signingKey_orderKey
    {name : String}
    (published : Protocol.PublishedKey marketEnv (orderKey name)) :
    Protocol.SigningKey marketEnv (orderKey name) := by
  refine ⟨published, fun text => ⟨_, ?_, String.toList_ofList⟩, fun text => ?_⟩
  · simp
  · simp only [marketEnv, decide_true]

/-- The posted order of a node that trades bitcoin for litecoin. -/
theorem announcement_posted
    {announced : Trade}
    (pair : announced.pair = bitcoinLitecoin) :
    Protocol.Posted marketEnv publicNet (announcement announced)
      publicRoute.text := by
  exact {
    work := ⟨fun _ => rfl, fun _ => (by decide : 1 < 2 ^ 64)⟩
    key1 := signingKey_orderKey
      (publishedKey_orderKey (by decide) (by decide))
    key2 := signingKey_orderKey
      (publishedKey_orderKey (by decide) (by decide))
    serverKey := publishedKey_orderKey (by decide) (by decide)
    net_plain := ⟨by decide, by simp [publicNet], by decide,
      by simp [publicNet], by simp [publicNet]⟩
    formats := rfl
    base_plain := by
      change ' ' ∉ announced.pair.base.toList
      rw [pair]
      decide
    quote_plain := by
      change ' ' ∉ announced.pair.quote.toList
      rw [pair]
      decide
    txid_plain := by
      change ' ' ∉ "sellerDeposit".toList
      decide
    address_plain := by
      change ' ' ∉ "sellerAddress".toList
      decide }

/-- The line of the node is readable. -/
theorem announcement_readable :
    Protocol.Readable debugging bitcoinLitecoin publicRoute.text.tail
      "sellerDeposit" "sellerAddress" :=
  ⟨by decide +kernel, by decide +kernel, by decide +kernel, by decide +kernel,
    by decide +kernel, by decide +kernel⟩

end Sample

namespace Protocol

/-- At a fee of one percent four coins at two each are sold to who buys
them. -/
theorem complementary_match_sample :
    ∃ announced ours,
      Sample.orderOpened .sell (C.coins 4) (C.coins 2) = .ok announced ∧
      Sample.orderOpened .buy (C.coins 4) (C.coins 2) = .ok ours ∧
      AnnouncementMatches Sample.marketEnv Sample.bookContext Sample.debugging 0
        (openOrderLine Sample.marketEnv (Sample.announcement announced)
          Sample.publicRoute.text) ours := by
  have opens : (Sample.orderOpened .sell (C.coins 4)
      (C.coins 2)).toOption.isSome := by
    decide +kernel
  have opens_too : (Sample.orderOpened .buy (C.coins 4)
      (C.coins 2)).toOption.isSome := by
    decide +kernel
  obtain ⟨announced, opened⟩ := Option.isSome_iff_exists.mp opens
  obtain ⟨ours, openedToo⟩ := Option.isSome_iff_exists.mp opens_too
  have sold := Except.ok_of_toOption opened
  have bought := Except.ok_of_toOption openedToo
  have meets : Complements 28 28 .sell Sample.bitcoinLitecoin
      (C.coins 4).val (C.coins 2).val Sample.tradeFee.val := by
    decide +kernel
  have pair : announced.pair = Sample.bitcoinLitecoin :=
    (Trade.orderOpened_of_openTrade (by decide) rfl rfl sold).pair
  exact ⟨announced, ours, sold, bought,
    (complementary_match_iff Sample.marketEnv Sample.bookContext
      Sample.bookContext Sample.debugging Sample.publicNet
      Sample.publicRoute.text .sell (C.coins 4) (C.coins 2) Sample.tradeFee
      Sample.bitcoinLitecoin "" "" announced ours ⟨0, .ok []⟩ []
      "sellerAddress" _ _ (Sample.orderAddress announced) (by decide) sold
      bought (Sample.announcement_posted pair)).mpr
        ⟨Sample.announcement_readable, meets⟩⟩

/-- At the same fee 1.0000001 coins at three each are not. -/
theorem uneven_order_unmatched :
    ∃ announced ours,
      Sample.orderOpened .sell (C.ofVal 10000001000000000 (by decide))
        (C.coins 3) = .ok announced ∧
      Sample.orderOpened .buy (C.ofVal 10000001000000000 (by decide))
        (C.coins 3) = .ok ours ∧
      ¬AnnouncementMatches Sample.marketEnv Sample.bookContext Sample.debugging
        0 (openOrderLine Sample.marketEnv (Sample.announcement announced)
          Sample.publicRoute.text) ours := by
  have unmatched : ((Sample.orderOpened .sell
      (C.ofVal 10000001000000000 (by decide)) (C.coins 3)).toOption.bind
        fun announced => (Sample.orderOpened .buy
          (C.ofVal 10000001000000000 (by decide)) (C.coins 3)).toOption.map
            fun ours => decide (FieldsMatch Sample.bookContext
              ((Sample.announcement announced).readBack
                Sample.publicRoute.text.tail) ours)) = some false := by
    decide +kernel
  obtain ⟨announced, opened, unmatched⟩ := Option.bind_eq_some_iff.mp unmatched
  obtain ⟨ours, openedToo, unmatched⟩ := Option.map_eq_some_iff.mp unmatched
  have sold := Except.ok_of_toOption opened
  have pair : announced.pair = Sample.bitcoinLitecoin :=
    (Trade.orderOpened_of_openTrade (by decide) rfl rfl sold).pair
  refine ⟨announced, ours, sold, Except.ok_of_toOption openedToo, ?_⟩
  intro announcement_matches
  exact of_decide_eq_false unmatched ((announcementMatches_iff
    (Sample.announcement_posted pair) _ _ _).mp announcement_matches).2

end Protocol
end Coinbend
