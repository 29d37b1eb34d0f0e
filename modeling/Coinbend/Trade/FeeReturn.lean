import Coinbend.Trade.Book

/-!
# Taking a fee and giving it back

`apply_fee` and `remove_fees` work on a trade in place, and `to_send` is an
attribute that only the analysis assigns.  A seller's amount is changed
directly.  A buyer's total is changed, its amount is the rounded quotient of
the total and the price, and its total is then the cut product of that amount,
so a fee is taken and given back exactly when these agree.
-/

namespace Coinbend

/-- A trade object with the attributes that `analyze_trade` assigns beside its
numbers. -/
structure TradeObject where
  trade : Trade
  toSend : C
  toRecv : C

namespace TradeObject

/-- Change the fields of the trade; its other attributes stay. -/
def modify (object : TradeObject) (change : Trade → Trade) : TradeObject :=
  { object with trade := change object.trade }

/-- `analyze_trade` in place.  It returns early when the product overflows. -/
def analyze (context : TradeContext) (object : TradeObject) :
    Outcome TradeObject PyError Unit :=
  if object.trade.totalOverflows then Outcome.pure object ()
  else
    Outcome.attempt object (Trade.analyzeTrade context object.trade.args)
      fun trade =>
        Outcome.pure { trade, toSend := trade.toSend, toRecv := trade.toRecv }
          ()

/-- Change what a trade sends; a buyer's amount follows its total. -/
def changeSend
    (context : TradeContext)
    (object : TradeObject)
    (toSend : C) : Outcome TradeObject PyError Unit :=
  match object.trade.action with
  | .buy =>
      let object := object.modify fun trade => { trade with total := toSend }
      Outcome.attempt object
        (Trade.divideDecimals context.prec toSend.asDecimal
          object.trade.ppc.asDecimal >>= C.ofDecimal) fun amount =>
        Outcome.pure (object.modify fun trade => { trade with amount }) ()
  | .sell =>
      Outcome.pure (object.modify fun trade => { trade with amount := toSend })
        ()

/-- How `apply_fee` and `remove_fees` end, with the new counter of fees. -/
def chargeSend
    (context : TradeContext)
    (object : TradeObject)
    (toSend : C)
    (fees : Except PyError C) : Outcome TradeObject PyError Unit :=
  (object.changeSend context toSend).bind fun object _ =>
  let object := object.modify Trade.clear
  Outcome.attempt object fees fun fees =>
  (object.modify fun trade => { trade with fees }).analyze context

/-- `apply_fee`. -/
def applyFee
    (context : TradeContext)
    (object : TradeObject)
    (fee : C) : Outcome TradeObject PyError Unit :=
  if fee = 0 then Outcome.pure object ()
  else if object.trade.toSend < fee then
    Outcome.raise object (.exception "Fee are too high.")
  else
    Outcome.attempt object (object.trade.toSend.sub fee) fun left =>
    object.chargeSend context left (object.trade.fees.add fee)

/-- `apply_trade_fee` with its default flags; it returns the fee. -/
def applyTradeFee
    (context : TradeContext)
    (object : TradeObject)
    (tradeFee : C) : Outcome TradeObject PyError C :=
  Outcome.attempt object (object.trade.toSend.mul tradeFee) fun fee =>
  (object.applyFee context fee).bind fun object _ => Outcome.pure object fee

/-- `remove_fees` without an argument. -/
def removeFees
    (context : TradeContext)
    (object : TradeObject) : Outcome TradeObject PyError Unit :=
  if object.trade.fees = 0 then Outcome.pure object ()
  else
    Outcome.attempt object (object.trade.toSend.add object.trade.fees)
      fun whole =>
    object.chargeSend context whole (object.trade.fees.sub object.trade.fees)

/-! ## One change -/

/-- The amount of a trade that sends something else. -/
def amountFor
    (context : TradeContext)
    (trade : Trade)
    (toSend : C) : Except PyError C :=
  match trade.action with
  | .buy =>
      Trade.divideDecimals context.prec toSend.asDecimal trade.ppc.asDecimal
        >>= C.ofDecimal
  | .sell => .ok toSend

/-- An analysed object shows what its trade sends and receives. -/
structure Shown (object : TradeObject) : Prop where
  settled : object.trade.Settled
  toSend : object.toSend = object.trade.toSend
  toRecv : object.toRecv = object.trade.toRecv

/-- A trade with new numbers of which nothing has been moved. -/
def renewed (trade : Trade) (amount total fees : C) : Trade :=
  { trade with
    amount, total, fees
    sent := 0
    recv := 0
    remaining := amount
    flipped := false }

variable {context : TradeContext} {object : TradeObject} {toSend : C}
  {fees : Except PyError C}

/-- The trade while its numbers are being changed. -/
def changing (trade : Trade) (toSend amount fees : C) : Trade :=
  { trade with
    amount, fees
    sent := 0
    recv := 0
    total :=
      match trade.action with
      | .buy => toSend
      | .sell => trade.total }

/-- Without an amount for it the change raises. -/
theorem chargeSend_of_error
    {error : PyError}
    (failed : amountFor context object.trade toSend = .error error) :
    (object.chargeSend context toSend fees).result = .error error := by
  unfold amountFor at failed
  unfold chargeSend changeSend
  cases acts : object.trade.action with
  | buy =>
      simp only [acts] at failed
      simp only [modify, failed]
      rfl
  | sell =>
      simp only [acts] at failed
      cases failed

theorem changeSend_of_found
    {amount : C}
    (found : amountFor context object.trade toSend = .ok amount) :
    object.changeSend context toSend =
      Outcome.pure (object.modify fun trade =>
        match trade.action with
        | .buy => { trade with total := toSend, amount }
        | .sell => { trade with amount }) () := by
  unfold amountFor at found
  unfold changeSend
  cases acts : object.trade.action with
  | buy =>
      simp only [acts] at found
      simp only [modify, found, acts, Outcome.attempt_ok]
  | sell =>
      simp only [acts, Except.ok.injEq] at found
      simp only [modify, found, acts]

/-- With one the trade is analysed again. -/
theorem chargeSend_of_found
    {amount newFees : C}
    (found : amountFor context object.trade toSend = .ok amount)
    (counted : fees = .ok newFees) :
    object.chargeSend context toSend fees =
      (object.modify fun trade => changing trade toSend amount newFees).analyze
        context := by
  rw [chargeSend, changeSend_of_found found, Outcome.bind_of_ok rfl,
    Outcome.pure_state, counted, Outcome.attempt_ok]
  refine congrArg (analyze context) ?_
  simp only [modify, changing]
  cases object.trade.action <;> rfl

/-- A change to numbers in range gives the trade with them. -/
theorem chargeSend_of_product
    {amount total newFees : C}
    (straight : ¬object.trade.pair.Flips)
    (found : amountFor context object.trade toSend = .ok amount)
    (product : amount.mul object.trade.ppc = .ok total)
    (counted : fees = .ok newFees) :
    object.chargeSend context toSend fees =
      Outcome.pure
        { trade := renewed object.trade amount total newFees
          toSend := (renewed object.trade amount total newFees).toSend
          toRecv := (renewed object.trade amount total newFees).toRecv }
        () := by
  have in_range : (changing object.trade toSend amount newFees).totalOverflows =
      false := by
    change (decide ((amount.mul object.trade.ppc).isOk = false) : Bool) = false
    rw [product]
    rfl
  have analysed : Trade.analyzeTrade context
      (changing object.trade toSend amount newFees).args =
        .ok (renewed object.trade amount total newFees) := by
    rw [@Trade.analyzeTrade_of_straight context
      (changing object.trade toSend amount newFees).args total amount straight
      product (remainingOf_untouched _ _)]
    have straight_args : ¬(changing object.trade toSend amount
        newFees).args.pair.Flips := straight
    simp only [Trade.analysedTrade, Trade.TradeArgs.analysedAction,
      if_neg straight_args, decide_eq_false straight_args]
    rfl
  rw [chargeSend_of_found found counted, analyze, modify]
  simp only [in_range, analysed, if_neg Bool.false_ne_true]
  rfl

/-- A change to a total out of range leaves what the object shows. -/
theorem chargeSend_of_overflow
    {amount newFees : C}
    (found : amountFor context object.trade toSend = .ok amount)
    (overflow : ¬∃ total, amount.mul object.trade.ppc = .ok total)
    (counted : fees = .ok newFees) :
    object.chargeSend context toSend fees =
      Outcome.pure
        (object.modify fun trade => changing trade toSend amount newFees)
        () := by
  have overflows : (changing object.trade toSend amount newFees).totalOverflows =
      true := by
    change (decide ((amount.mul object.trade.ppc).isOk = false) : Bool) = true
    cases product : amount.mul object.trade.ppc with
    | error error => rfl
    | ok total => exact absurd ⟨total, product⟩ overflow
  rw [chargeSend_of_found found counted, analyze, modify]
  simp only [overflows, if_true]

/-- An operation in place leaves the trade another one returns, or raises what
it raises. -/
def Agrees
    (outcome : Outcome TradeObject PyError Unit)
    (value : Except PyError Trade) : Prop :=
  outcome.result.map (fun _ => outcome.state.trade) = value

theorem analyze_agrees (context : TradeContext) (object : TradeObject) :
    Agrees (object.analyze context) (object.trade.reanalyze context) := by
  unfold analyze Trade.reanalyze
  split
  · rfl
  · cases Trade.analyzeTrade context object.trade.args <;> rfl

theorem withToSend_eq
    (context : TradeContext)
    (trade : Trade)
    (toSend : C) :
    trade.withToSend context toSend =
      amountFor context trade toSend >>= fun amount =>
        .ok { trade with
          amount
          total :=
            match trade.action with
            | .buy => toSend
            | .sell => trade.total } := by
  unfold Trade.withToSend amountFor
  obtain ⟨action⟩ := trade
  cases action <;> rfl

/-- A change in place is the one of `apply_fee` and `remove_fees` on values. -/
theorem chargeSend_agrees
    (context : TradeContext)
    (object : TradeObject)
    (toSend : C)
    (count : C → Except PyError C) :
    Agrees (object.chargeSend context toSend (count object.trade.fees)) (do
      let trade ← object.trade.withToSend context toSend
      let fees ← count trade.fees
      ({ trade with sent := 0, recv := 0, fees } : Trade).reanalyze context) := by
  rw [withToSend_eq]
  cases found : amountFor context object.trade toSend with
  | error error =>
      rw [Agrees, chargeSend_of_error found, Except.error_bind,
        Except.error_bind]
      rfl
  | ok amount =>
      rw [Except.ok_bind, Except.ok_bind]
      change Agrees _ (count object.trade.fees >>= fun fees =>
        (changing object.trade toSend amount fees).reanalyze context)
      cases count object.trade.fees with
      | error error =>
          rw [Agrees, chargeSend, changeSend_of_found found,
            Outcome.bind_of_ok rfl, Outcome.pure_state, Outcome.attempt_error,
            Except.error_bind]
          rfl
      | ok fees =>
          rw [chargeSend_of_found found rfl, Except.ok_bind]
          exact analyze_agrees context
            (object.modify fun trade => changing trade toSend amount fees)

/-- `apply_fee` in place is `apply_fee` on values. -/
theorem applyFee_agrees
    (context : TradeContext)
    (object : TradeObject)
    (fee : C) :
    Agrees (object.applyFee context fee) (object.trade.applyFee context fee) := by
  unfold applyFee Trade.applyFee
  by_cases free : fee = 0
  · rw [if_pos free, if_pos free]
    rfl
  rw [if_neg free, if_neg free]
  by_cases high : object.trade.toSend < fee
  · rw [if_pos high, Except.raiseIf, if_pos high]
    rfl
  · rw [if_neg high, Except.raiseIf_bind high]
    cases object.trade.toSend.sub fee with
    | error error => rfl
    | ok left =>
        exact chargeSend_agrees context object left fun fees => fees.add fee

/-- A change that returned found an amount and counted the fees. -/
theorem chargeSend_ok
    (returned : (object.chargeSend context toSend fees).result = .ok ()) :
    ∃ amount newFees, amountFor context object.trade toSend = .ok amount ∧
      fees = .ok newFees := by
  cases found : amountFor context object.trade toSend with
  | error error =>
      rw [chargeSend_of_error found] at returned
      cases returned
  | ok amount =>
      cases counted : fees with
      | error error =>
          rw [chargeSend, changeSend_of_found found, Outcome.bind_of_ok rfl,
            Outcome.pure_state, counted] at returned
          cases returned
      | ok newFees => exact ⟨amount, newFees, rfl, rfl⟩

/-- After a change that returned the trade has the amount that was found. -/
theorem chargeSend_amount
    {amount newFees : C}
    (straight : ¬object.trade.pair.Flips)
    (found : amountFor context object.trade toSend = .ok amount)
    (counted : fees = .ok newFees) :
    (object.chargeSend context toSend fees).state.trade.amount = amount := by
  by_cases product : ∃ total, amount.mul object.trade.ppc = .ok total
  · obtain ⟨total, product⟩ := product
    rw [chargeSend_of_product straight found product counted]
    rfl
  · rw [chargeSend_of_overflow found product counted]
    rfl

/-- The amount for what a trade sends, in units. -/
theorem amountFor_val
    {trade : Trade}
    {amount : C}
    (found : amountFor context trade toSend = .ok amount) :
    amount.val =
      match trade.action with
      | .buy => quotientUnits context.prec toSend.val trade.ppc.val
      | .sell => toSend.val := by
  unfold amountFor at found
  cases acts : trade.action with
  | buy =>
      simp only [acts] at found ⊢
      exact val_of_quotient found
  | sell =>
      simp only [acts, Except.ok.injEq] at found ⊢
      rw [found]

/-! ## Giving back -/

/-- The numbers of a trade are as they were. -/
structure Restores (object after : TradeObject) : Prop where
  amount : after.trade.amount = object.trade.amount
  total : after.trade.total = object.trade.total
  ppc : after.trade.ppc = object.trade.ppc
  toSend : after.toSend = object.toSend

/-- What a trade sends leads back to its amount. -/
def LeadsBack (prec : Nat) (trade : Trade) (whole : Nat) : Prop :=
  match trade.action with
  | .buy =>
      trade.ppc.satoshi ≠ 0 ∧ whole / decBase ≤ wholeNoLimit ∧
        quotientUnits prec whole trade.ppc.val = trade.amount.val
  | .sell => whole = trade.amount.val

theorem amountFor_of_leadsBack
    {trade : Trade}
    (back : LeadsBack context.prec trade toSend.val) :
    amountFor context trade toSend = .ok trade.amount := by
  unfold LeadsBack at back
  unfold amountFor
  cases acts : trade.action with
  | buy =>
      simp only [acts] at back ⊢
      obtain ⟨nonzero, _, same⟩ := back
      rcases quotient_cases context.prec toSend trade.ppc with
        ⟨zero, _⟩ | ⟨_, overflow, _⟩ | ⟨_, amount, found, value⟩
      · exact absurd zero nonzero
      · rw [same] at overflow
        exact absurd ((C.exists_val_iff _).mp ⟨trade.amount, rfl⟩)
          (Nat.not_le_of_lt overflow)
      · rw [found, Except.ok.injEq, C.eq_iff, value, same]
  | sell =>
      simp only [acts] at back ⊢
      rw [Except.ok.injEq, C.eq_iff]
      exact back

theorem leadsBack_of_amountFor
    {trade : Trade}
    (found : amountFor context trade toSend = .ok trade.amount) :
    LeadsBack context.prec trade toSend.val := by
  have value := amountFor_val found
  unfold amountFor at found
  unfold LeadsBack
  cases acts : trade.action with
  | buy =>
      simp only [acts] at found value ⊢
      refine ⟨?_, (C.exists_val_iff _).mp ⟨toSend, rfl⟩, value.symm⟩
      intro zero
      rcases quotient_cases context.prec toSend trade.ppc with
        ⟨_, _, _, raised⟩ | ⟨nonzero, _⟩ | ⟨nonzero, _⟩
      · rw [raised] at found
        cases found
      · exact nonzero zero
      · exact nonzero zero
  | sell =>
      simp only [acts] at value ⊢
      exact value.symm

/-- Whatever was done to the fees of a trade, removing them restores it exactly
when what it then sends leads back to its amount. -/
theorem removeFees_restores_iff
    {current : TradeObject}
    (shown : object.Shown)
    (same_action : current.trade.action = object.trade.action)
    (same_pair : current.trade.pair = object.trade.pair)
    (same_ppc : current.trade.ppc = object.trade.ppc)
    (charged : current.trade.fees ≠ 0) :
    (current.removeFees context).result = .ok () ∧
        Restores object (current.removeFees context).state ↔
      LeadsBack context.prec object.trade
        (current.trade.toSend.val + current.trade.fees.val) := by
  have straight : ¬current.trade.pair.Flips := by
    rw [same_pair]
    exact shown.settled.straight
  have same_amountFor (whole : C) :
      amountFor context current.trade whole =
        amountFor context object.trade whole := by
    unfold amountFor
    rw [same_action, same_ppc]
  obtain ⟨none, cleared, _⟩ :=
    @C.sub_of_le current.trade.fees current.trade.fees le_rfl
  unfold removeFees
  rw [if_neg charged]
  constructor
  · rintro ⟨returned, restores⟩
    cases sum : current.trade.toSend.add current.trade.fees with
    | error error =>
        rw [sum] at returned
        cases returned
    | ok whole =>
        rw [sum, Outcome.attempt_ok] at returned restores
        obtain ⟨amount, newFees, found, counted⟩ := chargeSend_ok returned
        have kept := restores.amount
        rw [chargeSend_amount straight found counted] at kept
        rw [kept, same_amountFor] at found
        rw [← C.val_add sum]
        exact leadsBack_of_amountFor found
  · intro back
    obtain ⟨whole, whole_val⟩ : ∃ whole : C, whole.val =
        current.trade.toSend.val + current.trade.fees.val := by
      unfold LeadsBack at back
      cases acts : object.trade.action with
      | buy =>
          simp only [acts] at back
          exact (C.exists_val_iff _).mpr back.2.1
      | sell =>
          simp only [acts] at back
          exact ⟨object.trade.amount, back.symm⟩
    rw [← whole_val] at back
    have found := amountFor_of_leadsBack back
    rw [← same_amountFor] at found
    have product := shown.settled.total
    rw [← same_ppc] at product
    rw [(C.add_eq_ok_iff _ _ _).mpr whole_val, Outcome.attempt_ok,
      chargeSend_of_product straight found product cleared]
    refine ⟨rfl, rfl, rfl, same_ppc, ?_⟩
    rw [shown.toSend]
    change (renewed current.trade object.trade.amount object.trade.total
      none).toSend = _
    unfold Trade.toSend renewed
    rw [same_action]

/-! ## Taking -/

/-- A fee is taken from what a trade sends, and counted. -/
structure Takes (object after : TradeObject) (fee : C) : Prop where
  toSend : after.toSend.add fee = .ok object.toSend
  fees : object.trade.fees.add fee = .ok after.trade.fees

/-- The total of the amount for what is left of a total is what is left. -/
def LeavesExactly (prec : Nat) (trade : Trade) (left : Nat) : Prop :=
  match trade.action with
  | .buy =>
      quotientUnits prec left trade.ppc.val * trade.ppc.val / decBase = left
  | .sell => True

/-- What is left for a trade that is charged. -/
structure Charged
    (context : TradeContext)
    (object : TradeObject)
    (fee : C)
    (after : TradeObject) : Prop where
  action : after.trade.action = object.trade.action
  pair : after.trade.pair = object.trade.pair
  ppc : after.trade.ppc = object.trade.ppc
  fees : object.trade.fees.add fee = .ok after.trade.fees
  takes_iff : after.toSend.add fee = .ok object.toSend ↔
    LeavesExactly context.prec object.trade
      (object.trade.toSend.val - fee.val)
  toSend : after.toSend.add fee = .ok object.toSend →
    after.trade.toSend = after.toSend

/-- A positive fee that was applied charges the trade. -/
theorem charged_of_applyFee
    {fee : C}
    (shown : object.Shown)
    (positive : fee ≠ 0)
    (returned : (object.applyFee context fee).result = .ok ()) :
    Charged context object fee (object.applyFee context fee).state := by
  have straight := shown.settled.straight
  have fee_pos : fee.val ≠ 0 := fun zero => positive ((C.eq_zero_iff _).mpr zero)
  unfold applyFee at returned ⊢
  rw [if_neg positive] at returned ⊢
  by_cases high : object.trade.toSend < fee
  · rw [if_pos high] at returned
    cases returned
  rw [if_neg high] at returned ⊢
  rw [C.lt_iff, Nat.not_lt] at high
  obtain ⟨left, difference, left_val⟩ := C.sub_of_le high
  rw [difference, Outcome.attempt_ok] at returned ⊢
  obtain ⟨amount, newFees, found, counted⟩ := chargeSend_ok returned
  have amount_val := amountFor_val found
  by_cases product : ∃ total, amount.mul object.trade.ppc = .ok total
  · obtain ⟨total, product⟩ := product
    rw [chargeSend_of_product straight found product counted]
    refine ⟨rfl, rfl, rfl, counted, ?_, fun _ => rfl⟩
    rw [C.add_eq_ok_iff, shown.toSend]
    unfold LeavesExactly
    have total_val := C.val_mul product
    rw [amount_val] at total_val
    change object.trade.toSend.val =
      (renewed object.trade amount total newFees).toSend.val + _ ↔ _
    cases acts : object.trade.action with
    | buy =>
        simp only [acts] at total_val ⊢
        have sends : (renewed object.trade amount total newFees).toSend =
            total := by
          unfold Trade.toSend renewed
          rw [acts]
        rw [sends, total_val, ← left_val]
        omega
    | sell =>
        simp only [acts] at amount_val
        have sends : (renewed object.trade amount total newFees).toSend =
            amount := by
          unfold Trade.toSend renewed
          rw [acts]
        rw [sends, amount_val, left_val]
        simp only [iff_true]
        omega
  · rw [chargeSend_of_overflow found product counted]
    have stale : ¬object.toSend.add fee = .ok object.toSend := by
      rw [C.add_eq_ok_iff]
      omega
    refine ⟨rfl, rfl, rfl, counted, ?_, fun takes => absurd takes stale⟩
    refine iff_of_false stale fun exact_ => product ?_
    rw [C.exists_mul_iff, amount_val]
    unfold LeavesExactly at exact_
    cases acts : object.trade.action with
    | buy =>
        simp only [acts] at exact_ ⊢
        rw [left_val, exact_, ← left_val]
        exact (C.exists_val_iff _).mp ⟨left, rfl⟩
    | sell =>
        simp only [acts] at amount_val ⊢
        have total := shown.settled.total
        have sends : object.trade.toSend = object.trade.amount := by
          rw [Trade.toSend, acts]
        refine le_trans (Nat.div_le_div_right (Nat.div_le_div_right
          (Nat.mul_le_mul_right _ ?_)))
          ((C.exists_mul_iff _ _).mp ⟨_, total⟩)
        rw [left_val, sends]
        exact Nat.sub_le _ _

/-- Taking the fee leaves exactly the rest, and all fees together lead back to
the amount. -/
def FeeFits (charging freeing : Nat) (trade : Trade) (tradeFee : C) : Prop :=
  let fee := trade.toSend.val * tradeFee.val / decBase
  (fee = 0 ∨ LeavesExactly charging trade (trade.toSend.val - fee)) ∧
    (fee = 0 ∧ trade.fees = 0 ∨
      LeadsBack freeing trade (trade.toSend.val + trade.fees.val))

/-- The fee is taken, and `remove_fees` restores the trade. -/
structure FeeReturns
    (freeing : TradeContext)
    (object after : TradeObject)
    (fee : C) : Prop where
  takes : Takes object after fee
  removed : (after.removeFees freeing).result = .ok ()
  restores : Restores object (after.removeFees freeing).state

/-- What was applied is the fee of what the trade sends. -/
theorem applyTradeFee_ok
    {tradeFee fee : C}
    (returned : (object.applyTradeFee context tradeFee).result = .ok fee) :
    object.trade.toSend.mul tradeFee = .ok fee ∧
      (object.applyFee context fee).result = .ok () ∧
      (object.applyTradeFee context tradeFee).state =
        (object.applyFee context fee).state := by
  unfold applyTradeFee at returned ⊢
  cases product : object.trade.toSend.mul tradeFee with
  | error error =>
      rw [product] at returned
      cases returned
  | ok found =>
      rw [product, Outcome.attempt_ok] at returned
      cases applied : (object.applyFee context found).result with
      | error error =>
          rw [Outcome.bind, applied] at returned
          cases returned
      | ok _ =>
          rw [Outcome.bind_of_ok applied, Outcome.pure_result,
            Except.ok.injEq] at returned
          rw [← returned, Outcome.attempt_ok, Outcome.bind_of_ok applied]
          exact ⟨rfl, applied, rfl⟩

/-- A fee that is too high is refused. -/
theorem applyTradeFee_of_high
    {tradeFee fee : C}
    (product : object.trade.toSend.mul tradeFee = .ok fee)
    (high : object.trade.toSend < fee) :
    object.applyTradeFee context tradeFee =
      Outcome.raise object (.exception "Fee are too high.") := by
  have positive : fee ≠ 0 := by
    rintro rfl
    rw [C.lt_iff, C.val_zero] at high
    exact absurd high (Nat.not_lt_zero _)
  rw [applyTradeFee, product, Outcome.attempt_ok, applyFee, if_neg positive,
    if_pos high]
  rfl

/-- A fee can be taken and given back exactly when it fits, and a fee that is
too high leaves the trade as it was. -/
theorem feeReturns_iff
    (charging freeing : TradeContext)
    {object : TradeObject}
    (shown : object.Shown)
    (tradeFee : C) :
    (∀ fee, (object.applyTradeFee charging tradeFee).result = .ok fee →
        (FeeReturns freeing object
            (object.applyTradeFee charging tradeFee).state fee ↔
          FeeFits charging.prec freeing.prec object.trade tradeFee)) ∧
      ∀ fee, object.trade.toSend.mul tradeFee = .ok fee →
        object.trade.toSend < fee →
        (object.applyTradeFee charging tradeFee).result =
            .error (.exception "Fee are too high.") ∧
          (object.applyTradeFee charging tradeFee).state = object := by
  constructor
  · intro fee returned
    obtain ⟨product, applied, state⟩ := applyTradeFee_ok returned
    rw [state]
    unfold FeeFits
    simp only [← C.val_mul product]
    by_cases free : fee = 0
    · have untouched : (object.applyFee charging fee).state = object := by
        rw [applyFee, if_pos free]
        rfl
      have takes : Takes object object fee := by
        rw [free]
        exact ⟨C.add_zero _, C.add_zero _⟩
      have none : fee.val = 0 := (C.eq_zero_iff _).mp free
      rw [untouched]
      simp only [none, true_or, true_and]
      by_cases fresh : object.trade.fees = 0
      · have removed : object.removeFees freeing = Outcome.pure object () := by
          rw [removeFees, if_pos fresh]
        refine iff_of_true ⟨takes, ?_, ?_⟩ (Or.inl fresh)
        · rw [removed]
          rfl
        · rw [removed]
          exact ⟨rfl, rfl, rfl, rfl⟩
      · rw [or_iff_right fresh, ← removeFees_restores_iff shown rfl rfl rfl fresh]
        exact ⟨fun returns => ⟨returns.removed, returns.restores⟩,
          fun both => ⟨takes, both.1, both.2⟩⟩
    · have charged := charged_of_applyFee shown free applied
      have positive : fee.val ≠ 0 :=
        fun zero => free ((C.eq_zero_iff _).mpr zero)
      have fees_val := C.val_add charged.fees
      have charged_fees : (object.applyFee charging fee).state.trade.fees ≠ 0 := by
        rw [Ne, C.eq_zero_iff]
        omega
      have back := @removeFees_restores_iff freeing object
        (object.applyFee charging fee).state shown charged.action charged.pair
        charged.ppc charged_fees
      simp only [positive, false_or, false_and]
      rw [← charged.takes_iff]
      have whole (taken : (object.applyFee charging fee).state.toSend.add fee =
          .ok object.toSend) :
          (object.applyFee charging fee).state.trade.toSend.val +
              (object.applyFee charging fee).state.trade.fees.val =
            object.trade.toSend.val + object.trade.fees.val := by
        have taken_val := C.val_add taken
        rw [shown.toSend] at taken_val
        rw [charged.toSend taken]
        omega
      constructor
      · intro returns
        have taken := returns.takes.toSend
        refine ⟨taken, ?_⟩
        rw [← whole taken, ← back]
        exact ⟨returns.removed, returns.restores⟩
      · rintro ⟨taken, leads⟩
        rw [← whole taken, ← back] at leads
        exact ⟨⟨taken, charged.fees⟩, leads.1, leads.2⟩
  · intro fee product high
    rw [applyTradeFee_of_high product high]
    exact ⟨rfl, rfl⟩

end TradeObject

namespace Sample

/-- A trade object as the constructor leaves it. -/
def shownTrade (trade : Trade) : TradeObject where
  trade := trade
  toSend := trade.toSend
  toRecv := trade.toRecv

/-- A seller of three coins. -/
def chargedSeller : TradeObject :=
  shownTrade (openTrade .sell (C.coins 3) (C.coins 2) (C.coins 6))

/-- A buyer of 0.50000001 coins at 0.12345678. -/
def chargedBuyer : TradeObject :=
  shownTrade (openTrade .buy (C.ofVal 5000000100000000 (by decide))
    (C.ofVal 1234567800000000 C.deposit_bounded)
    (C.ofVal 617283912345678 (by decide)))

/-- A fee of one percent. -/
def tradeFee : C :=
  C.ofVal 100000000000000 C.onePercent_bounded

theorem chargedSeller_shown : chargedSeller.Shown where
  settled := {
    ordered := by decide +kernel
    total := by decide +kernel
    remaining := by decide +kernel }
  toSend := rfl
  toRecv := rfl

end Sample

/-- The buyer does not get its amount back. -/
theorem chargedBuyer_short :
    ((Sample.chargedBuyer.applyTradeFee Sample.bookContext
        Sample.tradeFee).result.toOption.map C.val) = some 6172839123456 ∧
      ((Sample.chargedBuyer.applyTradeFee Sample.bookContext
        Sample.tradeFee).state.removeFees
          Sample.bookContext).state.trade.amount.val = 4999999189999934 ∧
      ¬∀ fee, (Sample.chargedBuyer.applyTradeFee Sample.bookContext
            Sample.tradeFee).result = .ok fee →
          TradeObject.FeeReturns Sample.bookContext Sample.chargedBuyer
            (Sample.chargedBuyer.applyTradeFee Sample.bookContext
              Sample.tradeFee).state fee := by
  have freed : ((Sample.chargedBuyer.applyTradeFee Sample.bookContext
      Sample.tradeFee).state.removeFees
        Sample.bookContext).state.trade.amount.val = 4999999189999934 := by
    decide +kernel
  have fee_val : ((Sample.chargedBuyer.applyTradeFee Sample.bookContext
      Sample.tradeFee).result.toOption.map C.val) = some 6172839123456 := by
    decide +kernel
  refine ⟨fee_val, freed, fun always => ?_⟩
  cases applied : (Sample.chargedBuyer.applyTradeFee Sample.bookContext
      Sample.tradeFee).result with
  | error error =>
      rw [applied] at fee_val
      cases fee_val
  | ok fee =>
      have kept := congrArg C.val (always fee applied).restores.amount
      rw [freed] at kept
      revert kept
      decide

/-- The seller gets its amount back. -/
theorem chargedSeller_returns :
    TradeObject.FeeReturns Sample.bookContext Sample.chargedSeller
      (Sample.chargedSeller.applyTradeFee Sample.bookContext
        Sample.tradeFee).state (C.ofVal 300000000000000 (by decide)) := by
  have applied : (Sample.chargedSeller.applyTradeFee Sample.bookContext
      Sample.tradeFee).result =
        .ok (C.ofVal 300000000000000 (by decide)) := by
    decide +kernel
  exact ((TradeObject.feeReturns_iff Sample.bookContext Sample.bookContext
    Sample.chargedSeller_shown Sample.tradeFee).1 _ applied).mpr
    ⟨Or.inr trivial, Or.inr rfl⟩

end Coinbend
