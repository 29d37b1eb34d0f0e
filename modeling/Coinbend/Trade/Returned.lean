import Coinbend.Trade.Book
import Coinbend.Trade.Canonical

/-!
# The trade a match returns

`self / other` returns what moved as a trade of its own.  It is worked out at
the price of `self` and only then given the price of the seller, so the total
of a buyer's trade is too high wherever the prices differ.
-/

namespace Coinbend
namespace Trade

/-- The arguments of the trade that leads from `other` to `self`. -/
def movedArgs (self : Trade) (amount : C) : TradeArgs where
  action := self.action
  amount := amount
  pair := self.pair
  ppc := self.ppc
  orderHash := self.orderHash

/-- The difference of two trades of one action is what was filled between
them. -/
theorem difference_eq
    (context : TradeContext)
    {self other : Trade}
    (same : other.action = self.action) :
    self.difference context other =
      self.filled.sub other.filled >>= fun amount =>
        analyzeTrade context (self.movedArgs amount) := by
  have valid (amount : C) : AddressesValid context (self.movedArgs amount) :=
    ⟨Or.inl rfl, Or.inl rfl⟩
  have constructs (amount : C) :
      analyzeTrade context (self.movedArgs amount) =
        new context (self.movedArgs amount) :=
    (new_eq (valid amount)).symm
  simp only [constructs]
  unfold difference filled movedArgs
  rw [same]
  cases self.action <;> rfl

/-- What the arguments make of an amount that moved. -/
theorem analyzeTrade_movedArgs
    (context : TradeContext)
    {self : Trade}
    {amount total : C}
    (straight : ¬self.pair.Flips)
    (product : amount.mul self.ppc = .ok total) :
    ∃ moved, analyzeTrade context (self.movedArgs amount) = .ok moved ∧
      moved.action = self.action ∧ moved.pair = self.pair ∧
      moved.amount = amount ∧ moved.total = total := by
  obtain ⟨remaining, left⟩ := remainingOf_zero self.action amount
  have args_straight : ¬(self.movedArgs amount).pair.Flips := straight
  refine ⟨_, @analyzeTrade_of_straight context (self.movedArgs amount) total
    remaining args_straight product left, ?_, ?_, rfl, rfl⟩
  · exact if_neg straight
  · exact if_neg straight

/-- The trade that leads from a sound trade to what a match made of it. -/
theorem FilledBy.difference
    (context : TradeContext)
    {before after old : Trade}
    {change value : Nat}
    (filledBy : before.FilledBy after change value)
    (sound : after.Sound)
    (ordered : before.pair.base < before.pair.quote)
    (action : old.action = before.action)
    (filled : old.filled = before.filled) :
    ∃ moved, after.difference context old = .ok moved ∧
      moved.action = before.action ∧ moved.pair = before.pair ∧
      moved.amount.val = change ∧
      moved.total.val = change * before.ppc.val / decBase := by
  have after_action : after.action = before.action :=
    congrArg TradeTerms.action filledBy.terms
  have after_pair : after.pair = before.pair :=
    congrArg TradeTerms.pair filledBy.terms
  have after_ppc : after.ppc = before.ppc :=
    congrArg TradeTerms.ppc filledBy.terms
  have grown := filledBy.filled
  rw [difference_eq context (action.trans after_action.symm), filled]
  obtain ⟨amount, found, amount_val⟩ :=
    @C.sub_of_le after.filled before.filled (by omega)
  rw [grown, Nat.add_sub_cancel_left] at amount_val
  rw [Except.bind_of_eq_ok found]
  obtain ⟨total, product, total_val⟩ :=
    @C.mul_of_le amount after.ppc after.total (by
      rw [C.val_mul sound.total]
      refine Nat.div_le_div_right (Nat.mul_le_mul_right _ ?_)
      have filled_le := sound.filled_le.1
      omega)
  rw [amount_val, after_ppc] at total_val
  obtain ⟨moved, analyzed, moved_action, moved_pair, moved_amount,
    moved_total⟩ := @analyzeTrade_movedArgs context after amount total (by
      rw [after_pair]
      exact CurrencyPair.not_flips_of_lt ordered) product
  refine ⟨moved, analyzed, moved_action.trans after_action,
    moved_pair.trans after_pair, ?_, ?_⟩
  · rw [moved_amount, amount_val]
  · rw [moved_total, total_val]

end Trade

namespace TradeHeap

/-- The returned trade describes what moved. -/
structure Describes
    (heap after : TradeHeap)
    (ours sell : TradeRef)
    (moved : Trade) : Prop where
  pair : moved.pair = (heap ours).pair
  action : moved.action = (heap ours).action
  amount : (heap ours).filled.add moved.amount = .ok (after ours).filled
  ppc : moved.ppc = (heap sell).ppc
  total : moved.amount.mul moved.ppc = .ok moved.total
  sent : (heap ours).sent.add moved.toSend = .ok (after ours).sent
  recv : (heap ours).recv.add moved.toRecv = .ok (after ours).recv

/-- What moved has the same value at both prices. -/
def SameValue (heap : TradeHeap) (buy sell : TradeRef) : Prop :=
  heap.changeOf buy sell * (heap buy).ppc.val / decBase =
    heap.changeOf buy sell * (heap sell).ppc.val / decBase

/-- `self` is the buyer or the seller of its match. -/
theorem sides_cases
    {heap : TradeHeap}
    {self other buy sell : TradeRef}
    (sides : (heap self).buySell self other = (buy, sell)) :
    (heap self).action = .buy ∧ self = buy ∧ other = sell ∨
      (heap self).action = .sell ∧ self = sell ∧ other = buy := by
  unfold Trade.buySell Trade.actor at sides
  cases acts : (heap self).action with
  | buy =>
      rw [acts] at sides
      cases sides
      exact Or.inl ⟨rfl, rfl, rfl⟩
  | sell =>
      rw [acts] at sides
      cases sides
      exact Or.inr ⟨rfl, rfl, rfl⟩

/-- What moved is described exactly by a trade whose total is its value at the
seller's price. -/
theorem describes_iff
    {heap after : TradeHeap}
    {self buy sell : TradeRef}
    {moved : Trade}
    (filledBy : (heap self).FilledBy (after self) (heap.changeOf buy sell)
      (heap.valueOf buy sell))
    (pair : moved.pair = (heap self).pair)
    (action : moved.action = (heap self).action)
    (amount : moved.amount.val = heap.changeOf buy sell)
    (ppc : moved.ppc = (heap sell).ppc) :
    Describes heap after self sell moved ↔
      moved.total.val = heap.valueOf buy sell := by
  have value : moved.amount.val * moved.ppc.val / decBase =
      heap.valueOf buy sell := by
    rw [amount, ppc, valueOf]
  have after_action : (after self).action = (heap self).action :=
    congrArg TradeTerms.action filledBy.terms
  constructor
  · intro describes
    rw [C.val_mul describes.total, value]
  · intro total
    have filled : (after self).filled.val =
        (heap self).filled.val + moved.amount.val := by
      rw [filledBy.filled, amount]
    have paid : (after self).paid.val =
        (heap self).paid.val + moved.total.val := by
      rw [filledBy.paid, total]
    refine ⟨pair, action, (C.add_eq_ok_iff _ _ _).mpr filled, ppc, ?_, ?_, ?_⟩
    · rw [C.mul_eq_ok_iff, total, value]
    · rw [C.add_eq_ok_iff, Trade.toSend, action]
      unfold Trade.filled at filled
      unfold Trade.paid at paid
      rw [after_action] at filled paid
      cases acts : (heap self).action with
      | buy => simpa only [acts] using paid
      | sell => simpa only [acts] using filled
    · rw [C.add_eq_ok_iff, Trade.toRecv, action]
      unfold Trade.filled at filled
      unfold Trade.paid at paid
      rw [after_action] at filled paid
      cases acts : (heap self).action with
      | buy => simpa only [acts] using filled
      | sell => simpa only [acts] using paid

/-- The trade a match returns describes what moved exactly when `self` sells or
both prices give what moved the same value. -/
theorem divide_describes_iff
    {context : TradeContext}
    {heap : TradeHeap}
    {self other buy sell : TradeRef}
    (sides : (heap self).buySell self other = (buy, sell))
    (matching : heap.Matching buy sell)
    (ordered : (heap self).pair.base < (heap self).pair.quote)
    (same_pair : (heap other).pair = (heap self).pair)
    (valid : Trade.AddressesValid context (heap self).args)
    (valid_other : Trade.AddressesValid context (heap other).args) :
    ∃ moved, (heap.divide context self other).result = .ok moved ∧
      (Describes heap (heap.divide context self other).state self sell moved ↔
        (heap self).action = .sell ∨ SameValue heap buy sell) := by
  have sound : (heap self).Sound ∧ (heap other).Sound := by
    rcases sides_cases sides with ⟨_, rfl, rfl⟩ | ⟨_, rfl, rfl⟩
    · exact ⟨matching.buy_sound, matching.sell_sound⟩
    · exact ⟨matching.sell_sound, matching.buy_sound⟩
  have settled : (heap self).Settled :=
    ⟨ordered, sound.1.total, (Trade.remainingOf_eq _).trans sound.1.remaining⟩
  have settled_other : (heap other).Settled :=
    ⟨by rw [same_pair]; exact ordered, sound.2.total,
      (Trade.remainingOf_eq _).trans sound.2.remaining⟩
  obtain ⟨after, exchanged, result⟩ := divide_of_copied sides matching
    (settled.copy valid) (settled_other.copy valid_other)
  have filledBy : (heap self).FilledBy (after self) (heap.changeOf buy sell)
      (heap.valueOf buy sell) := by
    rcases sides_cases sides with ⟨_, rfl, rfl⟩ | ⟨_, rfl, rfl⟩
    · exact exchanged.buyer
    · exact exchanged.seller
  have after_sound : (after self).Sound :=
    exchanged.sound matching sound.1
  obtain ⟨moved, returned, action, pair, amount, total⟩ :=
    filledBy.difference context after_sound ordered
      (rfl : ({ heap self with flipped := false } : Trade).action = _) rfl
  have ppc : (after sell).ppc = (heap sell).ppc :=
    congrArg TradeTerms.ppc (exchanged.terms sell)
  rw [result, returned, Outcome.attempt_ok]
  refine ⟨_, rfl, ?_⟩
  rw [Outcome.pure_state, @describes_iff heap after self buy sell
    { moved with ppc := (after sell).ppc } filledBy pair action amount ppc,
    total]
  rcases sides_cases sides with ⟨buys, rfl, rfl⟩ | ⟨sells, rfl, rfl⟩
  · simp only [buys, reduceCtorEq, false_or]
    exact Iff.rfl
  · simp only [sells, true_or, iff_true]
    rfl

end TradeHeap

namespace Sample

theorem matchHeap_sound (ref : TradeRef) : (matchHeap ref).Sound := by
  unfold matchHeap
  split
  · exact (openTrade_opened (by decide +kernel) (by decide)).sound
  · exact (openTrade_opened (by decide +kernel) (by decide)).sound
  · exact (openTrade_opened (by decide +kernel) (by decide)).sound

end Sample

/-- A buyer at three is matched with a seller at two: one coin moves for two,
but the returned trade says three. -/
theorem matchHeap_buyer_misdescribed :
    ((Sample.matchHeap.divide Sample.bookContext 1 0).result.toOption.map
        fun moved => (moved.amount, moved.ppc, moved.total)) =
        some (C.coins 1, C.coins 2, C.coins 3) ∧
      ¬∃ moved, (Sample.matchHeap.divide Sample.bookContext 1 0).result =
          .ok moved ∧
        TradeHeap.Describes Sample.matchHeap
          (Sample.matchHeap.divide Sample.bookContext 1 0).state 1 0 moved := by
  have numbers :
      ((Sample.matchHeap.divide Sample.bookContext 1 0).result.toOption.map
        fun moved => (moved.amount, moved.ppc, moved.total)) =
        some (C.coins 1, C.coins 2, C.coins 3) := by
    decide +kernel
  refine ⟨numbers, ?_⟩
  rintro ⟨moved, returned, describes⟩
  rw [returned] at numbers
  have parts : (moved.amount, moved.ppc, moved.total) =
      (C.coins 1, C.coins 2, C.coins 3) := Option.some.inj numbers
  simp only [Prod.mk.injEq] at parts
  obtain ⟨amount, ppc, moved_total⟩ := parts
  have total := describes.total
  rw [amount, ppc, moved_total] at total
  revert total
  decide +kernel

/-- The seller's trade describes the same match. -/
theorem matchHeap_seller_described :
    ∃ moved, (Sample.matchHeap.divide Sample.bookContext 0 1).result =
        .ok moved ∧
      TradeHeap.Describes Sample.matchHeap
        (Sample.matchHeap.divide Sample.bookContext 0 1).state 0 0 moved := by
  have matching : Sample.matchHeap.Matching 1 0 :=
    ⟨rfl, rfl, Sample.matchHeap_sound 1, Sample.matchHeap_sound 0, by decide⟩
  have ordered : (Sample.matchHeap 0).pair.base <
      (Sample.matchHeap 0).pair.quote := by
    decide +kernel
  obtain ⟨moved, returned, described⟩ :=
    @TradeHeap.divide_describes_iff Sample.bookContext Sample.matchHeap 0 1 1 0
      rfl matching ordered rfl ⟨Or.inl rfl, Or.inl rfl⟩
      ⟨Or.inl rfl, Or.inl rfl⟩
  exact ⟨moved, returned, described.mpr (Or.inl rfl)⟩

end Coinbend
