import Coinbend.Trade.Analysis
import Coinbend.Trade.Matching

/-!
# What a match moves

A match of a buyer and a seller moves as much of the base currency as both
have left, and its value at the seller's price the other way.  The trades stay
sound: what is left of the amount, what was paid at most, and being closed
follow from what was filled.
-/

namespace Coinbend
namespace Trade

/-- What has been moved of a trade's amount. -/
def filled (trade : Trade) : C :=
  match trade.action with
  | .buy => trade.recv
  | .sell => trade.sent

/-- What has been moved the other way. -/
def paid (trade : Trade) : C :=
  match trade.action with
  | .buy => trade.sent
  | .sell => trade.recv

/-- The attributes of a trade agree with what has been filled of it. -/
structure Sound (trade : Trade) : Prop where
  total : trade.amount.mul trade.ppc = .ok trade.total
  remaining : trade.amount.sub trade.filled = .ok trade.remaining
  paid_le : trade.paid.val ≤ trade.filled.val * trade.ppc.val / decBase
  closed_iff : trade.status = .closed ↔ trade.remaining = 0

/-- A trade of which some amount was filled for some value. -/
structure FilledBy (before after : Trade) (change value : Nat) : Prop where
  terms : after.terms = before.terms
  addresses : after.destIp = before.destIp ∧ after.recvAddr = before.recvAddr
  total : after.total = before.total
  filled : after.filled.val = before.filled.val + change
  paid : after.paid.val = before.paid.val + value
  remaining : after.amount.sub after.filled = .ok after.remaining
  status : after.status =
    if after.remaining = 0 then .closed else before.status

/-- What remains of a trade is what was not filled. -/
theorem remainingOf_eq (trade : Trade) :
    remainingOf trade.action trade.amount trade.sent trade.recv =
      trade.amount.sub trade.filled := by
  unfold remainingOf filled
  cases trade.action <;> rfl

theorem Sound.filled_le
    {trade : Trade}
    (sound : trade.Sound) :
    trade.filled.val ≤ trade.amount.val ∧
      trade.remaining.val = trade.amount.val - trade.filled.val :=
  C.val_sub sound.remaining

/-- Values that are cut add up to at most the value of the sum. -/
theorem value_add_le (first second price : Nat) :
    first * price / decBase + second * price / decBase ≤
      (first + second) * price / decBase := by
  rw [Nat.add_mul]
  exact Nat.div_add_div_le_add_div

/-- What a sound trade has paid is below its total. -/
theorem Sound.paid_le_total
    {trade : Trade}
    (sound : trade.Sound) :
    trade.paid.val ≤ trade.total.val := by
  rw [C.val_mul sound.total]
  exact sound.paid_le.trans
    (Nat.div_le_div_right (Nat.mul_le_mul_right _ sound.filled_le.1))

/-- Filling at a price that is not above its own keeps a trade sound. -/
theorem FilledBy.sound
    {before after : Trade}
    {change value : Nat}
    (filledBy : before.FilledBy after change value)
    (sound : before.Sound)
    (value_le : value ≤ change * before.ppc.val / decBase) :
    after.Sound := by
  have amount : after.amount = before.amount :=
    congrArg TradeTerms.amount filledBy.terms
  have ppc : after.ppc = before.ppc := congrArg TradeTerms.ppc filledBy.terms
  refine ⟨?_, filledBy.remaining, ?_, ?_⟩
  · rw [amount, ppc, filledBy.total]
    exact sound.total
  · rw [filledBy.paid, filledBy.filled, ppc]
    refine (Nat.add_le_add sound.paid_le value_le).trans ?_
    exact value_add_le _ _ _
  · rw [filledBy.status]
    split
    next empty => exact ⟨fun _ => empty, fun _ => rfl⟩
    next left =>
      refine ⟨fun closed => absurd ?_ left, fun empty => absurd empty left⟩
      have before_empty := (C.eq_zero_iff _).mp (sound.closed_iff.mp closed)
      obtain ⟨after_le, after_left⟩ := C.val_sub filledBy.remaining
      obtain ⟨before_le, before_left⟩ := sound.filled_le
      rw [amount, filledBy.filled] at after_le after_left
      rw [C.eq_zero_iff]
      omega

end Trade

namespace TradeHeap

/-- A buyer and a seller overwritten. -/
def withSides
    (heap : TradeHeap)
    (buy sell : TradeRef)
    (buyer seller : Trade) : TradeHeap :=
  Function.update (Function.update heap buy buyer) sell seller

section Sides

variable {heap : TradeHeap} {buy sell : TradeRef} {buyer seller : Trade}

theorem withSides_self :
    heap.withSides buy sell (heap buy) (heap sell) = heap := by
  rw [withSides, Function.update_eq_self, Function.update_eq_self]

@[simp] theorem withSides_sell :
    heap.withSides buy sell buyer seller sell = seller :=
  Function.update_self _ _ _

theorem withSides_buy (distinct : buy ≠ sell) :
    heap.withSides buy sell buyer seller buy = buyer := by
  rw [withSides, Function.update_of_ne distinct, Function.update_self]

theorem withSides_of_ne
    {ref : TradeRef}
    (not_buy : ref ≠ buy)
    (not_sell : ref ≠ sell) :
    heap.withSides buy sell buyer seller ref = heap ref := by
  rw [withSides, Function.update_of_ne not_sell, Function.update_of_ne not_buy]

theorem update_withSides_sell (trade : Trade) :
    Function.update (heap.withSides buy sell buyer seller) sell trade =
      heap.withSides buy sell buyer trade :=
  Function.update_idem _ _ _

theorem update_withSides_buy (distinct : buy ≠ sell) (trade : Trade) :
    Function.update (heap.withSides buy sell buyer seller) buy trade =
      heap.withSides buy sell trade seller := by
  rw [withSides, Function.update_comm distinct.symm, Function.update_idem,
    withSides]

theorem modify_withSides_buy
    (distinct : buy ≠ sell)
    (change : Trade → Trade) :
    (heap.withSides buy sell buyer seller).modify buy change =
      heap.withSides buy sell (change buyer) seller := by
  rw [modify, withSides_buy distinct, update_withSides_buy distinct]

theorem modify_withSides_sell (change : Trade → Trade) :
    (heap.withSides buy sell buyer seller).modify sell change =
      heap.withSides buy sell buyer (change seller) := by
  rw [modify, withSides_sell, update_withSides_sell]

variable {α : Type} {value : Except PyError C} {amount : C}

theorem assign_buy_bind
    (distinct : buy ≠ sell)
    (found : value = .ok amount)
    (store : Trade → C → Trade)
    (next : TradeHeap → Unit → Outcome TradeHeap PyError α) :
    ((heap.withSides buy sell buyer seller).assign buy value store).bind next =
      next (heap.withSides buy sell (store buyer amount) seller) () := by
  rw [assign, found, Outcome.attempt_ok, Outcome.bind_of_ok rfl,
    Outcome.pure_state, withSides_buy distinct, update_withSides_buy distinct]

theorem assign_sell_bind
    (found : value = .ok amount)
    (store : Trade → C → Trade)
    (next : TradeHeap → Unit → Outcome TradeHeap PyError α) :
    ((heap.withSides buy sell buyer seller).assign sell value store).bind
        next =
      next (heap.withSides buy sell buyer (store seller amount)) () := by
  rw [assign, found, Outcome.attempt_ok, Outcome.bind_of_ok rfl,
    Outcome.pure_state, withSides_sell, update_withSides_sell]

theorem assign_first_bind
    (distinct : buy ≠ sell)
    (found : value = .ok amount)
    (store : Trade → C → Trade)
    (next : TradeHeap → Unit → Outcome TradeHeap PyError α) :
    (heap.assign buy value store).bind next =
      next (heap.withSides buy sell (store (heap buy) amount) (heap sell))
        () := by
  have start := @assign_buy_bind heap buy sell (heap buy) (heap sell) α value
    amount distinct found store next
  rwa [withSides_self] at start

theorem ifModify_buy
    (distinct : buy ≠ sell)
    (condition : Bool)
    (change : Trade → Trade) :
    (if condition then (heap.withSides buy sell buyer seller).modify buy change
      else heap.withSides buy sell buyer seller) =
      heap.withSides buy sell (if condition then change buyer else buyer)
        seller := by
  cases condition with
  | false => rfl
  | true => exact modify_withSides_buy distinct change

theorem ifModify_sell
    (condition : Bool)
    (change : Trade → Trade) :
    (if condition then
        (heap.withSides buy sell buyer seller).modify sell change
      else heap.withSides buy sell buyer seller) =
      heap.withSides buy sell buyer
        (if condition then change seller else seller) := by
  cases condition with
  | false => rfl
  | true => exact modify_withSides_sell change

end Sides

/-- A match moved an amount and its value between a buyer and a seller. -/
structure Exchanged
    (heap after : TradeHeap)
    (buy sell : TradeRef)
    (change value : Nat) : Prop where
  others : ∀ ref, ref ≠ buy → ref ≠ sell → after ref = heap ref
  buyer : (heap buy).FilledBy (after buy) change value
  seller : (heap sell).FilledBy (after sell) change value

/-- The amount a match moves. -/
def changeOf (heap : TradeHeap) (buy sell : TradeRef) : Nat :=
  min (heap buy).remaining.val (heap sell).remaining.val

/-- Its value at the seller's price. -/
def valueOf (heap : TradeHeap) (buy sell : TradeRef) : Nat :=
  heap.changeOf buy sell * (heap sell).ppc.val / decBase

/-- A sound buyer and a sound seller whose prices allow a match. -/
structure Matching (heap : TradeHeap) (buy sell : TradeRef) : Prop where
  buys : (heap buy).action = .buy
  sells : (heap sell).action = .sell
  buy_sound : (heap buy).Sound
  sell_sound : (heap sell).Sound
  price : (heap sell).ppc ≤ (heap buy).ppc

namespace Matching

variable {heap : TradeHeap} {buy sell : TradeRef}
  (matching : heap.Matching buy sell)
include matching

theorem distinct : buy ≠ sell := by
  rintro rfl
  have both := matching.buys.symm.trans matching.sells
  cases both

theorem price_le : (heap sell).ppc.val ≤ (heap buy).ppc.val :=
  (C.le_iff _ _).mp matching.price

/-- The value of what a match moves is at most what the buyer offers. -/
theorem valueOf_le :
    heap.valueOf buy sell ≤
      heap.changeOf buy sell * (heap buy).ppc.val / decBase :=
  Nat.div_le_div_right (Nat.mul_le_mul_left _ matching.price_le)

/-- The buyer's books have room for a match. -/
theorem buyer_room :
    (heap buy).recv.val + heap.changeOf buy sell ≤ (heap buy).amount.val ∧
      (heap buy).sent.val + heap.valueOf buy sell ≤ (heap buy).total.val := by
  have sound := matching.buy_sound
  obtain ⟨filled_le, left⟩ := sound.filled_le
  have paid_le := sound.paid_le
  have filled_eq : (heap buy).filled = (heap buy).recv := by
    rw [Trade.filled, matching.buys]
  have paid_eq : (heap buy).paid = (heap buy).sent := by
    rw [Trade.paid, matching.buys]
  rw [filled_eq] at filled_le left paid_le
  rw [paid_eq] at paid_le
  have change_le : heap.changeOf buy sell ≤ (heap buy).remaining.val :=
    Nat.min_le_left _ _
  constructor
  · omega
  · rw [C.val_mul sound.total]
    calc (heap buy).sent.val + heap.valueOf buy sell
        ≤ (heap buy).recv.val * (heap buy).ppc.val / decBase +
            heap.changeOf buy sell * (heap buy).ppc.val / decBase :=
          Nat.add_le_add paid_le matching.valueOf_le
      _ ≤ ((heap buy).recv.val + heap.changeOf buy sell) *
            (heap buy).ppc.val / decBase := Trade.value_add_le _ _ _
      _ ≤ (heap buy).amount.val * (heap buy).ppc.val / decBase := by
          refine Nat.div_le_div_right (Nat.mul_le_mul_right _ ?_)
          omega

/-- The seller's books have room for a match. -/
theorem seller_room :
    (heap sell).sent.val + heap.changeOf buy sell ≤ (heap sell).amount.val ∧
      (heap sell).recv.val + heap.valueOf buy sell ≤
        (heap sell).total.val := by
  have sound := matching.sell_sound
  obtain ⟨filled_le, left⟩ := sound.filled_le
  have paid_le := sound.paid_le
  have filled_eq : (heap sell).filled = (heap sell).sent := by
    rw [Trade.filled, matching.sells]
  have paid_eq : (heap sell).paid = (heap sell).recv := by
    rw [Trade.paid, matching.sells]
  rw [filled_eq] at filled_le left paid_le
  rw [paid_eq] at paid_le
  have change_le : heap.changeOf buy sell ≤ (heap sell).remaining.val :=
    Nat.min_le_right _ _
  constructor
  · omega
  · rw [C.val_mul sound.total]
    calc (heap sell).recv.val + heap.valueOf buy sell
        ≤ (heap sell).sent.val * (heap sell).ppc.val / decBase +
            heap.changeOf buy sell * (heap sell).ppc.val / decBase :=
          Nat.add_le_add paid_le le_rfl
      _ ≤ ((heap sell).sent.val + heap.changeOf buy sell) *
            (heap sell).ppc.val / decBase := Trade.value_add_le _ _ _
      _ ≤ (heap sell).amount.val * (heap sell).ppc.val / decBase := by
          refine Nat.div_le_div_right (Nat.mul_le_mul_right _ ?_)
          omega

end Matching

/-- The buyer after a match. -/
theorem Matching.filledBy_buyer
    {heap : TradeHeap}
    {buy sell : TradeRef}
    (matching : heap.Matching buy sell)
    {recv sent remaining : C}
    (recv_val : recv.val = (heap buy).recv.val + heap.changeOf buy sell)
    (sent_val : sent.val = (heap buy).sent.val + heap.valueOf buy sell)
    (left : (heap buy).amount.sub recv = .ok remaining) :
    (heap buy).FilledBy
      { heap buy with
        recv, sent, remaining
        status :=
          if (heap buy).remaining ≤ (heap sell).remaining then .closed
          else (heap buy).status }
      (heap.changeOf buy sell) (heap.valueOf buy sell) := by
  have filled_eq : (heap buy).filled = (heap buy).recv := by
    rw [Trade.filled, matching.buys]
  have paid_eq : (heap buy).paid = (heap buy).sent := by
    rw [Trade.paid, matching.buys]
  have closes : (heap buy).remaining ≤ (heap sell).remaining ↔
      remaining = 0 := by
    obtain ⟨filled_le, before_left⟩ := matching.buy_sound.filled_le
    obtain ⟨recv_le, after_left⟩ := C.val_sub left
    rw [filled_eq] at filled_le before_left
    rw [C.le_iff, C.eq_zero_iff]
    unfold changeOf at recv_val
    omega
  refine ⟨rfl, ⟨rfl, rfl⟩, rfl, ?_, ?_, ?_, ?_⟩
  · rw [filled_eq, Trade.filled]
    simp only [matching.buys]
    exact recv_val
  · rw [paid_eq, Trade.paid]
    simp only [matching.buys]
    exact sent_val
  · rw [Trade.filled]
    simp only [matching.buys]
    exact left
  · simp only [closes]

/-- The seller after a match. -/
theorem Matching.filledBy_seller
    {heap : TradeHeap}
    {buy sell : TradeRef}
    (matching : heap.Matching buy sell)
    {recv sent remaining : C}
    (sent_val : sent.val = (heap sell).sent.val + heap.changeOf buy sell)
    (recv_val : recv.val = (heap sell).recv.val + heap.valueOf buy sell)
    (left : (heap sell).amount.sub sent = .ok remaining) :
    (heap sell).FilledBy
      { heap sell with
        recv, sent, remaining
        status :=
          if (heap sell).remaining ≤ (heap buy).remaining then .closed
          else (heap sell).status }
      (heap.changeOf buy sell) (heap.valueOf buy sell) := by
  have filled_eq : (heap sell).filled = (heap sell).sent := by
    rw [Trade.filled, matching.sells]
  have paid_eq : (heap sell).paid = (heap sell).recv := by
    rw [Trade.paid, matching.sells]
  have closes : (heap sell).remaining ≤ (heap buy).remaining ↔
      remaining = 0 := by
    obtain ⟨filled_le, before_left⟩ := matching.sell_sound.filled_le
    obtain ⟨sent_le, after_left⟩ := C.val_sub left
    rw [filled_eq] at filled_le before_left
    rw [C.le_iff, C.eq_zero_iff]
    unfold changeOf at sent_val
    omega
  refine ⟨rfl, ⟨rfl, rfl⟩, rfl, ?_, ?_, ?_, ?_⟩
  · rw [filled_eq, Trade.filled]
    simp only [matching.sells]
    exact sent_val
  · rw [paid_eq, Trade.paid]
    simp only [matching.sells]
    exact recv_val
  · rw [Trade.filled]
    simp only [matching.sells]
    exact left
  · simp only [closes]

/-- A match whose operands can be copied fills both and returns the difference
to the copy. -/
theorem divide_of_copied
    {context : TradeContext}
    {heap : TradeHeap}
    {self other buy sell : TradeRef}
    (sides : (heap self).buySell self other = (buy, sell))
    (matching : heap.Matching buy sell)
    {oldSelf oldOther : Trade}
    (copied : (heap self).copy context = .ok oldSelf)
    (copiedOther : (heap other).copy context = .ok oldOther) :
    ∃ after, heap.Exchanged after buy sell (heap.changeOf buy sell)
        (heap.valueOf buy sell) ∧
      heap.divide context self other =
        Outcome.attempt after ((after self).difference context oldSelf)
          fun moved => Outcome.pure after
            { moved with ppc := (after sell).ppc } := by
  have distinct := matching.distinct
  obtain ⟨recv_room, sent_room⟩ := matching.buyer_room
  obtain ⟨sell_sent_room, sell_recv_room⟩ := matching.seller_room
  obtain ⟨change, change_eq, change_val⟩ :
      ∃ change, (if (heap sell).remaining < (heap buy).remaining then
          (heap sell).remaining else (heap buy).remaining) = change ∧
        change.val = heap.changeOf buy sell := by
    refine ⟨_, rfl, ?_⟩
    unfold changeOf
    split
    next more => exact (Nat.min_eq_right ((C.lt_iff _ _).mp more).le).symm
    next less =>
      rw [C.lt_iff, Nat.not_lt] at less
      exact (Nat.min_eq_left less).symm
  obtain ⟨value, valued, value_val⟩ :=
    @C.mul_of_le change (heap sell).ppc (heap sell).total (by
      rw [change_val]
      exact Nat.le_trans (Nat.le_add_left _ _) sell_recv_room)
  rw [change_val] at value_val
  change value.val = heap.valueOf buy sell at value_val
  obtain ⟨recv, recv_found, recv_val⟩ :=
    @C.add_of_le (heap buy).recv change (heap buy).amount (by
      rw [change_val]; exact recv_room)
  obtain ⟨sent, sent_found, sent_val⟩ :=
    @C.add_of_le (heap buy).sent value (heap buy).total (by
      rw [value_val]; exact sent_room)
  obtain ⟨sellSent, sellSent_found, sellSent_val⟩ :=
    @C.add_of_le (heap sell).sent change (heap sell).amount (by
      rw [change_val]; exact sell_sent_room)
  obtain ⟨sellRecv, sellRecv_found, sellRecv_val⟩ :=
    @C.add_of_le (heap sell).recv value (heap sell).total (by
      rw [value_val]; exact sell_recv_room)
  rw [change_val] at recv_val sellSent_val
  rw [value_val] at sent_val sellRecv_val
  obtain ⟨left, left_found, _⟩ :=
    @C.sub_of_le (heap buy).amount recv (by rw [recv_val]; exact recv_room)
  obtain ⟨sellLeft, sellLeft_found, _⟩ :=
    @C.sub_of_le (heap sell).amount sellSent (by
      rw [sellSent_val]; exact sell_sent_room)
  have buyer := matching.filledBy_buyer recv_val sent_val left_found
  have seller := matching.filledBy_seller sellSent_val sellRecv_val
    sellLeft_found
  refine ⟨heap.withSides buy sell
    { heap buy with
      recv, sent
      remaining := left
      status :=
        if (heap buy).remaining ≤ (heap sell).remaining then .closed
        else (heap buy).status }
    { heap sell with
      recv := sellRecv
      sent := sellSent
      remaining := sellLeft
      status :=
        if (heap sell).remaining ≤ (heap buy).remaining then .closed
        else (heap sell).status }, ⟨?_, ?_, ?_⟩, ?_⟩
  · intro ref not_buy not_sell
    exact withSides_of_ne not_buy not_sell
  · rw [withSides_buy distinct]
    exact buyer
  · rw [withSides_sell]
    exact seller
  · rw [divide, copied, Outcome.attempt_ok, copiedOther, Outcome.attempt_ok,
      sides]
    simp only [change_eq]
    rw [valued, Outcome.attempt_ok, assign_first_bind distinct recv_found,
      assign_buy_bind distinct (by rw [withSides_buy distinct]; exact sent_found),
      refreshBuy,
      assign_buy_bind distinct (by rw [withSides_buy distinct]; exact left_found),
      assign_sell_bind (by rw [withSides_sell]; exact sellSent_found),
      assign_sell_bind (by rw [withSides_sell]; exact sellRecv_found),
      refreshSell,
      assign_sell_bind (by rw [withSides_sell]; exact sellLeft_found),
      ifModify_buy distinct, ifModify_sell]
    by_cases buyCloses : (heap buy).remaining ≤ (heap sell).remaining <;>
      by_cases sellCloses : (heap sell).remaining ≤ (heap buy).remaining <;>
      simp only [buyCloses, sellCloses, decide_true, decide_false, if_true,
        if_false, Bool.false_eq_true]

theorem Exchanged.terms
    {heap after : TradeHeap}
    {buy sell : TradeRef}
    {change value : Nat}
    (exchanged : heap.Exchanged after buy sell change value)
    (ref : TradeRef) :
    (after ref).terms = (heap ref).terms := by
  by_cases is_buy : ref = buy
  · subst is_buy
    exact exchanged.buyer.terms
  · by_cases is_sell : ref = sell
    · subst is_sell
      exact exchanged.seller.terms
    · rw [exchanged.others ref is_buy is_sell]

/-- A match leaves the trades as they are, because an operand could not be
copied, or fills the buyer and the seller. -/
theorem divide_state_cases
    (context : TradeContext)
    {heap : TradeHeap}
    {self other buy sell : TradeRef}
    (sides : (heap self).buySell self other = (buy, sell))
    (matching : heap.Matching buy sell) :
    (heap.divide context self other).state = heap ∨
      heap.Exchanged (heap.divide context self other).state buy sell
        (heap.changeOf buy sell) (heap.valueOf buy sell) := by
  cases copied : (heap self).copy context with
  | error error =>
      refine Or.inl ?_
      rw [divide, copied]
      rfl
  | ok oldSelf =>
      cases copiedOther : (heap other).copy context with
      | error error =>
          refine Or.inl ?_
          rw [divide, copied, Outcome.attempt_ok, copiedOther]
          rfl
      | ok oldOther =>
          obtain ⟨after, exchanged, result⟩ :=
            divide_of_copied sides matching copied copiedOther
          refine Or.inr ?_
          rw [result]
          refine Outcome.attempt_state
            (motive := fun left : TradeHeap => heap.Exchanged left buy sell
              (heap.changeOf buy sell) (heap.valueOf buy sell))
            exchanged ?_
          intro moved _
          exact exchanged

/-- A match keeps both trades sound. -/
theorem Exchanged.sound
    {heap after : TradeHeap}
    {buy sell : TradeRef}
    (matching : heap.Matching buy sell)
    (exchanged : heap.Exchanged after buy sell (heap.changeOf buy sell)
      (heap.valueOf buy sell))
    {ref : TradeRef}
    (sound : (heap ref).Sound) :
    (after ref).Sound := by
  by_cases is_buy : ref = buy
  · subst is_buy
    exact exchanged.buyer.sound sound matching.valueOf_le
  · by_cases is_sell : ref = sell
    · subst is_sell
      exact exchanged.seller.sound sound le_rfl
    · rw [exchanged.others ref is_buy is_sell]
      exact sound

end TradeHeap
end Coinbend
