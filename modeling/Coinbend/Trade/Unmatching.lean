import Coinbend.Trade.Returned

/-!
# What undoing a match does

`self * other` knows nothing about the match it undoes.  It compares what the
buyer has sent with what the seller has received, takes all of the smaller
side's books from the larger one's and clears the smaller side; when they are
equal it clears both.
-/

namespace Coinbend
namespace Trade

/-- A trade whose books are set to some amounts. -/
structure SetTo
    (before after : Trade)
    (filled paid : Nat)
    (status : TradeStatus) : Prop where
  terms : after.terms = before.terms
  addresses : after.destIp = before.destIp ∧ after.recvAddr = before.recvAddr
  total : after.total = before.total
  filled : after.filled.val = filled
  paid : after.paid.val = paid
  remaining : after.amount.sub after.filled = .ok after.remaining
  status : after.status = status

/-- The trade that leads back from a smaller filling exists. -/
theorem SetTo.exists_difference
    (context : TradeContext)
    {before after : Trade}
    {filled paid : Nat}
    {status : TradeStatus}
    (setTo : before.SetTo after filled paid status)
    (sound : before.Sound)
    (ordered : before.pair.base < before.pair.quote)
    (filled_le : filled ≤ before.filled.val) :
    ∃ moved, ({ before with flipped := false } : Trade).difference context
      after = .ok moved := by
  have action : after.action = before.action :=
    congrArg TradeTerms.action setTo.terms
  rw [@difference_eq context { before with flipped := false } after action]
  obtain ⟨amount, found, amount_val⟩ :=
    @C.sub_of_le before.filled after.filled (by rw [setTo.filled]; exact filled_le)
  change ∃ moved, (before.filled.sub after.filled >>= _) = _
  rw [Except.bind_of_eq_ok found]
  obtain ⟨total, product, _⟩ :=
    @C.mul_of_le amount before.ppc before.total (by
      rw [C.val_mul sound.total]
      refine Nat.div_le_div_right (Nat.mul_le_mul_right _ ?_)
      have whole := sound.filled_le.1
      omega)
  obtain ⟨moved, analyzed, _⟩ := @analyzeTrade_movedArgs context
    { before with flipped := false } amount total
    (CurrencyPair.not_flips_of_lt ordered) product
  exact ⟨moved, analyzed⟩

end Trade

namespace TradeHeap

/-- The end of `__mul__`, after its first two cases. -/
def settleUndo
    (context : TradeContext)
    (oldSelf : Trade)
    (self buy sell : TradeRef)
    (openBuy openSell : Bool)
    (heap : TradeHeap) : Outcome TradeHeap PyError Trade :=
  let both : Bool := (heap buy).sent = (heap sell).recv
  let heap :=
    if both then (heap.modify buy Trade.clear).modify sell Trade.clear
    else heap
  (heap.refreshBuy buy).bind fun heap _ =>
  (heap.refreshSell sell).bind fun heap _ =>
  let heap :=
    if openBuy || both then heap.modify buy fun trade =>
      { trade with status := .open }
    else heap
  let heap :=
    if openSell || both then heap.modify sell fun trade =>
      { trade with status := .open }
    else heap
  Outcome.attempt heap (oldSelf.difference context (heap self)) fun moved =>
  Outcome.pure heap moved

theorem multiply_eq
    {context : TradeContext}
    {heap : TradeHeap}
    {self other buy sell : TradeRef}
    (sides : (heap self).buySell self other = (buy, sell))
    {oldSelf oldOther : Trade}
    (copied : (heap self).copy context = .ok oldSelf)
    (copiedOther : (heap other).copy context = .ok oldOther) :
    heap.multiply context self other =
      (heap.undoSell buy sell).bind fun heap openSell =>
        (heap.undoBuy buy sell).bind fun heap openBuy =>
          settleUndo context oldSelf self buy sell openBuy openSell heap := by
  unfold multiply
  rw [sides, copied, copiedOther]
  rfl

section Settle

variable {context : TradeContext} {oldSelf : Trade} {heap : TradeHeap}
  {self buy sell : TradeRef} {buyer seller : Trade}

/-- The end of an unmatch whose sides were made different. -/
theorem settleUndo_of_ne
    (distinct : buy ≠ sell)
    (openBuy openSell : Bool)
    (different : buyer.sent ≠ seller.recv)
    {left sellLeft : C}
    (left_found : buyer.amount.sub buyer.recv = .ok left)
    (sellLeft_found : seller.amount.sub seller.sent = .ok sellLeft) :
    ∃ after, after = heap.withSides buy sell
        { buyer with
          remaining := left
          status := if openBuy then .open else buyer.status }
        { seller with
          remaining := sellLeft
          status := if openSell then .open else seller.status } ∧
      settleUndo context oldSelf self buy sell openBuy openSell
          (heap.withSides buy sell buyer seller) =
        Outcome.attempt after (oldSelf.difference context (after self))
          (Outcome.pure after) := by
  refine ⟨_, rfl, ?_⟩
  have both : (decide ((heap.withSides buy sell buyer seller buy).sent =
      (heap.withSides buy sell buyer seller sell).recv) : Bool) = false := by
    rw [withSides_buy distinct, withSides_sell]
    exact decide_eq_false different
  unfold settleUndo
  simp only [both, Bool.or_false, if_neg Bool.false_ne_true]
  rw [refreshBuy, assign_buy_bind distinct (by
      rw [withSides_buy distinct]; exact left_found),
    refreshSell, assign_sell_bind (by
      rw [withSides_sell]; exact sellLeft_found),
    ifModify_buy distinct, ifModify_sell]
  cases openBuy <;> cases openSell <;> rfl

/-- The end of an unmatch whose sides are equal. -/
theorem settleUndo_of_eq
    (distinct : buy ≠ sell)
    (openBuy openSell : Bool)
    (equal : buyer.sent = seller.recv) :
    ∃ after, after = heap.withSides buy sell
        { buyer.clear with remaining := buyer.amount, status := .open }
        { seller.clear with remaining := seller.amount, status := .open } ∧
      settleUndo context oldSelf self buy sell openBuy openSell
          (heap.withSides buy sell buyer seller) =
        Outcome.attempt after (oldSelf.difference context (after self))
          (Outcome.pure after) := by
  refine ⟨_, rfl, ?_⟩
  have both : (decide ((heap.withSides buy sell buyer seller buy).sent =
      (heap.withSides buy sell buyer seller sell).recv) : Bool) = true := by
    rw [withSides_buy distinct, withSides_sell]
    exact decide_eq_true equal
  have untouched (amount : C) : amount.sub 0 = .ok amount :=
    remainingOf_untouched .buy amount
  have cleared : ((heap.withSides buy sell buyer seller).modify buy
      Trade.clear).modify sell Trade.clear =
        heap.withSides buy sell buyer.clear seller.clear := by
    rw [modify_withSides_buy distinct, modify_withSides_sell]
  unfold settleUndo
  simp only [both, Bool.or_true, if_true]
  rw [cleared, refreshBuy, assign_buy_bind distinct (by
      rw [withSides_buy distinct]; exact untouched _),
    refreshSell, assign_sell_bind (by
      rw [withSides_sell]; exact untouched _),
    modify_withSides_buy distinct, modify_withSides_sell]
  rfl

end Settle

section Undo

variable {heap : TradeHeap} {buy sell : TradeRef}

theorem undoSell_of_not_less (not_less : ¬(heap sell).recv < (heap buy).sent) :
    heap.undoSell buy sell = Outcome.pure heap false :=
  if_neg not_less

theorem undoBuy_of_not_less (not_less : ¬(heap buy).sent < (heap sell).recv) :
    heap.undoBuy buy sell = Outcome.pure heap false :=
  if_neg not_less

theorem undoSell_of_less
    {sent recv : C}
    (distinct : buy ≠ sell)
    (less : (heap sell).recv < (heap buy).sent)
    (sent_found : (heap buy).sent.sub (heap sell).recv = .ok sent)
    (recv_found : (heap buy).recv.sub (heap sell).sent = .ok recv) :
    heap.undoSell buy sell =
      Outcome.pure (heap.withSides buy sell { heap buy with sent, recv }
        (heap sell).clear) true := by
  rw [undoSell, if_pos less, assign_first_bind distinct sent_found,
    assign_buy_bind distinct (by
      rw [withSides_buy distinct, withSides_sell]; exact recv_found),
    modify_withSides_sell]

theorem undoBuy_of_less
    {sent recv : C}
    (distinct : buy ≠ sell)
    (less : (heap buy).sent < (heap sell).recv)
    (sent_found : (heap sell).sent.sub (heap buy).recv = .ok sent)
    (recv_found : (heap sell).recv.sub (heap buy).sent = .ok recv) :
    heap.undoBuy buy sell =
      Outcome.pure (heap.withSides buy sell (heap buy).clear
        { heap sell with sent, recv }) true := by
  have first := @assign_sell_bind heap buy sell (heap buy) (heap sell) Bool
    ((heap sell).sent.sub (heap buy).recv) sent sent_found
    fun trade amount => { trade with sent := amount }
  rw [withSides_self] at first
  rw [undoBuy, if_pos less, first,
    assign_sell_bind (by
      rw [withSides_buy distinct, withSides_sell]; exact recv_found),
    modify_withSides_buy distinct]

/-- The first case raises when the seller has sent more than the buyer has
received. -/
theorem undoSell_raises
    {sent : C}
    {error : PyError}
    (distinct : buy ≠ sell)
    (less : (heap sell).recv < (heap buy).sent)
    (sent_found : (heap buy).sent.sub (heap sell).recv = .ok sent)
    (recv_raises : (heap buy).recv.sub (heap sell).sent = .error error) :
    (heap.undoSell buy sell).result = .error error := by
  rw [undoSell, if_pos less, assign_first_bind distinct sent_found, assign,
    withSides_buy distinct, withSides_sell]
  simp only [recv_raises]
  rfl

/-- The second case raises when the buyer has received more than the seller
has sent. -/
theorem undoBuy_raises
    {error : PyError}
    (less : (heap buy).sent < (heap sell).recv)
    (sent_raises : (heap sell).sent.sub (heap buy).recv = .error error) :
    (heap.undoBuy buy sell).result = .error error := by
  rw [undoBuy, if_pos less, assign, sent_raises]
  rfl

end Undo

/-- The two sides of a match after it was undone. -/
structure Undone
    (heap after : TradeHeap)
    (buy sell : TradeRef)
    (buyFilled buyPaid sellFilled sellPaid : Nat)
    (buyStatus sellStatus : TradeStatus) : Prop where
  others : ∀ ref, ref ≠ buy → ref ≠ sell → after ref = heap ref
  buyer : (heap buy).SetTo (after buy) buyFilled buyPaid buyStatus
  seller : (heap sell).SetTo (after sell) sellFilled sellPaid sellStatus

namespace Matching

variable {heap : TradeHeap} {buy sell : TradeRef}
  (matching : heap.Matching buy sell)
include matching

theorem buy_filled : (heap buy).filled = (heap buy).recv := by
  rw [Trade.filled, matching.buys]

theorem buy_paid : (heap buy).paid = (heap buy).sent := by
  rw [Trade.paid, matching.buys]

theorem sell_filled : (heap sell).filled = (heap sell).sent := by
  rw [Trade.filled, matching.sells]

theorem sell_paid : (heap sell).paid = (heap sell).recv := by
  rw [Trade.paid, matching.sells]

/-- The buyer with other books. -/
theorem setTo_buyer
    {recv sent remaining : C}
    (left : (heap buy).amount.sub recv = .ok remaining)
    (status : TradeStatus) :
    (heap buy).SetTo { heap buy with recv, sent, remaining, status }
      recv.val sent.val status := by
  refine ⟨rfl, ⟨rfl, rfl⟩, rfl, ?_, ?_, ?_, rfl⟩
  · rw [Trade.filled]
    simp only [matching.buys]
  · rw [Trade.paid]
    simp only [matching.buys]
  · rw [Trade.filled]
    simp only [matching.buys]
    exact left

/-- The seller with other books. -/
theorem setTo_seller
    {recv sent remaining : C}
    (left : (heap sell).amount.sub sent = .ok remaining)
    (status : TradeStatus) :
    (heap sell).SetTo { heap sell with recv, sent, remaining, status }
      sent.val recv.val status := by
  refine ⟨rfl, ⟨rfl, rfl⟩, rfl, ?_, ?_, ?_, rfl⟩
  · rw [Trade.filled]
    simp only [matching.sells]
  · rw [Trade.paid]
    simp only [matching.sells]
  · rw [Trade.filled]
    simp only [matching.sells]
    exact left

end Matching

/-- Both sides with other books. -/
theorem Matching.undone
    {heap : TradeHeap}
    {buy sell : TradeRef}
    (matching : heap.Matching buy sell)
    {recv sent left sellRecv sellSent sellLeft : C}
    (left_found : (heap buy).amount.sub recv = .ok left)
    (sellLeft_found : (heap sell).amount.sub sellSent = .ok sellLeft)
    (buyStatus sellStatus : TradeStatus) :
    heap.Undone
      (heap.withSides buy sell
        { heap buy with recv, sent, remaining := left, status := buyStatus }
        { heap sell with
          recv := sellRecv
          sent := sellSent
          remaining := sellLeft
          status := sellStatus })
      buy sell recv.val sent.val sellSent.val sellRecv.val buyStatus
      sellStatus := by
  refine ⟨fun ref not_buy not_sell => withSides_of_ne not_buy not_sell, ?_, ?_⟩
  · rw [withSides_buy matching.distinct]
    exact matching.setTo_buyer left_found buyStatus
  · rw [withSides_sell]
    exact matching.setTo_seller sellLeft_found sellStatus

/-- What the amounts of two trades make of undoing a match of them. -/
inductive UndoCase
    (heap after : TradeHeap)
    (buy sell : TradeRef)
    (result : Except PyError Trade) : Prop
  | raised
      (error : PyError)
      (raises : result = .error error)
      (short :
        (heap sell).recv.val < (heap buy).sent.val ∧
            (heap buy).recv.val < (heap sell).sent.val ∨
          (heap buy).sent.val < (heap sell).recv.val ∧
            (heap sell).sent.val < (heap buy).recv.val)
  | more
      (moved : Trade)
      (returns : result = .ok moved)
      (more : (heap sell).recv.val < (heap buy).sent.val)
      (covered : (heap sell).sent.val ≤ (heap buy).recv.val)
      (undone : heap.Undone after buy sell
        ((heap buy).recv.val - (heap sell).sent.val)
        ((heap buy).sent.val - (heap sell).recv.val) 0 0
        (heap buy).status .open)
  | less
      (moved : Trade)
      (returns : result = .ok moved)
      (less : (heap buy).sent.val < (heap sell).recv.val)
      (covered : (heap buy).recv.val ≤ (heap sell).sent.val)
      (undone : heap.Undone after buy sell 0 0
        ((heap sell).sent.val - (heap buy).recv.val)
        ((heap sell).recv.val - (heap buy).sent.val)
        .open (heap sell).status)
  | equal
      (moved : Trade)
      (returns : result = .ok moved)
      (equal : (heap buy).sent.val = (heap sell).recv.val)
      (undone : heap.Undone after buy sell 0 0 0 0 .open .open)

/-- An unmatch that took no more than was filled returns. -/
theorem returns_of_undone
    {context : TradeContext}
    {heap after : TradeHeap}
    {self other buy sell : TradeRef}
    {buyFilled buyPaid sellFilled sellPaid : Nat}
    {buyStatus sellStatus : TradeStatus}
    (sides : (heap self).buySell self other = (buy, sell))
    (matching : heap.Matching buy sell)
    (ordered : (heap self).pair.base < (heap self).pair.quote)
    (undone : heap.Undone after buy sell buyFilled buyPaid sellFilled sellPaid
      buyStatus sellStatus)
    (buy_le : buyFilled ≤ (heap buy).recv.val)
    (sell_le : sellFilled ≤ (heap sell).sent.val)
    (effect : heap.multiply context self other =
      Outcome.attempt after
        (({ heap self with flipped := false } : Trade).difference context
          (after self)) (Outcome.pure after)) :
    (heap.multiply context self other).state = after ∧
      ∃ moved, (heap.multiply context self other).result = .ok moved := by
  have difference : ∃ moved,
      ({ heap self with flipped := false } : Trade).difference context
        (after self) = .ok moved := by
    rcases sides_cases sides with ⟨_, rfl, rfl⟩ | ⟨_, rfl, rfl⟩
    · exact undone.buyer.exists_difference context matching.buy_sound ordered
        (by rw [matching.buy_filled]; exact buy_le)
    · exact undone.seller.exists_difference context matching.sell_sound ordered
        (by rw [matching.sell_filled]; exact sell_le)
  obtain ⟨moved, found⟩ := difference
  rw [effect, found]
  exact ⟨rfl, moved, rfl⟩

/-- Undoing a match whose operands can be copied. -/
theorem multiply_cases
    {context : TradeContext}
    {heap : TradeHeap}
    {self other buy sell : TradeRef}
    (sides : (heap self).buySell self other = (buy, sell))
    (matching : heap.Matching buy sell)
    (ordered : (heap self).pair.base < (heap self).pair.quote)
    {oldOther : Trade}
    (copied : (heap self).copy context =
      .ok { heap self with flipped := false })
    (copiedOther : (heap other).copy context = .ok oldOther) :
    heap.UndoCase (heap.multiply context self other).state buy sell
      (heap.multiply context self other).result := by
  have distinct := matching.distinct
  have effect := multiply_eq sides copied copiedOther
  have untouched (amount : C) : amount.sub 0 = .ok amount :=
    remainingOf_untouched .buy amount
  obtain ⟨buy_le, _⟩ := matching.buy_sound.filled_le
  obtain ⟨sell_le, _⟩ := matching.sell_sound.filled_le
  rw [matching.buy_filled] at buy_le
  rw [matching.sell_filled] at sell_le
  rcases Nat.lt_trichotomy (heap sell).recv.val (heap buy).sent.val with
    more | equal | less
  · have more_C := (C.lt_iff _ _).mpr more
    obtain ⟨sent, sent_found, sent_val⟩ := C.sub_of_le more.le
    rcases Nat.lt_or_ge (heap buy).recv.val (heap sell).sent.val with
      short | covered
    · refine .raised C.negativeError ?_ (Or.inl ⟨more, short⟩)
      have raised := undoSell_raises distinct more_C sent_found
        (C.sub_of_lt short)
      rw [effect, Outcome.bind, raised]
      rfl
    · obtain ⟨recv, recv_found, recv_val⟩ := C.sub_of_le covered
      obtain ⟨left, left_found, _⟩ :=
        @C.sub_of_le (heap buy).amount recv (by omega)
      have not_less : ¬sent < (0 : C) := by
        rw [C.lt_iff, C.val_zero]
        exact Nat.not_lt_zero _
      have different : sent ≠ (0 : C) := by
        rw [Ne, C.eq_zero_iff]
        omega
      obtain ⟨after, after_eq, settled⟩ :=
        @settleUndo_of_ne context { heap self with flipped := false } heap self
          buy sell { heap buy with sent, recv } (heap sell).clear distinct false
          true different left (heap sell).amount left_found (untouched _)
      rw [undoSell_of_less distinct more_C sent_found recv_found,
        Outcome.bind_of_ok rfl, Outcome.pure_state,
        undoBuy_of_not_less (by
          rw [withSides_buy distinct, withSides_sell]; exact not_less),
        Outcome.bind_of_ok rfl, Outcome.pure_state] at effect
      have undone : heap.Undone after buy sell recv.val sent.val 0 0
          (heap buy).status .open := by
        rw [after_eq]
        exact @Matching.undone heap buy sell matching recv sent left 0 0
          (heap sell).amount left_found (untouched _) (heap buy).status .open
      obtain ⟨state, moved, returned⟩ := returns_of_undone sides matching
        ordered undone (by omega) (Nat.zero_le _) (effect.trans settled)
      rw [recv_val, sent_val] at undone
      rw [state]
      exact .more moved returned more covered undone
  · have equal_C : (heap buy).sent = (heap sell).recv :=
      C.val_injective equal.symm
    obtain ⟨after, after_eq, settled⟩ :=
      @settleUndo_of_eq context { heap self with flipped := false } heap self
        buy sell (heap buy) (heap sell) distinct false false equal_C
    rw [undoSell_of_not_less (by rw [C.lt_iff]; omega), Outcome.bind_of_ok rfl,
      Outcome.pure_state, undoBuy_of_not_less (by rw [C.lt_iff]; omega),
      Outcome.bind_of_ok rfl, Outcome.pure_state] at effect
    rw [withSides_self] at settled
    have undone : heap.Undone after buy sell 0 0 0 0 .open .open := by
      rw [after_eq]
      exact @Matching.undone heap buy sell matching 0 0 (heap buy).amount 0 0
        (heap sell).amount (untouched _) (untouched _) .open .open
    obtain ⟨state, moved, returned⟩ := returns_of_undone sides matching
      ordered undone (Nat.zero_le _) (Nat.zero_le _) (effect.trans settled)
    rw [state]
    exact .equal moved returned equal.symm undone
  · have less_C := (C.lt_iff _ _).mpr less
    have not_more : ¬(heap sell).recv < (heap buy).sent := by
      rw [C.lt_iff]
      omega
    rw [undoSell_of_not_less not_more, Outcome.bind_of_ok rfl,
      Outcome.pure_state] at effect
    obtain ⟨recv, recv_found, recv_val⟩ := C.sub_of_le less.le
    rcases Nat.lt_or_ge (heap sell).sent.val (heap buy).recv.val with
      short | covered
    · refine .raised C.negativeError ?_ (Or.inr ⟨less, short⟩)
      have raised := undoBuy_raises less_C (C.sub_of_lt short)
      rw [effect, Outcome.bind, raised]
      rfl
    · obtain ⟨sent, sent_found, sent_val⟩ := C.sub_of_le covered
      obtain ⟨left, left_found, _⟩ :=
        @C.sub_of_le (heap sell).amount sent (by omega)
      have different : (0 : C) ≠ recv := by
        intro zero
        have none := congrArg C.val zero
        rw [C.val_zero] at none
        omega
      obtain ⟨after, after_eq, settled⟩ :=
        @settleUndo_of_ne context { heap self with flipped := false } heap self
          buy sell (heap buy).clear { heap sell with sent, recv } distinct true
          false different (heap buy).amount left (untouched _) left_found
      rw [undoBuy_of_less distinct less_C sent_found recv_found,
        Outcome.bind_of_ok rfl, Outcome.pure_state] at effect
      have undone : heap.Undone after buy sell 0 0 sent.val recv.val .open
          (heap sell).status := by
        rw [after_eq]
        exact @Matching.undone heap buy sell matching 0 0 (heap buy).amount
          recv sent left (untouched _) left_found .open (heap sell).status
      obtain ⟨state, moved, returned⟩ := returns_of_undone sides matching
        ordered undone (Nat.zero_le _) (by omega) (effect.trans settled)
      rw [recv_val, sent_val] at undone
      rw [state]
      exact .less moved returned less covered undone

end TradeHeap
end Coinbend
