import Coinbend.Library.Machine
import Coinbend.Trade.Canonical
import Coinbend.Trade.Filling
import Mathlib.Algebra.BigOperators.Group.Finset.Basic

/-!
# A book of trades

Any number of buyers and sellers matched in any order: nothing is created or
lost between them, and no buyer pays more than it offered.
-/

namespace Coinbend

open Finset

/-- A sum of which one summand has grown. -/
theorem sum_of_grown
    {ι : Type}
    [DecidableEq ι]
    {book : Finset ι}
    {before after : ι → Nat}
    {grown : ι}
    {growth : Nat}
    (member : grown ∈ book)
    (there : after grown = before grown + growth)
    (elsewhere : ∀ i, i ≠ grown → after i = before i) :
    ∑ i ∈ book, after i = ∑ i ∈ book, before i + growth := by
  have rest : ∑ i ∈ book.erase grown, after i =
      ∑ i ∈ book.erase grown, before i := by
    apply sum_congr rfl
    intro i erased
    exact elsewhere i (ne_of_mem_erase erased)
  rw [← add_sum_erase book after member, ← add_sum_erase book before member,
    there, rest]
  omega

/-- A trade as the constructor returns it, open and of a positive amount, of
which nothing is matched yet. -/
structure Trade.Opened (pair : CurrencyPair) (trade : Trade) : Prop where
  constructed : ∃ context args, Trade.new context args = .ok trade
  on_pair : trade.pair = pair
  is_open : trade.status = .open
  amount_ne_zero : trade.amount ≠ 0
  sent : trade.sent = 0
  recv : trade.recv = 0

/-- What the constructor returns was analysed. -/
theorem Trade.analyzed_of_new
    {context : TradeContext}
    {args : TradeArgs}
    {trade : Trade}
    (constructed : Trade.new context args = .ok trade) :
    analyzeTrade context args = .ok trade := by
  unfold Trade.new at constructed
  split at constructed
  · cases constructed
  · split at constructed
    · cases constructed
    · exact constructed

theorem Trade.filled_of_untouched
    {trade : Trade}
    (sent : trade.sent = 0)
    (recv : trade.recv = 0) :
    trade.filled = 0 ∧ trade.paid = 0 := by
  unfold filled paid
  cases trade.action <;> exact ⟨by assumption, by assumption⟩

theorem Trade.Opened.sound
    {pair : CurrencyPair}
    {trade : Trade}
    (opened : trade.Opened pair) :
    trade.Sound := by
  obtain ⟨context, args, constructed⟩ := opened.constructed
  obtain ⟨numbers, remaining, found, left, built⟩ :=
    (analyzeTrade_eq_ok_iff _ _ _).mp (analyzed_of_new constructed)
  obtain ⟨filled, paid⟩ := filled_of_untouched opened.sent opened.recv
  have untouched : trade.amount.sub trade.filled = .ok trade.remaining := by
    rw [← remainingOf_eq, ← built]
    exact left
  refine ⟨?_, untouched, ?_, ?_⟩
  · rw [← built]
    exact mul_of_priceNumbers found
  · rw [paid, C.val_zero]
    exact Nat.zero_le _
  · rw [opened.is_open]
    refine ⟨fun impossible => (by cases impossible), fun empty => ?_⟩
    have kept := (C.val_sub untouched).2
    rw [empty, filled, C.val_zero, Nat.sub_zero] at kept
    exact absurd ((C.eq_zero_iff _).mpr kept.symm) opened.amount_ne_zero

namespace TradeHeap

/-- The match of two trades under the precision of the moment. -/
structure MatchCall where
  context : TradeContext
  self : TradeRef
  other : TradeRef

/-- The trades after `self / other`, also when it raises. -/
def matchStep (heap : TradeHeap) (call : MatchCall) : TradeHeap :=
  (heap.divide call.context call.self call.other).state

/-- A buyer and a seller of the book are matched at a price the buyer
offers. -/
def Crosses
    (book : Finset TradeRef)
    (heap : TradeHeap)
    (call : MatchCall) : Prop :=
  ∃ buy sell, (heap call.self).buySell call.self call.other = (buy, sell) ∧
    buy ∈ book ∧ sell ∈ book ∧
    (heap buy).action = .buy ∧ (heap sell).action = .sell ∧
    (heap sell).ppc ≤ (heap buy).ppc

/-- What the trades of a book with some action add up to. -/
def sumOver
    (book : Finset TradeRef)
    (heap : TradeHeap)
    (action : Action)
    (amount : Trade → C) : Nat :=
  ∑ ref ∈ book with (heap ref).action = action, (amount (heap ref)).val

/-- Value is conserved among the trades of a book, and their attributes agree
with it. -/
structure Conserved (book : Finset TradeRef) (heap : TradeHeap) : Prop where
  base : sumOver book heap .buy Trade.recv = sumOver book heap .sell Trade.sent
  quote : sumOver book heap .buy Trade.sent = sumOver book heap .sell Trade.recv
  remaining : ∀ ref ∈ book,
    remainingOf (heap ref).action (heap ref).amount (heap ref).sent
      (heap ref).recv = .ok (heap ref).remaining
  closed_iff : ∀ ref ∈ book,
    (heap ref).status = .closed ↔ (heap ref).remaining = 0
  sent_le_total : ∀ ref ∈ book,
    (heap ref).action = .buy → (heap ref).sent ≤ (heap ref).total

/-- A sum over one action as a sum over the book. -/
theorem sumOver_eq
    (book : Finset TradeRef)
    (heap : TradeHeap)
    (action : Action)
    (amount : Trade → C) :
    sumOver book heap action amount =
      ∑ ref ∈ book, if (heap ref).action = action then
        (amount (heap ref)).val else 0 :=
  sum_filter _ _

/-- A trade that was filled adds to the sums over its side. -/
theorem sumOver_of_filledBy
    {book : Finset TradeRef}
    {heap after : TradeHeap}
    {ref : TradeRef}
    {change value : Nat}
    (member : ref ∈ book)
    (filledBy : (heap ref).FilledBy (after ref) change value)
    (terms : ∀ other, (after other).terms = (heap other).terms)
    (elsewhere : ∀ other, other ≠ ref →
      (heap other).action = (heap ref).action → after other = heap other) :
    sumOver book after (heap ref).action Trade.filled =
        sumOver book heap (heap ref).action Trade.filled + change ∧
      sumOver book after (heap ref).action Trade.paid =
        sumOver book heap (heap ref).action Trade.paid + value := by
  have actions (other : TradeRef) :
      (after other).action = (heap other).action :=
    congrArg TradeTerms.action (terms other)
  have grows
      {amount : Trade → C}
      {growth : Nat}
      (there : (amount (after ref)).val = (amount (heap ref)).val + growth) :
      sumOver book after (heap ref).action amount =
        sumOver book heap (heap ref).action amount + growth := by
    rw [sumOver_eq, sumOver_eq]
    apply sum_of_grown member
    · rw [actions, if_pos rfl, if_pos rfl]
      exact there
    · intro other different
      rw [actions]
      split
      next same => rw [elsewhere other different same]
      · rfl
  exact ⟨grows filledBy.filled, grows filledBy.paid⟩

/-- As much was filled of the buyers as of the sellers, and paid likewise. -/
structure Balanced (book : Finset TradeRef) (heap : TradeHeap) : Prop where
  filled : sumOver book heap .buy Trade.filled =
    sumOver book heap .sell Trade.filled
  paid : sumOver book heap .buy Trade.paid = sumOver book heap .sell Trade.paid
  sound : ∀ ref ∈ book, (heap ref).Sound

theorem Balanced.matchStep
    {book : Finset TradeRef}
    {heap : TradeHeap}
    (balanced : Balanced book heap)
    {call : MatchCall}
    (crosses : Crosses book heap call) :
    Balanced book (matchStep heap call) := by
  obtain ⟨buy, sell, sides, buy_mem, sell_mem, buys, sells, price⟩ := crosses
  have matching : heap.Matching buy sell :=
    ⟨buys, sells, balanced.sound buy buy_mem, balanced.sound sell sell_mem,
      price⟩
  rcases divide_state_cases call.context sides matching with same | exchanged
  · rw [TradeHeap.matchStep, same]
    exact balanced
  · have bought := sumOver_of_filledBy buy_mem exchanged.buyer
      exchanged.terms fun other not_buy acts =>
        exchanged.others other not_buy fun is_sell => by
          rw [is_sell, sells, buys] at acts
          cases acts
    have sold := sumOver_of_filledBy sell_mem exchanged.seller
      exchanged.terms fun other not_sell acts =>
        exchanged.others other (fun is_buy => by
          rw [is_buy, sells, buys] at acts
          cases acts) not_sell
    rw [buys] at bought
    rw [sells] at sold
    refine ⟨?_, ?_, fun ref member => ?_⟩
    · exact bought.1.trans
        ((congrArg (· + _) balanced.filled).trans sold.1.symm)
    · exact bought.2.trans
        ((congrArg (· + _) balanced.paid).trans sold.2.symm)
    · exact exchanged.sound matching (balanced.sound ref member)

/-- The sums over what was filled and paid, by their attributes. -/
theorem sumOver_attributes (book : Finset TradeRef) (heap : TradeHeap) :
    sumOver book heap .buy Trade.filled = sumOver book heap .buy Trade.recv ∧
      sumOver book heap .buy Trade.paid = sumOver book heap .buy Trade.sent ∧
      sumOver book heap .sell Trade.filled =
        sumOver book heap .sell Trade.sent ∧
      sumOver book heap .sell Trade.paid =
        sumOver book heap .sell Trade.recv := by
  have same
      {action : Action}
      {first second : Trade → C}
      (agree : ∀ trade : Trade, trade.action = action →
        first trade = second trade) :
      sumOver book heap action first = sumOver book heap action second := by
    apply sum_congr rfl
    intro ref member
    rw [agree _ (mem_filter.mp member).2]
  refine ⟨same ?_, same ?_, same ?_, same ?_⟩
  · intro trade buys
    rw [Trade.filled, buys]
  · intro trade buys
    rw [Trade.paid, buys]
  · intro trade sells
    rw [Trade.filled, sells]
  · intro trade sells
    rw [Trade.paid, sells]

theorem Balanced.conserved
    {book : Finset TradeRef}
    {heap : TradeHeap}
    (balanced : Balanced book heap) :
    Conserved book heap := by
  obtain ⟨buy_filled, buy_paid, sell_filled, sell_paid⟩ :=
    sumOver_attributes book heap
  refine ⟨?_, ?_, ?_, ?_, ?_⟩
  · rw [← buy_filled, ← sell_filled]
    exact balanced.filled
  · rw [← buy_paid, ← sell_paid]
    exact balanced.paid
  · intro ref member
    rw [Trade.remainingOf_eq]
    exact (balanced.sound ref member).remaining
  · intro ref member
    exact (balanced.sound ref member).closed_iff
  · intro ref member buys
    have paid_le := (balanced.sound ref member).paid_le_total
    rw [Trade.paid, buys] at paid_le
    rw [C.le_iff]
    exact paid_le

theorem balanced_of_opened
    {pair : CurrencyPair}
    {book : Finset TradeRef}
    {heap : TradeHeap}
    (opened : ∀ ref ∈ book, (heap ref).Opened pair) :
    Balanced book heap := by
  have none
      (action : Action)
      {amount : Trade → C}
      (empty : ∀ trade : Trade, trade.Opened pair → amount trade = 0) :
      sumOver book heap action amount = 0 := by
    apply sum_eq_zero
    intro ref member
    rw [empty _ (opened ref (mem_filter.mp member).1), C.val_zero]
  have untouched (trade : Trade) (fresh : trade.Opened pair) :
      trade.filled = 0 ∧ trade.paid = 0 :=
    Trade.filled_of_untouched fresh.sent fresh.recv
  refine ⟨?_, ?_, fun ref member => (opened ref member).sound⟩
  · rw [none _ fun trade fresh => (untouched trade fresh).1,
      none _ fun trade fresh => (untouched trade fresh).1]
  · rw [none _ fun trade fresh => (untouched trade fresh).2,
      none _ fun trade fresh => (untouched trade fresh).2]

/-- However the trades of a book are matched, value is conserved. -/
theorem matches_conserve
    {pair : CurrencyPair}
    {book : Finset TradeRef}
    {heap : TradeHeap}
    (opened : ∀ ref ∈ book, (heap ref).Opened pair)
    {calls : List MatchCall}
    (crosses : Machine.Allowed matchStep (Crosses book) heap calls) :
    Conserved book (Machine.run matchStep heap calls) :=
  Balanced.conserved
    (Machine.invariant_run matchStep
      (fun _ _ balanced crosses => balanced.matchStep crosses)
      (balanced_of_opened opened) crosses)

end TradeHeap

namespace Sample

/-- An open trade of bitcoins for litecoins, as the constructor returns it. -/
def openTrade (action : Action) (amount ppc total : C) : Trade where
  action := action
  pair := bitcoinLitecoin
  amount := amount
  ppc := ppc
  total := total
  orderHash := ""
  sent := 0
  recv := 0
  remaining := amount
  fees := 0
  destIp := ""
  recvAddr := ""
  status := .open
  flipped := false

theorem openTrade_opened
    {action : Action}
    {amount ppc total : C}
    (product : amount.mul ppc = .ok total)
    (amount_ne_zero : amount ≠ 0) :
    (openTrade action amount ppc total).Opened bitcoinLitecoin where
  constructed := by
    have straight : ¬bitcoinLitecoin.Flips :=
      CurrencyPair.not_flips_of_lt (by decide +kernel)
    refine ⟨bookContext,
      { action, amount, ppc, pair := bitcoinLitecoin, status := .open }, ?_⟩
    change Trade.analyzeTrade _ _ = _
    rw [Trade.analyzeTrade_eq_ok_iff]
    refine ⟨(amount, ppc, total), amount, ?_, ?_, ?_⟩
    · exact (Trade.priceNumbers_eq_ok_iff_of_straight straight _).mpr
        ⟨total, product, rfl⟩
    · exact remainingOf_untouched _ _
    · simp only [Trade.analysedTrade, Trade.TradeArgs.analysedAction,
        if_neg straight, decide_eq_false straight]
      rfl
  on_pair := rfl
  is_open := rfl
  amount_ne_zero := amount_ne_zero
  sent := rfl
  recv := rfl

/-- A seller of three coins at two, and buyers of one and of five coins. -/
def matchHeap : TradeHeap
  | 0 => openTrade .sell (C.coins 3) (C.coins 2) (C.coins 6)
  | 1 => openTrade .buy (C.coins 1) (C.coins 3) (C.coins 3)
  | _ => openTrade .buy (C.coins 5) (C.coins 2) (C.coins 10)

end Sample

/-- The seller is matched with both buyers. -/
theorem matchHeap_conserves :
    TradeHeap.Conserved {0, 1, 2}
      (Machine.run TradeHeap.matchStep Sample.matchHeap
        [⟨Sample.bookContext, 0, 1⟩, ⟨Sample.bookContext, 2, 0⟩]) := by
  apply @TradeHeap.matches_conserve Sample.bitcoinLitecoin
  · intro ref member
    simp only [Finset.mem_insert, Finset.mem_singleton] at member
    rcases member with rfl | rfl | rfl
    · exact Sample.openTrade_opened (by decide +kernel) (by decide)
    · exact Sample.openTrade_opened (by decide +kernel) (by decide)
    · exact Sample.openTrade_opened (by decide +kernel) (by decide)
  · refine ⟨⟨1, 0, ?_⟩, ⟨2, 0, ?_⟩, trivial⟩
    · decide +kernel
    · decide +kernel

end Coinbend
