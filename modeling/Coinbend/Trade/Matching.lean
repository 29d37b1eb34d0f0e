import Coinbend.Library.Outcome
import Coinbend.Trade.Defs
import Mathlib.Logic.Function.Basic

/-!
# Matching and unmatching trades

`Trade.__truediv__` and `Trade.__mul__` change both operands in place, and the
operands may be one object.  Trades therefore live in a heap and the two
operations work on references.
-/

namespace Coinbend

abbrev TradeRef := Nat

/-- The trade objects of the process. -/
abbrev TradeHeap := TradeRef → Trade

/-- `sent = recv = C("0")`. -/
def Trade.clear (trade : Trade) : Trade :=
  { trade with sent := 0, recv := 0 }

namespace TradeHeap

/-- Store an amount computed from the trades in one field of a trade. -/
def assign
    (heap : TradeHeap)
    (ref : TradeRef)
    (value : Except PyError C)
    (store : Trade → C → Trade) : Outcome TradeHeap PyError Unit :=
  Outcome.attempt heap value fun amount =>
    Outcome.pure (Function.update heap ref (store (heap ref) amount)) ()

/-- Overwrite one trade. -/
def modify
    (heap : TradeHeap)
    (ref : TradeRef)
    (change : Trade → Trade) : TradeHeap :=
  Function.update heap ref (change (heap ref))

/-- `buy.remaining = buy.amount - buy.recv`. -/
def refreshBuy (heap : TradeHeap) (buy : TradeRef) :
    Outcome TradeHeap PyError Unit :=
  heap.assign buy ((heap buy).amount.sub (heap buy).recv)
    fun trade amount => { trade with remaining := amount }

/-- `sell.remaining = sell.amount - sell.sent`. -/
def refreshSell (heap : TradeHeap) (sell : TradeRef) :
    Outcome TradeHeap PyError Unit :=
  heap.assign sell ((heap sell).amount.sub (heap sell).sent)
    fun trade amount => { trade with remaining := amount }

/-- `self / other`: match two trades and return the trade that moved. -/
def divide
    (context : TradeContext)
    (heap : TradeHeap)
    (self other : TradeRef) : Outcome TradeHeap PyError Trade :=
  Outcome.attempt heap ((heap self).copy context) fun oldSelf =>
  Outcome.attempt heap ((heap other).copy context) fun _ =>
  let (buy, sell) := (heap self).buySell self other
  let buyRemaining := (heap buy).remaining
  let sellRemaining := (heap sell).remaining
  let change :=
    if sellRemaining < buyRemaining then sellRemaining else buyRemaining
  let closeBuy : Bool := buyRemaining ≤ sellRemaining
  let closeSell : Bool := sellRemaining ≤ buyRemaining
  Outcome.attempt heap (change.mul (heap sell).ppc) fun tradeValue =>
  (heap.assign buy ((heap buy).recv.add change)
    fun trade amount => { trade with recv := amount }).bind fun heap _ =>
  (heap.assign buy ((heap buy).sent.add tradeValue)
    fun trade amount => { trade with sent := amount }).bind fun heap _ =>
  (heap.refreshBuy buy).bind fun heap _ =>
  (heap.assign sell ((heap sell).sent.add change)
    fun trade amount => { trade with sent := amount }).bind fun heap _ =>
  (heap.assign sell ((heap sell).recv.add tradeValue)
    fun trade amount => { trade with recv := amount }).bind fun heap _ =>
  (heap.refreshSell sell).bind fun heap _ =>
  let heap :=
    if closeBuy then heap.modify buy fun trade =>
      { trade with status := .closed }
    else heap
  let heap :=
    if closeSell then heap.modify sell fun trade =>
      { trade with status := .closed }
    else heap
  Outcome.attempt heap ((heap self).difference context oldSelf) fun moved =>
  -- Only the price is replaced: the total stays the one computed with the
  -- price of `self`.
  Outcome.pure heap { moved with ppc := (heap sell).ppc }

/-- First case of `__mul__`: the sell trade had partially filled the buy
trade.  The flag says that the sell trade reopens. -/
def undoSell (heap : TradeHeap) (buy sell : TradeRef) :
    Outcome TradeHeap PyError Bool :=
  if (heap sell).recv < (heap buy).sent then
    (heap.assign buy ((heap buy).sent.sub (heap sell).recv)
      fun trade amount => { trade with sent := amount }).bind fun heap _ =>
    (heap.assign buy ((heap buy).recv.sub (heap sell).sent)
      fun trade amount => { trade with recv := amount }).bind fun heap _ =>
    Outcome.pure (heap.modify sell Trade.clear) true
  else Outcome.pure heap false

/-- Second case of `__mul__`: the buy trade had partially filled the sell
trade.  The flag says that the buy trade reopens. -/
def undoBuy (heap : TradeHeap) (buy sell : TradeRef) :
    Outcome TradeHeap PyError Bool :=
  if (heap buy).sent < (heap sell).recv then
    (heap.assign sell ((heap sell).sent.sub (heap buy).recv)
      fun trade amount => { trade with sent := amount }).bind fun heap _ =>
    (heap.assign sell ((heap sell).recv.sub (heap buy).sent)
      fun trade amount => { trade with recv := amount }).bind fun heap _ =>
    Outcome.pure (heap.modify buy Trade.clear) true
  else Outcome.pure heap false

/-- `self * other`: undo a match of two trades. -/
def multiply
    (context : TradeContext)
    (heap : TradeHeap)
    (self other : TradeRef) : Outcome TradeHeap PyError Trade :=
  let (buy, sell) := (heap self).buySell self other
  Outcome.attempt heap ((heap self).copy context) fun oldSelf =>
  Outcome.attempt heap ((heap other).copy context) fun _ =>
  (heap.undoSell buy sell).bind fun heap openSell =>
  (heap.undoBuy buy sell).bind fun heap openBuy =>
  -- The comparison runs on the amounts the two cases above left.
  let both : Bool := (heap buy).sent = (heap sell).recv
  let heap :=
    if both then (heap.modify buy Trade.clear).modify sell Trade.clear
    else heap
  (heap.refreshBuy buy).bind fun heap _ =>
  (heap.refreshSell sell).bind fun heap _ =>
  let heap :=
    if openBuy || both then heap.modify buy fun trade =>
      { trade with status := .open }
    else heap
  let heap :=
    if openSell || both then heap.modify sell fun trade =>
      { trade with status := .open }
    else heap
  Outcome.attempt heap (oldSelf.difference context (heap self)) fun moved =>
  Outcome.pure heap moved

end TradeHeap

/-! ## Terms

What a trade was opened with.  Matching and unmatching only move amounts
between what is sent, received and open. -/

/-- What a trade was opened with. -/
structure TradeTerms where
  action : Action
  pair : CurrencyPair
  amount : C
  ppc : C
  deriving DecidableEq

/-- The terms of a trade. -/
def Trade.terms (trade : Trade) : TradeTerms where
  action := trade.action
  pair := trade.pair
  amount := trade.amount
  ppc := trade.ppc

namespace TradeHeap

/-- The terms of every trade. -/
def terms (heap : TradeHeap) : TradeRef → TradeTerms :=
  fun ref => (heap ref).terms

theorem terms_update
    (heap : TradeHeap)
    (ref : TradeRef)
    {trade : Trade}
    (same : trade.terms = (heap ref).terms) :
    terms (Function.update heap ref trade) = heap.terms := by
  funext other
  by_cases equal : other = ref
  · subst equal
    simp [terms, same]
  · simp [terms, Function.update_of_ne equal]

theorem terms_modify
    (heap : TradeHeap)
    (ref : TradeRef)
    {change : Trade → Trade}
    (same : ∀ trade, (change trade).terms = trade.terms) :
    (heap.modify ref change).terms = heap.terms :=
  terms_update heap ref (same _)

end TradeHeap
end Coinbend
