import Coinbend.Currency.Defs
import Coinbend.Library.DecimalRounding

/-!
# Trades

`CurrencyPair` and `Trade` of `trade_type.py`.  A constructed trade is always
analysed: its pair is sorted, its total is `amount * ppc` and `remaining` is
what the matches so far have left open.
-/

namespace Coinbend

inductive Action
  | buy
  | sell
  deriving DecidableEq, Repr

/-- `trade.actor`: the action with `"er"` appended. -/
inductive Actor
  | buyer
  | seller
  deriving DecidableEq, Repr

def Action.actor : Action → Actor
  | .buy => .buyer
  | .sell => .seller

/-- `Trade.toggle_action`. -/
def Action.toggle : Action → Action
  | .buy => .sell
  | .sell => .buy

/-- The values of `trade.status` this code assigns. -/
inductive TradeStatus
  | pendingGreenAddressDeposit
  | greenAddressDepositConfirm
  | «open»
  | closed
  | microtransferComplete
  deriving DecidableEq, Repr

/-- Two lower-case currency names. -/
structure CurrencyPair where
  base : String
  quote : String
  deriving DecidableEq

def CurrencyPair.flip (pair : CurrencyPair) : CurrencyPair where
  base := pair.quote
  quote := pair.base

/-- `order_pair`: the two names in alphabetical order. -/
def orderPair (pair : CurrencyPair) : CurrencyPair :=
  if pair.base ≤ pair.quote then pair else pair.flip

/-- `decimal.getcontext().prec` and the library checks the `Trade`
constructor calls. -/
structure TradeContext where
  prec : Nat
  isIpValid : String → Bool
  /-- `deconstruct_address(addr)["is_valid"]`. -/
  isAddressValid : String → Bool

/-- Arguments of the `Trade` constructor with their defaults. -/
structure TradeArgs where
  action : Action
  amount : C
  pair : CurrencyPair
  ppc : C
  orderHash : String := ""
  sent : C := 0
  recv : C := 0
  fees : C := 0
  destIp : String := ""
  recvAddr : String := ""
  status : TradeStatus := .pendingGreenAddressDeposit

/-- An analysed trade. -/
structure Trade where
  action : Action
  pair : CurrencyPair
  amount : C
  ppc : C
  total : C
  orderHash : String
  sent : C
  recv : C
  remaining : C
  fees : C
  destIp : String
  recvAddr : String
  status : TradeStatus
  flipped : Bool
  deriving DecidableEq

namespace Trade

def actor (trade : Trade) : Actor :=
  trade.action.actor

/-- What the trade gives: the total for a buyer, the amount for a seller. -/
def toSend (trade : Trade) : C :=
  match trade.action with
  | .buy => trade.total
  | .sell => trade.amount

/-- What the trade receives: the amount for a buyer, the total for a
seller. -/
def toRecv (trade : Trade) : C :=
  match trade.action with
  | .buy => trade.amount
  | .sell => trade.total

/-- `trade.to_send.currency`. -/
def sendCurrency (trade : Trade) : String :=
  match trade.action with
  | .buy => trade.pair.quote
  | .sell => trade.pair.base

/-- `trade.to_recv.currency`. -/
def recvCurrency (trade : Trade) : String :=
  match trade.action with
  | .buy => trade.pair.base
  | .sell => trade.pair.quote

/-- `Decimal / Decimal` under the context's precision. -/
def divideDecimals (prec : Nat) (x y : ℚ) : Except PyError ℚ :=
  if y = 0 then .error (if x = 0 then .invalidOperation else .zeroDivision)
  else .ok (DecimalRounding.roundDigits prec (x / y))

/-- `analyze_trade`.  A product that overflows leaves the Python object
without its analysed attributes; reading the first of them raises, which the
model brings forward to the constructor. -/
def analyzeTrade (context : TradeContext) (args : TradeArgs) :
    Except PyError Trade := do
  let total ← (args.amount.mul args.ppc).mapError fun _ => .attributeError
  let flip := args.pair.flip = orderPair args.pair.flip
  let action := if flip then args.action.toggle else args.action
  let pair := if flip then args.pair.flip else args.pair
  let amount := if flip then total else args.amount
  let ppc ←
    if flip then
      divideDecimals context.prec args.amount.asDecimal total.asDecimal
        >>= C.ofDecimal
    else pure args.ppc
  let total ← if flip then amount.mul ppc else pure total
  let remaining ←
    match action with
    | .buy => amount.sub args.recv
    | .sell => amount.sub args.sent
  return {
    action, pair, amount, ppc, total, remaining
    orderHash := args.orderHash
    sent := args.sent
    recv := args.recv
    fees := args.fees
    destIp := args.destIp
    recvAddr := args.recvAddr
    status := args.status
    flipped := flip }

/-- The `Trade` constructor. -/
def new (context : TradeContext) (args : TradeArgs) : Except PyError Trade :=
  if args.destIp ≠ "" ∧ context.isIpValid args.destIp = false then
    .error (.exception "Invalid direct IP entered for trade.")
  else if args.recvAddr ≠ "" ∧
      context.isAddressValid args.recvAddr = false then
    .error (.exception "Invalid recv address for trade.")
  else analyzeTrade context args

/-- `Trade.copy`: construct the trade again from its own fields. -/
def copy (context : TradeContext) (trade : Trade) : Except PyError Trade :=
  new context {
    action := trade.action
    amount := trade.amount
    pair := trade.pair
    ppc := trade.ppc
    orderHash := trade.orderHash
    sent := trade.sent
    recv := trade.recv
    fees := trade.fees
    destIp := trade.destIp
    recvAddr := trade.recvAddr
    status := trade.status }

/-- `Trade.buy_sell`: a buying `self` comes first, otherwise `other` does. -/
def buySell {α : Type} (self : Trade) (a b : α) : α × α :=
  match self.actor with
  | .buyer => (a, b)
  | .seller => (b, a)

/-- `Trade.__eq__`: equal trades are trades that can be matched. -/
def matchable (self other : Trade) : Bool :=
  let (buy, sell) := buySell self self other
  if self.status ≠ .open ∨ other.status ≠ .open then false
  else if self.pair ≠ other.pair then false
  else if self.action = other.action then false
  else if buy.ppc < sell.ppc then false
  else if buy.amount ≠ sell.amount then false
  else if self.remaining = 0 ∨ other.remaining = 0 then false
  else true

/-- `Trade.__sub__`: the trade that leads from `other` to `self`. -/
def difference (context : TradeContext) (self other : Trade) :
    Except PyError Trade := do
  let amount ←
    match self.action with
    | .buy => self.recv.sub other.recv
    | .sell => self.sent.sub other.sent
  new context {
    action := self.action
    amount
    pair := self.pair
    ppc := self.ppc
    orderHash := self.orderHash }

end Trade
end Coinbend
