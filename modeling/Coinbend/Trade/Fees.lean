import Coinbend.Trade.Analysis

/-!
# Trade fees

`apply_trade_fee` and `remove_fees` of `trade_type.py`: a fee is taken out of
what a trade sends, and the trade is analysed again.
-/

namespace Coinbend
namespace Trade

/-- The constructor arguments a trade was analysed from. -/
def args (trade : Trade) : TradeArgs where
  action := trade.action
  amount := trade.amount
  pair := trade.pair
  ppc := trade.ppc
  orderHash := trade.orderHash
  sent := trade.sent
  recv := trade.recv
  fees := trade.fees
  destIp := trade.destIp
  recvAddr := trade.recvAddr
  status := trade.status

/-- `self.amount * self.ppc` raises. -/
def totalOverflows (trade : Trade) : Bool :=
  (trade.amount.mul trade.ppc).isOk = false

/-- `self.analyze_trade()` on a trade that is already analysed.  When the
product overflows the method returns and the trade keeps what it had. -/
def reanalyze (context : TradeContext) (trade : Trade) :
    Except PyError Trade :=
  if trade.totalOverflows then .ok trade else analyzeTrade context trade.args

/-- Change what a trade sends; a buyer's amount follows its total. -/
def withToSend (context : TradeContext) (trade : Trade) (toSend : C) :
    Except PyError Trade :=
  match trade.action with
  | .buy => do
      let amount ←
        divideDecimals context.prec toSend.asDecimal trade.ppc.asDecimal
          >>= C.ofDecimal
      return { trade with total := toSend, amount }
  | .sell => .ok { trade with amount := toSend }

/-- `apply_fee`. -/
def applyFee (context : TradeContext) (trade : Trade) (fee : C) :
    Except PyError Trade := do
  if fee = 0 then return trade
  Except.raiseIf (trade.toSend < fee) (.exception "Fee are too high.")
  let left ← trade.toSend.sub fee
  let trade ← withToSend context trade left
  let fees ← trade.fees.add fee
  reanalyze context { trade with sent := 0, recv := 0, fees }

/-- `apply_trade_fee` with its default flags. -/
def applyTradeFee (context : TradeContext) (trade : Trade) (tradeFee : C) :
    Except PyError Trade :=
  trade.toSend.mul tradeFee >>= applyFee context trade

/-- `remove_fees` without an argument: put all fees back. -/
def removeFees (context : TradeContext) (trade : Trade) :
    Except PyError Trade := do
  if trade.fees = 0 then return trade
  let whole ← trade.toSend.add trade.fees
  let trade ← withToSend context trade whole
  let fees ← trade.fees.sub trade.fees
  reanalyze context { trade with sent := 0, recv := 0, fees }

end Trade
end Coinbend
