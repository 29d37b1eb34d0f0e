import Coinbend.Protocol.MainLoop
import Coinbend.Protocol.MatchOrder

/-!
# Trading nodes

A node that opens trades and handles orders and matches next to the messages
of the microtransfer protocol.
-/

namespace Coinbend
namespace Protocol

/-- What happens to a trading node. -/
inductive TradingEvent (Hex : Type)
  | protocol (event : Event Hex)
  /-- The deposit of a new trade confirmed. -/
  | openTrade (trade : Trade) (factory : MicrotransferFactory Hex)
  /-- The main loop meets a trade whose deposit confirmed. -/
  | announce (trade : TradeRef) (answers : NewOrderAnswers)
  | openOrder (now : Time) (msg : OpenOrderMsg) (answers : OrderAnswers Hex)
  | matchOrder
      (arrival : Arrival)
      (msg : MatchOrderMsg)
      (answers : OrderAnswers Hex)

variable {Hex : Type} (env : MarketEnv Hex)

/-- The callback of a green address deposit, which lists the trade. -/
def listTrade
    (node : Node Hex)
    (trade : Trade)
    (factory : MicrotransferFactory Hex) : Node Hex :=
  let ref := node.nextTrade
  { node.newTrade { trade with status := .greenAddressDepositConfirm } with
    trades := ref :: node.trades
    matchTable := Function.update node.matchTable ref ∅
    factory := Function.update node.factory ref factory
    openMsg := Function.update node.openMsg ref none }

/-- "Send open order to network": a seller's trade gets an order, and every
trade opens. -/
def announceTrade
    (answers : NewOrderAnswers)
    (node : Node Hex)
    (trade : TradeRef) : Outcome (Node Hex) PyError Unit :=
  if trade ∉ node.trades ∨
      (node.heap trade).status ≠ .greenAddressDepositConfirm then
    Outcome.pure node ()
  else
    (match node.actor trade with
      | .seller =>
          (registerOrder env answers node trade).bind fun node _ =>
          Outcome.pure node ()
      | .buyer => Outcome.pure node ()).bind fun node _ =>
    Outcome.pure
      { node with
        heap := node.heap.modify trade fun found =>
          { found with status := .open } } ()

/-- Handle a `match_order` message. -/
def handleMatchOrder
    (node : Node Hex)
    (arrival : Arrival)
    (msg : MatchOrderMsg)
    (answers : OrderAnswers Hex) : Node Hex :=
  understand arrival.con (parseMatchOrder env node arrival msg answers)

/-- One event.  The replies of `parse_open_order` go to the network as a whole
and are not kept. -/
def tradingStep (node : Node Hex) (event : TradingEvent Hex) : Node Hex :=
  if node.halted then node else
  match event with
  | .protocol event => step env.toProtocolEnv node event
  | .openTrade trade factory => listTrade node trade factory
  | .announce trade answers =>
      runUncaught (announceTrade env answers node trade)
  | .openOrder now msg answers =>
      (parseOpenOrder env node now msg answers).state
  | .matchOrder arrival msg answers =>
      handleMatchOrder env node arrival msg answers

end Protocol
end Coinbend
