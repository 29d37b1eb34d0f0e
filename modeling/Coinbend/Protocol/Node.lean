import Coinbend.Microtransfer.AdjustRefund
import Coinbend.Microtransfer.State
import Coinbend.Protocol.Match
import Coinbend.Protocol.Payload
import Coinbend.Trade.Matching

/-!
# Nodes

The state of a running node: its trades, matches and contract factories, the
order book, queued replies and what was sent.  Trades and match states are
shared between tables, so they live in heaps and are named by references; a
contract factory belongs to one trade and is named by it.
-/

namespace Coinbend

abbrev MatchHash := String
abbrev MatchRef := Nat

/-- A connection to another node. -/
abbrev Con := Nat

/-- An order, ours or of the order book.  One of ours shares the green address
of the trade it was opened for. -/
structure OrderType where
  orderHash : OrderHash
  trade : TradeRef
  ecdsa1 : PubKey
  ecdsa2 : PubKey
  greenAddress : Option TradeRef
  deriving DecidableEq

/-- The fields of an `open_order` message. -/
structure OpenOrderFields where
  ntp : Nat
  action : Action
  pair : CurrencyPair
  amount : C
  ppc : C
  routes : List String
  depositTxid : Txid
  address : Address
  pubKey1 : String
  pubKey2 : String
  serverPubKey : String
  deriving DecidableEq

/-- The fields of a `match_order` message.  The match hash of a first match is
`"0"`, a calibrated reply names the match it answers. -/
structure MatchOrderFields extends OpenOrderFields where
  orderHash : OrderHash
  matchHash : MatchHash
  inputs : List Nat
  deriving DecidableEq

/-- A message with two signatures and a proof of work.  `text` is what the
signatures are for. -/
structure PostedMsg (Fields : Type) where
  fields : Fields
  text : String
  sig1 : String
  sig2 : String
  nonce : Nat
  deriving DecidableEq

abbrev OpenOrderMsg := PostedMsg OpenOrderFields
abbrev MatchOrderMsg := PostedMsg MatchOrderFields

/-- A line sent to another node. -/
inductive Line (Hex : Type)
  | message (message : Message Hex)
  | openOrder (message : OpenOrderMsg)
  | matchOrder (message : MatchOrderMsg)
  | text (text : String)
  deriving DecidableEq

/-- A reply queued for its source.  With a status checker it waits until the
match it refers to can enter `pending_buyer_get_refund_sig`. -/
structure HybridReply (Hex : Type) where
  lines : List (Line Hex)
  statusChecker : Option MatchRef
  sourceCon : Con
  deriving DecidableEq

/-- `MatchState`. -/
structure MatchState (Hex : Type) where
  state : Option ProtocolState
  checkedState : Option ProtocolState
  stateUpdated : Option Time
  matchSent : Option (MatchType Hex)
  matchReply : Option (MatchType Hex)
  order : Option OrderType
  contract : Option ParsedContract
  contractHash : Option ContractHash
  ourHandshakeMsg : Option (Message Hex)
  theirHandshakeMsg : Option (Message Hex)
  toSend : Option Trade
  toRecv : Option Trade
  con : Option Con
  deriving DecidableEq

/-- The closure that waits for a setup transaction to confirm. -/
structure SetupWatch where
  trade : TradeRef
  matched : MatchRef
  deriving DecidableEq

/-- A running node. -/
structure Node (Hex : Type) where
  /-- `trade_engine.trades`. -/
  trades : List TradeRef
  heap : TradeHeap
  nextTrade : TradeRef
  /-- `trade.matches`. -/
  matchTable : TradeRef → Dict MatchHash MatchRef
  matchState : MatchRef → MatchState Hex
  nextMatch : MatchRef
  /-- `trade.contract_factory`; a trade is listed only once it has one. -/
  factory : TradeRef → MicrotransferFactory Hex
  /-- `order_book.orders`. -/
  orderBook : List OrderType
  /-- The orders in the database. -/
  orderRows : Dict OrderHash OrderType
  /-- `trade.open_msg`. -/
  openMsg : TradeRef → Option OpenOrderMsg
  hybridReplies : List (HybridReply Hex)
  setupWatches : List SetupWatch
  /-- Contracts whose redeem transaction is being watched. -/
  redeemWatches : List ContractHash
  /-- The variable `matched` of the main loop. -/
  loopMatched : Option MatchRef
  sent : List (Con × Line Hex)
  /-- `getcontext().prec`. -/
  prec : Nat
  /-- An exception or `exit()` ended the main loop. -/
  halted : Bool

/-- What the protocol code runs with. -/
structure ProtocolEnv (Hex : Type) where
  lib : BitcoinLib Hex
  mktimeAfter : Nat → Nat → Nat
  ecdsa : Ecdsa
  config : Config
  coins : String → Option CoinConfig
  isIpValid : String → Bool
  /-- SHA-256 of a contract message. -/
  sha256 : ContractMsg → ContractHash
  /-- What `understand` calls `parse_msg` with. -/
  parser : MsgParser
  /-- A serialised transaction as a hexadecimal text. -/
  hexText : Hex → Text

namespace ProtocolEnv

variable {Hex : Type} (env : ProtocolEnv Hex)

/-- The environment of the contract code in a node. -/
def micro (prec : Nat) : MicrotransferEnv Hex where
  lib := env.lib
  prec := prec
  mktimeAfter := env.mktimeAfter

/-- The environment of the `Trade` constructor in a node. -/
def tradeContext (prec : Nat) : TradeContext where
  prec := prec
  isIpValid := env.isIpValid
  isAddressValid := addressIsValid env.lib

/-- The text of a message sent at a network time. -/
def messageText (ntp : Nat) (payload : Payload Hex) : String :=
  String.ofList (payload.text env.parser.version ntp env.hexText)

/-- A signed message: the common end of `new_get_refund_sig`,
`new_return_refund_sig`, `new_get_setup_tx`, `new_return_setup_tx`,
`new_return_adjusted_refund` and `new_shake_on_it`. -/
def newMessage (ntp : Nat) (payload : Payload Hex) (ecdsa1 : PubKey) :
    Message Hex where
  payload := payload
  text := env.messageText ntp payload
  sig := env.ecdsa.sign ecdsa1 (env.messageText ntp payload)

end ProtocolEnv

namespace Node

variable {Hex : Type}

/-! ## Reading and writing -/

/-- `our_trade.actor`. -/
def actor (node : Node Hex) (trade : TradeRef) : Actor :=
  (node.heap trade).actor

/-- Change one match state. -/
def modifyMatch
    (node : Node Hex)
    (matched : MatchRef)
    (change : MatchState Hex → MatchState Hex) : Node Hex :=
  { node with
    matchState := Function.update node.matchState matched
      (change (node.matchState matched)) }

/-- Change one contract factory. -/
def modifyFactory
    (node : Node Hex)
    (trade : TradeRef)
    (change : MicrotransferFactory Hex → MicrotransferFactory Hex) :
    Node Hex :=
  { node with
    factory := Function.update node.factory trade
      (change (node.factory trade)) }

@[simp] theorem modifyMatch_same
    (node : Node Hex)
    (matched : MatchRef)
    (change : MatchState Hex → MatchState Hex) :
    (node.modifyMatch matched change).matchState matched =
      change (node.matchState matched) :=
  Function.update_self _ _ _

theorem modifyMatch_of_ne
    (node : Node Hex)
    {matched other : MatchRef}
    (change : MatchState Hex → MatchState Hex)
    (different : other ≠ matched) :
    (node.modifyMatch matched change).matchState other =
      node.matchState other :=
  Function.update_of_ne different _ _

@[simp] theorem modifyFactory_same
    (node : Node Hex)
    (trade : TradeRef)
    (change : MicrotransferFactory Hex → MicrotransferFactory Hex) :
    (node.modifyFactory trade change).factory trade =
      change (node.factory trade) :=
  Function.update_self _ _ _

theorem modifyFactory_of_ne
    (node : Node Hex)
    {trade other : TradeRef}
    (change : MicrotransferFactory Hex → MicrotransferFactory Hex)
    (different : other ≠ trade) :
    (node.modifyFactory trade change).factory other = node.factory other :=
  Function.update_of_ne different _ _

/-- "Find microtransfer contract + factory": the first listed trade whose
factory has the contract. -/
def findContract (node : Node Hex) (contractHash : ContractHash) :
    Option (TradeRef × MicrotransferContract Hex) :=
  node.trades.findSome? fun trade =>
    ((node.factory trade).contracts.get? contractHash).map fun contract =>
      (trade, contract)

/-- `find_match_state`, with the trade the match belongs to as
`TradeEngine.find_trade` finds it. -/
def findMatchState (node : Node Hex) (contractHash : ContractHash) :
    Option (TradeRef × MatchRef) :=
  node.trades.findSome? fun trade =>
    ((node.matchTable trade).values.find? fun matched =>
      (node.matchState matched).contractHash = some contractHash).map
        fun matched => (trade, matched)

/-- Enter a state at a time. -/
def MatchState.enter
    (matched : MatchState Hex)
    (state : ProtocolState)
    (now : Time) : MatchState Hex :=
  { matched with state := some state, stateUpdated := some now }

/-- `update_state`: enter a state if the state machine allows it; the flag is
the return value. -/
def updateState
    (node : Node Hex)
    (matched : MatchRef)
    (state : ProtocolState)
    (now : Time) : Node Hex × Bool :=
  if stateMachine (node.matchState matched).state state then
    (node.modifyMatch matched fun found => MatchState.enter found state now,
      true)
  else (node, false)

section UpdateState

variable (node : Node Hex) (matched : MatchRef) (state : ProtocolState)
variable (now : Time)

@[simp] theorem updateState_trades :
    (node.updateState matched state now).1.trades = node.trades := by
  unfold updateState
  split <;> rfl

@[simp] theorem updateState_heap :
    (node.updateState matched state now).1.heap = node.heap := by
  unfold updateState
  split <;> rfl

@[simp] theorem updateState_factory :
    (node.updateState matched state now).1.factory = node.factory := by
  unfold updateState
  split <;> rfl

@[simp] theorem updateState_prec :
    (node.updateState matched state now).1.prec = node.prec := by
  unfold updateState
  split <;> rfl

theorem updateState_of_not_allowed
    {node : Node Hex}
    {matched : MatchRef}
    {state : ProtocolState}
    (now : Time)
    (notAllowed : ¬stateMachine (node.matchState matched).state state = true) :
    node.updateState matched state now = (node, false) :=
  if_neg notAllowed

theorem updateState_of_allowed
    {node : Node Hex}
    {matched : MatchRef}
    {state : ProtocolState}
    (now : Time)
    (allowed : stateMachine (node.matchState matched).state state = true) :
    node.updateState matched state now =
      (node.modifyMatch matched fun found => MatchState.enter found state now,
        true) :=
  if_pos allowed

/-- An allowed update enters the state. -/
theorem state_updateState
    {node : Node Hex}
    {matched : MatchRef}
    {state : ProtocolState}
    (now : Time)
    (allowed : stateMachine (node.matchState matched).state state = true) :
    ((node.updateState matched state now).1.matchState matched).state =
      some state := by
  rw [updateState_of_allowed now allowed]
  simp [MatchState.enter]

/-- An update to the state a match is in, or to one the state machine refuses,
leaves every match in its state. -/
theorem state_updateState_settled
    {node : Node Hex}
    {matched : MatchRef}
    {state : ProtocolState}
    (now : Time)
    (settled : stateMachine (node.matchState matched).state state = true →
      (node.matchState matched).state = some state)
    (other : MatchRef) :
    ((node.updateState matched state now).1.matchState other).state =
      (node.matchState other).state := by
  by_cases allowed : stateMachine (node.matchState matched).state state = true
  · rw [updateState_of_allowed now allowed]
    by_cases same : other = matched
    · subst same
      simp [MatchState.enter, settled allowed]
    · simp only
      rw [modifyMatch_of_ne node _ same]
  · rw [updateState_of_not_allowed now allowed]

end UpdateState

/-- `con.send_line`. -/
def sendLine (node : Node Hex) (con : Con) (line : Line Hex) : Node Hex :=
  { node with sent := node.sent ++ [(con, line)] }

end Node
end Coinbend
