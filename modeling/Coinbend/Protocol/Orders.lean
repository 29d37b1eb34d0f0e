import Coinbend.Protocol.Handlers

/-!
# Orders

The messages that open an order and offer a match, and `parse_open_order`:
forgetting matches nobody answered, and matching one of our buying trades with
a new sell order.
-/

namespace Coinbend

/-- `HybridProtocol.version`. -/
def protocolVersion : Nat := 1

namespace PostedMsg

variable {Fields : Type}

/-- The message without its nonce, which the proof of work is for. -/
def signedText (msg : PostedMsg Fields) : String :=
  msg.text ++ " " ++ msg.sig1 ++ " " ++ msg.sig2

/-- The whole message. -/
def wire (msg : PostedMsg Fields) : String :=
  msg.signedText ++ " " ++ toString msg.nonce

end PostedMsg

/-- What the order code runs with. -/
structure MarketEnv (Hex : Type) extends ProtocolEnv Hex where
  /-- `proof_of_work.is_valid`. -/
  powIsValid : String → Nat → Bool
  /-- `proof_of_work.calculate`. -/
  powCalculate : String → Nat
  openOrderText : OpenOrderFields → String
  matchOrderText : MatchOrderFields → String
  calculateMsgId : String → String

/-- What the clock and `format_routes` answer while an order is opened. -/
structure NewOrderAnswers where
  ntp : Nat
  routes : Except PyError (List String)

/-- What else is read while a match is built: the exchange rates and the
clock. -/
structure NewMatchAnswers extends NewOrderAnswers where
  usdWorth : Except PyError Unit
  timestamp : Time

/-- What the daemon knows of a green address another node names. -/
structure Deposit (Hex : Type) where
  address : Address
  txHex : Hex
  inputs : List GreenInput

/-- What is read while an order or a match of another node is handled. -/
structure OrderAnswers (Hex : Type) where
  /-- `con.s.getpeername()[0]`. -/
  peerIp : String
  /-- Whether `parse_routes` keeps a route. -/
  routeValid : String → Bool
  /-- `direct_net.validate_node`. -/
  nodeValid : String → Bool
  /-- Whether a green address of ours waits for its deposit. -/
  depositPending : Bool
  /-- The deposit, unless the daemon does not confirm it. -/
  deposit : Option (Deposit Hex)
  /-- When the match is packed. -/
  packed : Time
  newOrder : TradeRef → NewOrderAnswers
  newMatch : TradeRef → NewMatchAnswers

namespace Node

variable {Hex : Type}

/-- A new trade object. -/
def newTrade (node : Node Hex) (trade : Trade) : Node Hex :=
  { node with
    heap := Function.update node.heap node.nextTrade trade
    nextTrade := node.nextTrade + 1 }

/-- Change the trades with an operation that may raise. -/
def onHeap {α : Type}
    (node : Node Hex)
    (change : TradeHeap → Outcome TradeHeap PyError α) :
    Outcome (Node Hex) PyError α :=
  ⟨{ node with heap := (change node.heap).state }, (change node.heap).result⟩

/-- `MatchState(match_sent, match_reply, order)`. -/
def MatchState.new
    (matchSent matchReply : Option (MatchType Hex))
    (order : OrderType) : MatchState Hex where
  state := none
  checkedState := none
  stateUpdated := none
  matchSent := matchSent
  matchReply := matchReply
  order := some order
  contract := none
  contractHash := none
  ourHandshakeMsg := none
  theirHandshakeMsg := none
  toSend := none
  toRecv := none
  con := none

/-- `trade.matches[match_hash] = MatchState(...)`. -/
def addMatch
    (node : Node Hex)
    (trade : TradeRef)
    (matchHash : MatchHash)
    (matched : MatchState Hex) : Node Hex :=
  { node with
    matchTable := Function.update node.matchTable trade
      ((node.matchTable trade).set matchHash node.nextMatch)
    matchState := Function.update node.matchState node.nextMatch matched
    nextMatch := node.nextMatch + 1 }

/-- `order_book.get_order`. -/
def getOrder (node : Node Hex) (orderHash : OrderHash) : Option OrderType :=
  match node.orderBook.find? fun order => order.orderHash = orderHash with
  | some order => some order
  | none => node.orderRows.get? orderHash

/-- `order_book.open_order`: only orders that do not exist are stored. -/
def openOrderRow (node : Node Hex) (order : OrderType) : Node Hex :=
  if node.orderRows.contains order.orderHash then node
  else
    { node with orderRows := node.orderRows.set order.orderHash order }

end Node

namespace Protocol

variable {Hex : Type} (env : MarketEnv Hex)

/-! ## Messages -/

/-- Sign a message with two keys and add the proof of work. -/
def post {Fields : Type}
    (fields : Fields)
    (text : String)
    (ecdsa1 ecdsa2 : PubKey) : PostedMsg Fields :=
  let msg : PostedMsg Fields := {
    fields
    text
    sig1 := env.ecdsa.sign ecdsa1 text
    sig2 := env.ecdsa.sign ecdsa2 text
    nonce := 0 }
  { msg with nonce := env.powCalculate msg.signedText }

/-- "Check proof of work" and "Check signature." -/
def postIsValid {Fields : Type}
    (msg : PostedMsg Fields)
    (ecdsa1 ecdsa2 : PubKey) : Bool :=
  env.powIsValid msg.signedText msg.nonce &&
    env.ecdsa.validSignature ecdsa1 msg.sig1 msg.text &&
    env.ecdsa.validSignature ecdsa2 msg.sig2 msg.text

/-- The order and match fields a trade is printed to. -/
def orderFields
    (answers : NewOrderAnswers)
    (routes : List String)
    (trade : Trade)
    (address : Address)
    (ecdsa1 ecdsa2 : PubKey)
    (greenAddress : GreenAddress Hex) : OpenOrderFields where
  ntp := answers.ntp
  action := trade.action
  pair := trade.pair
  amount := trade.amount.printed
  ppc := trade.ppc.printed
  routes := routes
  depositTxid := greenAddress.depositTxid
  address := address
  pubKey1 := ecdsa1
  pubKey2 := ecdsa2
  serverPubKey := greenAddress.ecdsaEncrypted

/-- `new_open_order`, on a trade and its green address. -/
def newOpenOrder
    (answers : NewOrderAnswers)
    (trade : Trade)
    (greenAddress : GreenAddress Hex) : Except PyError OpenOrderMsg := do
  let routes ← answers.routes
  let fields := orderFields answers routes trade trade.recvAddr
    greenAddress.ecdsa1 greenAddress.ecdsa2 greenAddress
  return post env fields (env.openOrderText fields) greenAddress.ecdsa1
    greenAddress.ecdsa2

/-- The deposit outputs a match names: as many as cover what is sent. -/
def coverInputs (toSend : ℚ) : ℚ → List GreenInput → List Nat
  | _, [] => []
  | total, input :: inputs =>
      if toSend ≤ total then []
      else input.vout :: coverInputs toSend (total + input.amount) inputs

/-- `new_match_order`. -/
def newMatchOrder
    (answers : NewMatchAnswers)
    (orderHash : OrderHash)
    (matchHash : MatchHash)
    (trade : Trade)
    (address : Address)
    (ecdsa1 ecdsa2 : PubKey)
    (greenAddress : Option (GreenAddress Hex)) :
    Except PyError (MatchOrderMsg × MatchType Hex) := do
  let routes ← answers.routes
  answers.usdWorth
  let greenAddress ← Except.ofOption .attributeError greenAddress
  let fields : MatchOrderFields := {
    toOpenOrderFields := orderFields answers.toNewOrderAnswers routes trade
      address ecdsa1 ecdsa2 greenAddress
    orderHash
    matchHash
    inputs := coverInputs trade.toSend.asDecimal 0 greenAddress.inputs }
  let msg := post env fields (env.matchOrderText fields) ecdsa1 ecdsa2
  return (msg, {
    matchHash
    ntp := answers.ntp
    orderHash
    trade
    greenAddress
    address
    ecdsa1
    ecdsa2
    sig1 := msg.sig1
    sig2 := msg.sig2
    timestamp := answers.timestamp })

/-! ## Trades of other nodes -/

/-- The trade of a message, with the address of its sender.  There is none when
its total overflows: the object lacks its analysed attributes then. -/
def theirTrade (context : TradeContext) (fields : OpenOrderFields) :
    Except PyError (Option Trade) :=
  match Trade.new context {
      action := fields.action
      amount := fields.amount
      pair := fields.pair
      ppc := fields.ppc
      status := .open } with
  | .ok trade => .ok (some { trade with recvAddr := fields.address })
  | .error .attributeError => .ok none
  | .error error => .error error

/-- `ECDSACrypt(pub_key)`. -/
def loadKey (text : String) : Except PyError PubKey :=
  Except.ofOption .valueError (env.ecdsa.load text)

/-! ## Matches without an answer -/

/-- The time after which a match that was not answered is given up, in
milliseconds. -/
def matchTimeout : Time := 60 * 5 * 1000

/-- Whether a match has expired. -/
def matchExpired (now : Time) (matched : MatchState Hex) :
    Except PyError Bool := do
  let updated ← Except.ofOption .typeError matched.stateUpdated
  return matchTimeout ≤ now - updated ∧
    matched.state = some .pendingCalibration ∧ matched.matchReply = none ∧
    matched.order ≠ none

/-- "Undo reserve coins" for the expired matches of a trade; the value is the
list of their hashes. -/
def unreserveExpired (now : Time) (trade : TradeRef) :
    List (MatchHash × MatchRef) → Node Hex →
      Outcome (Node Hex) PyError (List MatchHash)
  | [], node => Outcome.pure node []
  | (matchHash, matched) :: matches_, node =>
      Outcome.attempt node (matchExpired now (node.matchState matched))
        fun expired =>
      match expired, (node.matchState matched).order with
      | true, some order =>
          (node.onHeap fun heap =>
            heap.multiply (env.tradeContext node.prec) trade order.trade).bind
            fun node _ =>
          (unreserveExpired now trade matches_ node).bind fun node hashes =>
          Outcome.pure node (matchHash :: hashes)
      | _, _ => unreserveExpired now trade matches_ node

/-- `del our_trade.matches[expired_match]` for some hashes. -/
def forgetMatches
    (node : Node Hex)
    (trade : TradeRef)
    (hashes : List MatchHash) : Node Hex :=
  { node with
    matchTable := Function.update node.matchTable trade
      (hashes.foldl Dict.erase (node.matchTable trade)) }

/-- "Timeout old matches for our trade." -/
def expireMatches (now : Time) :
    List TradeRef → Node Hex → Outcome (Node Hex) PyError Unit
  | [], node => Outcome.pure node ()
  | trade :: trades, node =>
      (unreserveExpired env now trade (node.matchTable trade).entries node).bind
        fun node hashes =>
      expireMatches now trades (forgetMatches node trade hashes)

/-! ## New orders -/

/-- "Have we already matched with this order?", for the matches of our
trades. -/
def alreadyMatched (node : Node Hex) (orderHash : OrderHash) :
    List MatchRef → Except PyError Bool
  | [] => .ok false
  | matched :: matches_ => do
      let sent ← Except.ofOption .attributeError
        (node.matchState matched).matchSent
      if sent.orderHash = orderHash then return true
      alreadyMatched node orderHash matches_

/-- Open an order for one of our trades: `new_open_order` and the entry in the
order book. -/
def registerOrder
    (answers : NewOrderAnswers)
    (node : Node Hex)
    (trade : TradeRef) : Outcome (Node Hex) PyError OpenOrderMsg :=
  let greenAddress := (node.factory trade).greenAddress
  Outcome.attempt node
    (newOpenOrder env answers (node.heap trade) greenAddress) fun msg =>
  let orderHash := env.calculateMsgId msg.wire
  let order : OrderType := {
    orderHash
    trade
    ecdsa1 := greenAddress.ecdsa1
    ecdsa2 := greenAddress.ecdsa2
    greenAddress := some trade }
  Outcome.pure
    { node with
      heap := node.heap.modify trade fun found => { found with orderHash }
      orderBook := node.orderBook ++ [order] } msg

/-- The order of one of our trades, opened now if it has none. -/
def ensureOrder
    (answers : OrderAnswers Hex)
    (node : Node Hex)
    (trade : TradeRef) : Outcome (Node Hex) PyError Unit :=
  if (node.heap trade).orderHash = "" then
    (registerOrder env (answers.newOrder trade) node trade).bind
      fun node msg =>
    Outcome.pure
      { node with openMsg := Function.update node.openMsg trade (some msg) } ()
  else Outcome.pure node ()

/-- Match one of our trades with an order: reserve the coins and send the
match. -/
def sendMatch
    (answers : OrderAnswers Hex)
    (now : Time)
    (node : Node Hex)
    (trade : TradeRef)
    (order : OrderType) : Outcome (Node Hex) PyError (List (Line Hex)) :=
  let greenAddress := (node.factory trade).greenAddress
  Outcome.attempt node
    (newMatchOrder env (answers.newMatch trade) order.orderHash "0"
      (node.heap trade) (node.heap trade).recvAddr greenAddress.ecdsa1
      greenAddress.ecdsa2 (some greenAddress)) fun (msg, sent) =>
  Outcome.attempt node
    ((node.heap order.trade).copy (env.tradeContext node.prec)) fun _ =>
  (node.onHeap fun heap =>
    heap.divide (env.tradeContext node.prec) trade order.trade).bind
    fun node _ =>
  let matched := node.nextMatch
  let node := node.addMatch trade (env.calculateMsgId msg.wire)
    (Node.MatchState.new (some sent) none order)
  let node := (node.updateState matched .pendingCalibration now).1
  Outcome.pure node
    ((node.openMsg trade).toList.map .openOrder ++ [.matchOrder msg])

/-- What `parse_open_order` returns: the message for everyone and the lines for
the routes of the order. -/
structure OrderReply (Hex : Type) where
  everyone : OpenOrderMsg
  routed : List (Line Hex)

/-- "Attempt to match against this order." -/
def matchOpenOrder
    (answers : OrderAnswers Hex)
    (now : Time)
    (node : Node Hex)
    (order : OrderType) : Outcome (Node Hex) PyError (List (Line Hex)) :=
  if node.actor order.trade ≠ .seller then Outcome.pure node [] else
  Outcome.attempt node
    (alreadyMatched node order.orderHash
      (node.trades.flatMap fun trade => (node.matchTable trade).values))
    fun already =>
  if already then Outcome.pure node [] else
  match node.trades.find? fun trade =>
      (node.heap trade).matchable (node.heap order.trade) &&
        answers.nodeValid (node.heap trade).destIp with
  | none => Outcome.pure node []
  | some trade =>
      (ensureOrder env answers node trade).bind fun node _ =>
      sendMatch env answers now node trade order

/-- The checks of `parse_open_order`: the trade of the order and its two keys,
or `none` where the handler returns early. -/
def checkOpenOrder
    (prec : Nat)
    (msg : OpenOrderMsg)
    (answers : OrderAnswers Hex) :
    Except PyError (Option (Trade × PubKey × PubKey)) := do
  let ecdsa1 ← loadKey env msg.fields.pubKey1
  let ecdsa2 ← loadKey env msg.fields.pubKey2
  let _ ← loadKey env msg.fields.serverPubKey
  if postIsValid env msg ecdsa1 ecdsa2 = false then return none
  if msg.fields.routes.any answers.routeValid = false then return none
  let trade ← theirTrade (env.tradeContext prec) msg.fields
  let trade ← Except.ofOption .attributeError trade
  -- The constructor of the green address copies the trade and looks up its
  -- currency.
  let feeless ← trade.copy (env.tradeContext prec)
  let _ ← MicrotransferContract.coinConfig env.coins feeless.sendCurrency
  return some (trade, ecdsa1, ecdsa2)

/-- `parse_open_order`. -/
def parseOpenOrder
    (node : Node Hex)
    (now : Time)
    (msg : OpenOrderMsg)
    (answers : OrderAnswers Hex) :
    Outcome (Node Hex) PyError (Option (OrderReply Hex)) :=
  Outcome.attempt node (checkOpenOrder env node.prec msg answers) fun checked =>
  match checked with
  | none => Outcome.pure node none
  | some (trade, ecdsa1, ecdsa2) =>
  let orderHash := env.calculateMsgId msg.wire
  let order : OrderType := {
    orderHash
    trade := node.nextTrade
    ecdsa1
    ecdsa2
    greenAddress := none }
  -- The database keeps a copy of the trade.
  let row : OrderType := { order with trade := node.nextTrade + 1 }
  let node := ((node.newTrade trade).newTrade trade).openOrderRow row
  if answers.depositPending then Outcome.pure node (some ⟨msg, []⟩) else
  (expireMatches env now node.trades node).bind fun node _ =>
  (matchOpenOrder env answers now node order).bind fun node routed =>
  Outcome.pure node (some ⟨msg, routed⟩)

end Protocol
end Coinbend
