import Coinbend.Protocol.Orders

/-!
# Match orders

`parse_match_order`.  A first match asks for one of our open orders and is
answered with a calibrated match; a calibrated reply answers a match we sent.
Both loops go over all our trades, and the last trade that was matched names
the contract to sign.
-/

namespace Coinbend
namespace Protocol

variable {Hex : Type} (env : MarketEnv Hex)

/-! ## The checks -/

/-- What the checks before the branches lead to. -/
inductive CheckedMatch (Hex : Type)
  | rejected
  /-- The handler calls `exit()`. -/
  | exit
  | passed (matched : MatchType Hex)

/-- "Check green address." up to "Pack match.", for a message whose
signatures are valid. -/
def packMatch
    (prec : Nat)
    (msg : MatchOrderMsg)
    (answers : OrderAnswers Hex)
    (trade : Trade)
    (ecdsa1 ecdsa2 ecdsaEncrypted : PubKey)
    (deposit : Deposit Hex) : Except PyError (CheckedMatch Hex) :=
  match trade.copy (env.tradeContext prec) with
  | .error _ => .ok .exit
  | .ok feeless =>
  match deposit.inputs with
  | [] => .ok .rejected
  | input :: _ => do
      let amount ← C.ofDecimal input.amount
      let inputsTotal ← (0 : C).add amount
      if inputsTotal < trade.toSend then return .rejected
      if msg.fields.routes.any answers.routeValid = false then
        return .rejected
      return .passed {
        matchHash := env.calculateMsgId msg.wire
        ntp := msg.fields.ntp
        orderHash := msg.fields.orderHash
        trade
        greenAddress := {
          trade := feeless
          ecdsa1
          ecdsa2
          ecdsaEncrypted
          address := deposit.address
          depositTxid := msg.fields.depositTxid
          depositTxHex := some deposit.txHex
          inputs := deposit.inputs }
        address := msg.fields.address
        ecdsa1
        ecdsa2
        sig1 := msg.sig1
        sig2 := msg.sig2
        timestamp := answers.packed }

/-- The checks of `parse_match_order` before its two branches. -/
def checkMatchOrder
    (prec : Nat)
    (msg : MatchOrderMsg)
    (answers : OrderAnswers Hex) : Except PyError (CheckedMatch Hex) := do
  let fields := msg.fields.toOpenOrderFields
  let trade ← theirTrade (env.tradeContext prec) fields
  let ecdsa1 ← loadKey env fields.pubKey1
  let ecdsa2 ← loadKey env fields.pubKey2
  let ecdsaEncrypted ← loadKey env fields.serverPubKey
  let pair := (trade.map Trade.pair).getD fields.pair
  if env.coins pair.base = none then return .rejected
  if env.coins pair.quote = none then return .rejected
  if postIsValid env msg ecdsa1 ecdsa2 = false then return .rejected
  match trade, answers.deposit with
  | some trade, some deposit =>
      packMatch env prec msg answers trade ecdsa1 ecdsa2 ecdsaEncrypted deposit
  | _, _ => return .exit

/-! ## The loops over our trades -/

/-- How the body of a loop ends: with `continue`, with `return []`, or with a
match, the key to sign the handshake with and lines to reply. -/
inductive LoopMove (Hex : Type)
  | skip
  | stop
  | matched (found : MatchRef) (ecdsa1 : PubKey) (lines : List (Line Hex))

/-- The variables `matched`, `ecdsa_1` and `replies`. -/
structure LoopVars (Hex : Type) where
  matched : Option MatchRef
  ecdsa1 : PubKey
  lines : List (Line Hex)

/-- A loop over trades; `none` when its body returned. -/
def tradeLoop
    (body : Node Hex → PubKey → TradeRef →
      Outcome (Node Hex) PyError (LoopMove Hex)) :
    List TradeRef → Node Hex → LoopVars Hex →
      Outcome (Node Hex) PyError (Option (LoopVars Hex))
  | [], node, vars => Outcome.pure node (some vars)
  | trade :: trades, node, vars =>
      (body node vars.ecdsa1 trade).bind fun node move =>
      match move with
      | .skip => tradeLoop body trades node vars
      | .stop => Outcome.pure node none
      | .matched found ecdsa1 lines =>
          tradeLoop body trades node {
            matched := some found
            ecdsa1
            lines := vars.lines ++ lines }

/-- "Search for our open trade": the body of the loop for a first match. -/
def offerBody
    (arrival : Arrival)
    (answers : OrderAnswers Hex)
    (matched : MatchType Hex)
    (matchTrade : TradeRef)
    (node : Node Hex)
    (_ : PubKey)
    (trade : TradeRef) : Outcome (Node Hex) PyError (LoopMove Hex) :=
  let ours := node.heap trade
  if ours.orderHash ≠ matched.orderHash then Outcome.pure node .skip
  else if ours.destIp ≠ "" ∧ ours.destIp ≠ answers.peerIp then
    Outcome.pure node .skip
  else if ours.status ≠ .open then Outcome.pure node .skip
  else if ours.matchable (node.heap matchTrade) = false then
    Outcome.pure node .skip
  else
  match node.getOrder matched.orderHash with
  | none => Outcome.pure node .stop
  | some order =>
  let found := node.nextMatch
  let node := node.addMatch trade matched.matchHash
    (Node.MatchState.new none (some matched) order)
  (node.onHeap fun heap =>
    heap.divide (env.tradeContext node.prec) trade matchTrade).bind
    fun node calTrade =>
  Outcome.attempt node
    (newMatchOrder env (answers.newMatch trade) matched.orderHash
      matched.matchHash calTrade ours.recvAddr order.ecdsa1 order.ecdsa2
      (order.greenAddress.map fun owner => (node.factory owner).greenAddress))
    fun (msg, calMatch) =>
  let node := node.modifyMatch found fun state =>
    { state with matchSent := some calMatch }
  let node := (node.updateState found .pendingHandshake arrival.now).1
  Outcome.pure node (.matched found order.ecdsa1 [.matchOrder msg])

/-- The checks a calibrated reply passes for one of our matches: the match can
still be calibrated, and the sender of the order signed the reply.  The values
are the match sent and the order it was sent for. -/
def replyGuards
    (node : Node Hex)
    (orderHash : OrderHash)
    (ecdsa1 : PubKey)
    (matched : MatchState Hex) :
    Except PyError (Option (MatchType Hex)) := do
  if stateMachine matched.state .pendingHandshake = false then return none
  let sent ← Except.ofOption .attributeError matched.matchSent
  if sent.orderHash ≠ orderHash then return none
  match node.getOrder orderHash with
  | none => return none
  | some order =>
      if order.ecdsa1 ≠ ecdsa1 then return none
      return some sent

/-- "Reverse old match" and "Apply new match." -/
def rematch
    (node : Node Hex)
    (trade : TradeRef)
    (order : OrderType)
    (matchTrade : TradeRef) : Outcome (Node Hex) PyError Unit :=
  (node.onHeap fun heap =>
    heap.multiply (env.tradeContext node.prec) trade order.trade).bind
    fun node _ =>
  (node.onHeap fun heap =>
    heap.divide (env.tradeContext node.prec) trade matchTrade).bind fun node _ =>
  Outcome.pure node ()

/-- The body of the loop for a calibrated reply. -/
def replyBody
    (arrival : Arrival)
    (matchHash : MatchHash)
    (matched : MatchType Hex)
    (matchTrade : TradeRef)
    (node : Node Hex)
    (ecdsa1 : PubKey)
    (trade : TradeRef) : Outcome (Node Hex) PyError (LoopMove Hex) :=
  match (node.matchTable trade).get? matchHash with
  | none => Outcome.pure node .skip
  | some found =>
  let state := node.matchState found
  Outcome.attempt node (replyGuards node matched.orderHash ecdsa1 state)
    fun guarded =>
  match guarded with
  | none => Outcome.pure node .stop
  | some sent =>
  -- The copy is compared with the trade of the message; a difference is
  -- printed and nothing else.
  Outcome.attempt node ((node.heap trade).copy (env.tradeContext node.prec))
    fun _ =>
  Outcome.attempt node (Except.ofOption .attributeError state.order)
    fun order =>
  (rematch env node trade order matchTrade).bind fun node _ =>
  let node := node.modifyMatch found fun state =>
    { state with matchReply := some matched }
  let node := (node.updateState found .pendingHandshake arrival.now).1
  Outcome.pure node (.matched found sent.ecdsa1 [])

/-! ## The contract -/

/-- "Build contract." and "Sign contract.", after the loops. -/
def signContract
    (node : Node Hex)
    (arrival : Arrival)
    (vars : LoopVars Hex) : Handled Hex :=
  match vars.matched with
  | none => Outcome.pure node []
  | some found =>
  Outcome.attempt node
    (Except.ofOption .attributeError (node.matchState found).matchReply)
    fun reply =>
  Outcome.attempt node
    (Except.ofOption .attributeError (node.matchState found).matchSent)
    fun sent =>
  let node := { node with prec := contractPrec }
  Outcome.attempt node (formatContract protocolVersion reply sent)
    fun contractMsg =>
  Outcome.attempt node
    (parseContract (env.tradeContext contractPrec) env.ecdsa.load env.sha256
      contractMsg) fun contract =>
  let handshake := env.newMessage arrival.ntp (.shakeOnIt contract.hash)
    vars.ecdsa1
  Outcome.pure
    (node.modifyMatch found fun state =>
      { state with
        contract := some contract
        contractHash := some contract.hash
        ourHandshakeMsg := some handshake })
    [.hybrid {
      lines := vars.lines ++ [.message handshake]
      statusChecker := none
      sourceCon := arrival.con }]

/-- The loop a message leads to. -/
def matchBody
    (arrival : Arrival)
    (msg : MatchOrderMsg)
    (answers : OrderAnswers Hex)
    (matched : MatchType Hex)
    (matchTrade : TradeRef) :
    Node Hex → PubKey → TradeRef → Outcome (Node Hex) PyError (LoopMove Hex) :=
  if msg.fields.matchHash = "0" then
    offerBody env arrival answers matched matchTrade
  else replyBody env arrival msg.fields.matchHash matched matchTrade

/-- `parse_match_order`. -/
def parseMatchOrder
    (node : Node Hex)
    (arrival : Arrival)
    (msg : MatchOrderMsg)
    (answers : OrderAnswers Hex) : Handled Hex :=
  Outcome.attempt node (checkMatchOrder env node.prec msg answers)
    fun checked =>
  match checked with
  | .rejected => Outcome.pure node []
  | .exit => Outcome.pure { node with halted := true } []
  | .passed matched =>
      (tradeLoop (matchBody env arrival msg answers matched node.nextTrade)
        node.trades (node.newTrade matched.trade)
        ⟨none, matched.ecdsa1, []⟩).bind fun node vars =>
      match vars with
      | none => Outcome.pure node []
      | some vars => signContract env node arrival vars

end Protocol
end Coinbend
