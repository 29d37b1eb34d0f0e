import Coinbend.Library.Machine
import Coinbend.Protocol.Handlers

/-!
# The main loop

Everything that changes a node while contracts are running: messages of other
nodes, the `READY` message of the contract server, callbacks of the
transaction monitor, the contract step of the main loop and the routing of
queued replies.  Each is an event; a run is any list of events.
-/

namespace Coinbend

/-- What `TXMonitor.add_watch` did: whether it stored the watch, whether it ran
the callback at once because the transaction was confirmed already, and
whether it raised. -/
structure AddWatch where
  stored : Bool
  fired : Bool
  result : Except PyError Unit

/-- A `READY` message of the contract server. -/
structure ReadyMsg where
  instanceId : String
  sig3 : Option Sig
  setupDetails : List (Txid × ContractHash)
  collateralInfo : List (Option CollateralInfo)

/-- The answers of the coin daemon and the monitor to a broadcast and the watch
that follows it. -/
structure Broadcast where
  sendrawtransaction : Except PyError Unit
  addWatch : AddWatch

namespace Protocol

variable {Hex : Type} (env : ProtocolEnv Hex)

/-! ## Contract server and monitor -/

/-- The callback of a setup transaction. -/
def setupCallback (node : Node Hex) (watch : SetupWatch) (now : Time) :
    Node Hex :=
  match node.actor watch.trade with
  | .seller =>
      (node.updateState watch.matched .pendingSellerGetRefundSig now).1
  | .buyer =>
      (node.updateState watch.matched .pendingBuyerReturnRefundSig now).1

/-- "Update setup_txid table": record their setup transaction ids and find the
match of the last one. -/
def recordSetupTxids
    (node : Node Hex)
    (trade : TradeRef)
    (details : List (Txid × ContractHash)) :
    Outcome (Node Hex) PyError (Option MatchRef) :=
  details.foldl
    (fun done (setupTxid, contractHash) =>
      done.bind fun node _ =>
        let node := node.modifyFactory trade fun factory =>
          { factory with
            setupTxids := factory.setupTxids.set contractHash setupTxid }
        Outcome.attempt node
          (Except.ofOption .keyError
            ((node.factory trade).contracts.get? contractHash))
          fun contract => Outcome.pure node (some contract.matched))
    (Outcome.pure node none)

/-- Watch the setup transaction and store the collateral infos. -/
def watchSetup
    (node : Node Hex)
    (now : Time)
    (watch : SetupWatch)
    (added : AddWatch)
    (collateralInfo : Dict String CollateralInfo) :
    Outcome (Node Hex) PyError Unit :=
  let node :=
    if added.stored then
      { node with setupWatches := node.setupWatches ++ [watch] }
    else node
  let node := if added.fired then setupCallback node watch now else node
  Outcome.attempt node added.result fun _ =>
  Outcome.pure
    (node.modifyFactory watch.trade fun factory =>
      { factory with collateralInfo })
    ()

/-- The setup transaction of a factory with the third signature. -/
def completeSetup
    (prec : Nat)
    (factory : MicrotransferFactory Hex)
    (sig3 : Sig)
    (collateralInfo : Dict String CollateralInfo) :
    Except PyError (Option (SignedTx Hex)) := do
  let sig1 ← Except.ofOption .keyError factory.setup.sig1
  let sig2 ← Except.ofOption .keyError factory.setup.sig2
  let txHex ← Except.ofOption .typeError factory.setup.txHex
  let valid ← validateSetupTx (env.micro prec) env.ecdsa env.config txHex
    factory.greenAddress.ecdsa1 factory.greenAddress.ecdsa2 (some sig1)
    (some sig2) (some sig3) (some collateralInfo) env.config.tradeFee
  match valid with
  | .error _ => return none
  | .ok details =>
      let signed ← Except.ofOption .attributeError details.signed
      return some signed

/-- `parse_ready_msg`. -/
def parseReadyMsg
    (node : Node Hex)
    (now : Time)
    (ready : ReadyMsg)
    (broadcast : Broadcast) : Outcome (Node Hex) PyError Unit :=
  Outcome.attempt node (Except.ofOption .binasciiError ready.sig3) fun sig3 =>
  Outcome.attempt node (parseCollateralInfos ready.collateralInfo)
    fun collateralInfo =>
  match node.trades.find? fun trade =>
      (node.factory trade).instanceId = some ready.instanceId with
  | none => Outcome.pure node ()
  | some trade =>
  Outcome.attempt node
    (completeSetup env node.prec (node.factory trade) sig3 collateralInfo)
    fun completed =>
  match completed with
  | none => Outcome.pure node ()
  | some signed =>
  let node := node.modifyFactory trade fun factory =>
    { factory with setup := { factory.setup with signed := some signed } }
  Outcome.attempt node broadcast.sendrawtransaction fun _ =>
  (recordSetupTxids node trade ready.setupDetails).bind fun node matched =>
  match matched with
  -- The message names at least one contract.
  | none => Outcome.pure node ()
  | some matched =>
      watchSetup node now { trade, matched } broadcast.addWatch collateralInfo

/-! ## The contract step -/

/-- `matched.con.send_line`. -/
def sendToMatch (node : Node Hex) (matched : MatchRef) (line : Line Hex) :
    Outcome (Node Hex) PyError Unit :=
  Outcome.attempt node
    (Except.ofOption .attributeError (node.matchState matched).con)
    fun con => Outcome.pure (node.sendLine con line) ()

/-- "Don't keep checking this if it hasn't changed": the node with the check
recorded, or `none` when the step is skipped. -/
def markChecked (node : Node Hex) (matched : MatchRef) (now : Time) :
    Except PyError (Option (Node Hex)) :=
  let found := node.matchState matched
  if found.state = found.checkedState then
    if found.state = some .sellerSentGetRefundSig then do
      let updated ← Except.ofOption .typeError found.stateUpdated
      if now - updated < 5000 then return none
      return some (node.modifyMatch matched fun found =>
        { found with stateUpdated := some now })
    else .ok none
  else
    .ok (some (node.modifyMatch matched fun found =>
      { found with checkedState := found.state }))

/-- The state a sent `get_refund_sig` leads to. -/
def sentGetRefundSigState : ProtocolState → Option ProtocolState
  | .pendingSellerGetRefundSig => some .sellerSentGetRefundSig
  | .pendingBuyerGetRefundSig => some .buyerSentGetRefundSig
  | _ => none

/-- "Get refund sig." -/
def sendGetRefundSig
    (node : Node Hex)
    (now : Time)
    (ntp : Nat)
    (trade : TradeRef)
    (contractHash : ContractHash)
    (contract : MicrotransferContract Hex) : Outcome (Node Hex) PyError Unit :=
  match (node.matchState contract.matched).state.bind sentGetRefundSigState with
  | none => Outcome.pure node ()
  | some state =>
      let factory := node.factory trade
      Outcome.attempt node
        (MicrotransferContract.buildRefundTx (env.micro node.prec) contract
          (factory.setup.signed.map SignedTx.txid) none) fun refund =>
      let node := node.modifyFactory trade fun factory =>
        { factory with
          refund :=
            { factory.refund with
              txHex := some refund.txHex
              txid := some (env.lib.calculateTxid refund.txHex) } }
      (sendToMatch node contract.matched
        (.message (env.newMessage ntp
          (.getRefundSig contractHash refund.txHex)
          factory.greenAddress.ecdsa1))).bind fun node _ =>
      Outcome.pure (node.updateState contract.matched state now).1 ()

/-- The state a sent `get_setup_tx` leads to. -/
def sentGetSetupTxState : ProtocolState → Option ProtocolState
  | .pendingSellerGetSetupTx => some .sellerSentGetSetupTx
  | .pendingBuyerGetSetupTx => some .buyerSentGetSetupTx
  | _ => none

/-- "Get setup TX." -/
def sendGetSetupTx
    (node : Node Hex)
    (now : Time)
    (ntp : Nat)
    (trade : TradeRef)
    (contractHash : ContractHash)
    (contract : MicrotransferContract Hex) : Outcome (Node Hex) PyError Unit :=
  match (node.matchState contract.matched).state.bind sentGetSetupTxState with
  | none => Outcome.pure node ()
  | some state =>
      let factory := node.factory trade
      Outcome.attempt node
        (Except.ofOption .keyError (factory.setupTxids.get? contractHash))
        fun setupTxid =>
      (sendToMatch node contract.matched
        (.message (env.newMessage ntp (.getSetupTx contractHash setupTxid)
          factory.greenAddress.ecdsa1))).bind fun node _ =>
      Outcome.pure (node.updateState contract.matched state now).1 ()

/-- "Initiate microtransfer." -/
def initiateMicrotransfer
    (node : Node Hex)
    (now : Time)
    (ntp : Nat)
    (trade : TradeRef)
    (contractHash : ContractHash)
    (contract : MicrotransferContract Hex) : Outcome (Node Hex) PyError Unit :=
  if (node.matchState contract.matched).state ≠
      some .sellerInitiateMicrotransfer then Outcome.pure node ()
  else
    let factory := node.factory trade
    let adjusted :=
      adjustReceived env node.prec factory contract contractHash none
    let node := storeContract node trade contractHash adjusted.state
    Outcome.attempt node adjusted.result fun result =>
    match paymentLines env ntp contractHash factory.greenAddress.ecdsa1
        result with
    | [] => Outcome.pure node ()
    | line :: _ =>
        let node :=
          (node.updateState contract.matched .sellerAcceptMicrotransfer now).1
        -- From `seller_initiate_microtransfer` the update always succeeds.
        sendToMatch node contract.matched line

/-- The callback of a redeem transaction.  It moves the match the main loop
looked at last, whichever contract it was built for. -/
def redeemCallback
    (node : Node Hex)
    (contractHash : ContractHash)
    (now : Time) : Outcome (Node Hex) PyError Unit :=
  Outcome.attempt node
    (Except.ofOption .attributeError (node.findMatchState contractHash))
    fun (trade, _) =>
  let node :=
    { node with
      heap := node.heap.modify trade fun found =>
        { found with status := .microtransferComplete } }
  Outcome.attempt node (Except.ofOption (.nameError "matched") node.loopMatched)
    fun matched =>
  Outcome.pure (node.updateState matched .microtransferComplete now).1 ()

/-- "Broadcast final version." -/
def broadcastFinal
    (node : Node Hex)
    (now : Time)
    (contractHash : ContractHash)
    (contract : MicrotransferContract Hex)
    (broadcast : Broadcast) : Outcome (Node Hex) PyError Unit :=
  if (node.matchState contract.matched).state ≠
      some .pendingMicrotransferComplete then Outcome.pure node ()
  else
    Outcome.attempt node broadcast.sendrawtransaction fun _ =>
    let node :=
      (node.updateState contract.matched .pendingMicrotransferConfirm now).1
    let node :=
      if broadcast.addWatch.stored then
        { node with redeemWatches := node.redeemWatches ++ [contractHash] }
      else node
    (if broadcast.addWatch.fired then redeemCallback node contractHash now
      else Outcome.pure node ()).bind fun node _ =>
    Outcome.attempt node broadcast.addWatch.result fun _ =>
    Outcome.pure node ()

/-- The body of the loop over the contracts of a trade. -/
def contractStep
    (node : Node Hex)
    (now : Time)
    (ntp : Nat)
    (trade : TradeRef)
    (contractHash : ContractHash)
    (broadcast : Broadcast) : Outcome (Node Hex) PyError Unit :=
  if trade ∉ node.trades ∨
      (node.heap trade).status = .greenAddressDepositConfirm then
    Outcome.pure node ()
  else
  match (node.factory trade).contracts.get? contractHash with
  | none => Outcome.pure node ()
  | some contract =>
  let node := { node with loopMatched := some contract.matched }
  Outcome.attempt node (markChecked node contract.matched now) fun marked =>
  match marked with
  | none => Outcome.pure node ()
  | some node =>
  (sendGetRefundSig env node now ntp trade contractHash contract).bind
    fun node _ =>
  (sendGetSetupTx env node now ntp trade contractHash contract).bind
    fun node _ =>
  (initiateMicrotransfer env node now ntp trade contractHash contract).bind
    fun node _ =>
  broadcastFinal node now contractHash contract broadcast

/-! ## Routing replies -/

/-- The status checker of a reply: whether it can be sent now. -/
def checkReply (node : Node Hex) (reply : HybridReply Hex) (now : Time) :
    Node Hex × Bool :=
  match reply.statusChecker with
  | none => (node, true)
  | some matched => node.updateState matched .pendingBuyerGetRefundSig now

/-- Route one queued reply, or keep it. -/
def routeReply (now : Time) (node : Node Hex) (reply : HybridReply Hex) :
    Node Hex :=
  match checkReply node reply now with
  | (node, true) =>
      reply.lines.foldl (fun node line => node.sendLine reply.sourceCon line)
        node
  | (node, false) => { node with hybridReplies := node.hybridReplies ++ [reply] }

/-- "Route hybrid replies." -/
def routeReplies (node : Node Hex) (now : Time) : Node Hex :=
  node.hybridReplies.foldl (routeReply now) { node with hybridReplies := [] }

/-! ## Events -/

inductive Event (Hex : Type)
  | message
      (arrival : Arrival)
      (msg : Message Hex)
      (rpc : CoinRpc)
      (instanceId : String)
  | ready (now : Time) (ready : ReadyMsg) (broadcast : Broadcast)
  | setupConfirmed (now : Time) (index : Nat)
  | redeemConfirmed (now : Time) (index : Nat)
  | contractStep
      (now : Time)
      (ntp : Nat)
      (trade : TradeRef)
      (contractHash : ContractHash)
      (broadcast : Broadcast)
  | routeReplies (now : Time)

/-- Send or queue what a handler returned. -/
def deliver (con : Con) (node : Node Hex) : Reply Hex → Node Hex
  | .line text => node.sendLine con (.text text)
  | .hybrid reply => { node with hybridReplies := node.hybridReplies ++ [reply] }

/-- `understand`, which catches every exception, and the loop over its
replies. -/
def understand (con : Con) (handled : Handled Hex) : Node Hex :=
  match handled.result with
  | .ok replies => replies.foldl (deliver con) handled.state
  | .error _ => handled.state

/-- Handle a message of another node. -/
def handleMsg
    (rpc : CoinRpc)
    (instanceId : String)
    (node : Node Hex)
    (arrival : Arrival)
    (msg : Message Hex) : Node Hex :=
  understand arrival.con (parseMsg env rpc instanceId node arrival msg)

section HandleMsg

variable {env} {node : Node Hex} {arrival : Arrival} {msg : Message Hex}
variable {rpc : CoinRpc} {instanceId : String}

/-- A message that is read goes to its handler. -/
theorem handleMsg_of_read (read : isRead env arrival msg = true) :
    handleMsg env rpc instanceId node arrival msg =
      understand arrival.con
        (handlePayload env rpc instanceId node arrival msg) := by
  rw [handleMsg, parseMsg, if_pos read]

/-- A message that is not read changes nothing. -/
theorem handleMsg_of_unread (unread : ¬isRead env arrival msg = true) :
    handleMsg env rpc instanceId node arrival msg = node := by
  rw [handleMsg, parseMsg, if_neg unread]
  rfl

end HandleMsg

/-- An exception in the main loop itself ends it. -/
def runUncaught (outcome : Outcome (Node Hex) PyError Unit) : Node Hex :=
  match outcome.result with
  | .ok _ => outcome.state
  | .error _ => { outcome.state with halted := true }

/-- One event. -/
def step (node : Node Hex) (event : Event Hex) : Node Hex :=
  if node.halted then node else
  match event with
  | .message arrival msg rpc instanceId =>
      handleMsg env rpc instanceId node arrival msg
  | .ready now ready broadcast =>
      (parseReadyMsg env node now ready broadcast).state
  | .setupConfirmed now index =>
      match node.setupWatches[index]? with
      | some watch => setupCallback node watch now
      | none => node
  | .redeemConfirmed now index =>
      match node.redeemWatches[index]? with
      | some contractHash => (redeemCallback node contractHash now).state
      | none => node
  | .contractStep now ntp trade contractHash broadcast =>
      runUncaught
        (contractStep env node now ntp trade contractHash broadcast)
  | .routeReplies now => routeReplies node now

/-- A run of a node. -/
def run (node : Node Hex) (events : List (Event Hex)) : Node Hex :=
  Machine.run (step env) node events

end Protocol
end Coinbend

/-! ## A sample buyer

The node that buys in the sample contract, once its setup transaction has been
broadcast, and the messages of the honest seller. -/

namespace Coinbend
namespace Sample

/-- A number that depends on every character of a text. -/
def digest (text : Text) : Text :=
  Nat.toDigits 16
    (text.foldl (fun hash char => (hash * 31 + char.toNat) % 4294967291) 7)

/-- The signature of a text with a key. -/
def textSig (key : PubKey) (text : String) : String :=
  key ++ ":" ++ String.ofList (digest text.toList)

def msgParser : MsgParser where
  version := 1
  debug := false
  conversion := .plain
  prec := 28
  emax := 999999
  knows := fun rpc => decide (rpc ∈ ["open_order", "match_order", "shake_on_it",
    "get_refund_sig", "return_refund_sig", "get_setup_tx", "return_setup_tx",
    "return_adjusted_refund"].map String.toList)

def protocolEnv : ProtocolEnv CTransaction where
  lib := BitcoinLib.transparent
  mktimeAfter := Nat.add
  ecdsa := {
    load := some
    sign := textSig
    validSignature := fun key sig text => sig = textSig key text }
  config := {
    ecdsaEncrypted := "encrypted"
    ecdsaOffline := "offline"
    ecdsaFee := "fee"
    ecdsaArbiter := "arbiter"
    tradeFee := 0
    confirmations := 1 }
  coins := fun _ => some ⟨0, 0⟩
  isIpValid := fun _ => true
  sha256 := fun msg => String.ofList (digest msg.orderHash.toList)
  parser := msgParser
  hexText := fun tx => Nat.toDigits 16 tx.nLockTime ++
    (tx.vout.map fun output => 'x' :: Nat.toDigits 16 output.nValue.toNat).flatten

def contractHash : ContractHash := "5eedc0de"

def buyerKeys : ContractKeys where
  ecdsaUs := ("buyer1", "buyer2")
  ecdsaThem := ("seller1", "seller2")
  ecdsaArbiter := "arbiter"

def buyerContract : MicrotransferContract CTransaction where
  matched := 0
  trade := trade .buy
  keys := buyerKeys
  vout := 1
  ourChunkSize := C.coins 2
  theirChunkSize := C.coins 1
  uploadAmount := C.coins 6
  downloadAmount := C.coins 3
  ourAddress := "buyerAddress"
  theirAddress := "sellerAddress"
  changeAddress := "buyerChange"
  nlockTime := 7200
  ourDownload := none

/-- A setup transaction with one contract output. -/
def setupTx
    (deposit : Txid)
    (keys : ContractKeys)
    (fee value : Int) : CTransaction where
  nVersion := 1
  vin := [⟨⟨deposit, 0⟩,
    .spend ("sig:" ++ keys.ecdsaUs.1) ("sig:" ++ keys.ecdsaUs.2)
      "sig:encrypted"
      (greenRedeemScript keys.ecdsaUs.1 keys.ecdsaUs.2 "encrypted" "offline"),
    finalSequence⟩]
  vout := [
    ⟨fee, .p2pkh (textBytes "fee")⟩,
    ⟨value, p2shScript BitcoinLib.transparent (bondRedeemScript keys .us)⟩]
  nLockTime := 0

def buyerSetup : SignedTx CTransaction where
  txHex := setupTx "buyerDeposit" buyerKeys 200000000 600000000
  txid := "tx:buyerDeposit"

def sellerSetup : SignedTx CTransaction where
  txHex := setupTx "sellerDeposit" sellerKeys 100000000 300000000
  txid := "tx:sellerDeposit"

/-- A transaction that spends the contract output of the seller's setup. -/
def sellerSpends
    (nSequence nLockTime : Nat)
    (outputs : List CTxOut) : CTransaction where
  nVersion := 1
  vin := [⟨⟨"tx:sellerDeposit", 1⟩, .raw [], nSequence⟩]
  vout := outputs
  nLockTime := nLockTime

def sellerRefund : CTransaction :=
  sellerSpends 0 7200 [⟨300000000, .p2pkh (textBytes "sellerChange")⟩]

/-- The seller's first payment of one coin. -/
def sellerPayment : CTransaction :=
  sellerSpends finalSequence 0 [
    ⟨200000000, .p2pkh (textBytes "sellerChange")⟩,
    ⟨100000000, .p2pkh (textBytes "buyerAddress")⟩]

def buyerFactory : MicrotransferFactory CTransaction where
  greenAddress := {
    trade := trade .buy
    ecdsa1 := "buyer1"
    ecdsa2 := "buyer2"
    ecdsaEncrypted := "encrypted"
    address := "buyerGreen"
    depositTxid := "buyerDeposit"
    depositTxHex := none
    inputs := [] }
  trade := trade .buy
  contracts := ⟨[(contractHash, buyerContract)]⟩
  setup := {
    txHex := none
    txid := none
    sig1 := none
    sig2 := none
    signed := some buyerSetup }
  refund := {
    txHex := none
    txid := none
    signed := none }
  setupTxids := ⟨[(contractHash, "tx:sellerDeposit")]⟩
  setups := ∅
  refunds := ∅
  collateralInfo := ∅
  ourTxFee := 0
  theirTxFee := 0
  txFeeAmount := 0
  total := C.coins 8
  tradeFee := 0
  instanceId := some "instance"

/-- The match of the contract in some state. -/
def buyerMatch (state : ProtocolState) : MatchState CTransaction where
  state := some state
  checkedState := none
  stateUpdated := some 0
  matchSent := none
  matchReply := none
  order := none
  contract := none
  contractHash := some contractHash
  ourHandshakeMsg := none
  theirHandshakeMsg := none
  toSend := none
  toRecv := none
  con := some 1

/-- The buyer's node with its match in some state. -/
def buyerNode (state : ProtocolState) : Node CTransaction where
  trades := [0]
  heap := fun _ => trade .buy
  nextTrade := 1
  matchTable := fun _ => ⟨[("match", 0)]⟩
  matchState := fun _ => buyerMatch state
  nextMatch := 1
  factory := fun _ => buyerFactory
  orderBook := []
  orderRows := ∅
  openMsg := fun _ => none
  hybridReplies := []
  setupWatches := [⟨0, 0⟩]
  redeemWatches := []
  loopMatched := none
  sent := []
  prec := 8
  halted := false

/-- A message signed with some key. -/
def signedBy (key : PubKey) (payload : Payload CTransaction) :
    Message CTransaction :=
  protocolEnv.newMessage 0 payload key

/-- The collateral message of the seller's contract, signed by the buyer. -/
def sellerInfo : CollateralInfo where
  msg := "MS4wMCBhcmJpdGVyIGJ1eWVyMToxNzdkNGQ5IGJ1eWVyMSBidXllcjI6MTc3ZDRkOSBidXllcjI="
  chunkSize := C.coins 1
  sig1 := "buyer1:177d4d9"
  sig2 := "buyer2:177d4d9"
  pub1 := "buyer1"
  pub2 := "buyer2"
  pubArbiter := "arbiter"

/-- The seller's setup transaction as the buyer reads it, with the separator
behind the collateral message. -/
def returnedSetup : Message CTransaction :=
  { signedBy "seller1" (.returnSetupTx contractHash (some sellerSetup.txHex)
      [some sellerInfo]) with
    payload := .returnSetupTx contractHash (some sellerSetup.txHex)
      [some { sellerInfo with msg := sellerInfo.msg ++ "@" }] }

/-- No registration happens in the sample runs. -/
def noRpc : CoinRpc where
  getnewaddress := .error .jsonRpcException
  getbalance := .error .jsonRpcException
  loadInputs := Outcome.raise [] .jsonRpcException

def noBroadcast : Broadcast where
  sendrawtransaction := .error .jsonRpcException
  addWatch := ⟨false, false, .ok ()⟩

end Sample

namespace Protocol

/-- The arrival of a message of the seller. -/
def sampleMessage (msg : Message CTransaction) : Event CTransaction :=
  .message ⟨1, 10, 0, 0⟩ msg Sample.noRpc "instance"

def sampleStep : Event CTransaction :=
  .contractStep 10 0 0 Sample.contractHash Sample.noBroadcast

/-- The events of the buyer up to its first payment, with some answer to its
`get_refund_sig`. -/
def samplePaymentRun (theirSig : Sig) : List (Event CTransaction) := [
  .setupConfirmed 10 0,
  sampleMessage (Sample.signedBy "seller1"
    (.getRefundSig Sample.contractHash Sample.sellerRefund)),
  sampleStep,
  sampleMessage (Sample.signedBy "seller1"
    (.returnRefundSig Sample.contractHash (some theirSig))),
  sampleMessage (Sample.signedBy "seller1"
    (.getSetupTx Sample.contractHash "tx:buyerDeposit")),
  sampleStep,
  sampleMessage Sample.returnedSetup,
  sampleMessage (Sample.signedBy "seller1"
    (.returnAdjustedRefund Sample.contractHash Sample.sellerPayment
      (some "sig:seller1") (some "sig:seller2"))),
  .routeReplies 10]

end Protocol
end Coinbend
