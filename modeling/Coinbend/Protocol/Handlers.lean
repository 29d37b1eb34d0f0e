import Coinbend.Protocol.Node

/-!
# Message handlers

The handlers of `hybrid_protocol.py` for the messages of the microtransfer
protocol.  Each one is run by `understand`, which turns an exception into an
empty list of replies and keeps what the handler changed before it raised.
-/

namespace Coinbend

/-- What a handler returns to the main loop. -/
inductive Reply (Hex : Type)
  | line (text : String)
  | hybrid (reply : HybridReply Hex)
  deriving DecidableEq

/-- The outcome of a handler. -/
abbrev Handled (Hex : Type) := Outcome (Node Hex) PyError (List (Reply Hex))

/-- Where and when a message arrived: its connection, the local clock, the
network clock in seconds, and the one `parse_msg` compares the timestamp of the
message with. -/
structure Arrival where
  con : Con
  now : Time
  ntp : Nat
  clock : ℚ

namespace Protocol

variable {Hex : Type} (env : ProtocolEnv Hex)

/-- "Check they sent this message." -/
def sentByThem (contract : MicrotransferContract Hex) (msg : Message Hex) :
    Bool :=
  env.ecdsa.validSignature contract.keys.ecdsaThem.1 msg.sig msg.text

/-! ## Refund signatures -/

/-- "Update state" of `parse_get_refund_sig`: the state to enter and whether
the reply waits for our setup transaction to confirm. -/
def getRefundSigState (actor : Actor) (state : Option ProtocolState) :
    Option (ProtocolState × Bool) :=
  match actor with
  | .buyer =>
      if state ≠ some .pendingBuyerReturnRefundSig then
        if state = some .pendingBuyerSetupTxConfirm then none
        else some (.pendingBuyerSetupTxConfirm, true)
      else some (.pendingBuyerGetRefundSig, false)
  | .seller => some (.pendingSellerGetSetupTx, false)

/-- The checks of `parse_get_refund_sig` after the state update and our
signature of the refund; `none` where the handler returns early. -/
def checkGetRefundSig
    (prec : Nat)
    (factory : MicrotransferFactory Hex)
    (contract : MicrotransferContract Hex)
    (contractHash : ContractHash)
    (refundTxHex : Hex) : Except PyError (Option Sig) :=
  match factory.setupTxids.get? contractHash with
  | none => .ok none
  | some theirSetupTxid => do
      let tx ← env.lib.parse refundTxHex
      match tx.vin with
      | [input] =>
          if input.nSequence ≠ 0 then return none
          if input.prevout.hash ≠ theirSetupTxid then return none
          if tx.nLockTime ≠ contract.nlockTime then return none
          let refundSig ← MicrotransferContract.signRefundTx (env.micro prec)
            contract.keys refundTxHex 1 .them
          return some refundSig
      | _ => return none

/-- `parse_get_refund_sig`. -/
def parseGetRefundSig
    (node : Node Hex)
    (arrival : Arrival)
    (msg : Message Hex)
    (contractHash : ContractHash)
    (refundTxHex : Hex) : Handled Hex :=
  match node.findContract contractHash with
  | none => Outcome.pure node []
  | some (trade, contract) =>
  if sentByThem env contract msg = false then Outcome.pure node [] else
  match getRefundSigState (node.actor trade)
      (node.matchState contract.matched).state with
  | none => Outcome.pure node []
  | some (state, waits) =>
  match node.updateState contract.matched state arrival.now with
  | (node, false) => Outcome.pure node []
  | (node, true) =>
  Outcome.attempt node
    (checkGetRefundSig env node.prec (node.factory trade) contract contractHash
      refundTxHex) fun checked =>
  match checked with
  | none => Outcome.pure node []
  | some refundSig =>
      Outcome.pure
        (node.modifyFactory trade fun factory =>
          { factory with
            refunds := factory.refunds.set contractHash
              { txHex := refundTxHex, ourSig := refundSig } })
        [.hybrid {
          lines := [.message (env.newMessage arrival.ntp
            (.returnRefundSig contractHash (some refundSig))
            contract.keys.ecdsaUs.1)]
          statusChecker := if waits then some contract.matched else none
          sourceCon := arrival.con }]

/-- "Check refund works" of `parse_return_refund_sig`. -/
def checkReturnRefundSig
    (prec : Nat)
    (factory : MicrotransferFactory Hex)
    (contract : MicrotransferContract Hex)
    (theirSig : Sig) : Except PyError (SignedTx Hex) := do
  let txHex ← Except.ofOption .typeError factory.refund.txHex
  let ourSig1 ← MicrotransferContract.signRefundTx (env.micro prec)
    contract.keys txHex 1 .us
  let ourSig2 ← MicrotransferContract.signRefundTx (env.micro prec)
    contract.keys txHex 2 .us
  MicrotransferContract.checkRefundWorks (env.micro prec) contract.keys txHex
    ourSig1 ourSig2 theirSig .us

/-- The state `parse_return_refund_sig` enters. -/
def returnRefundSigState : Actor → ProtocolState
  | .seller => .pendingSellerReturnRefundSig
  | .buyer => .pendingBuyerReturnSetupTx

/-- `parse_return_refund_sig`. -/
def parseReturnRefundSig
    (node : Node Hex)
    (arrival : Arrival)
    (msg : Message Hex)
    (contractHash : ContractHash)
    (theirSig : Option Sig) : Handled Hex :=
  Outcome.attempt node (Except.ofOption .binasciiError theirSig) fun theirSig =>
  match node.findContract contractHash with
  | none => Outcome.pure node []
  | some (trade, contract) =>
  if sentByThem env contract msg = false then Outcome.pure node [] else
  match node.updateState contract.matched
      (returnRefundSigState (node.actor trade)) arrival.now with
  | (node, false) => Outcome.pure node []
  | (node, true) =>
  Outcome.attempt node
    (checkReturnRefundSig env node.prec (node.factory trade) contract theirSig)
    fun refundWorks =>
  Outcome.pure
    (node.modifyFactory trade fun factory =>
      { factory with
        refund := { factory.refund with signed := some refundWorks } })
    []

/-! ## Setup transactions -/

/-- The state `parse_get_setup_tx` enters. -/
def getSetupTxState : Actor → ProtocolState
  | .buyer => .pendingBuyerGetSetupTx
  | .seller => .sellerInitiateMicrotransfer

/-- `parse_get_setup_tx`. -/
def parseGetSetupTx
    (node : Node Hex)
    (arrival : Arrival)
    (msg : Message Hex)
    (contractHash : ContractHash) : Handled Hex :=
  match node.findContract contractHash with
  | none => Outcome.pure node []
  | some (trade, contract) =>
  match node.updateState contract.matched
      (getSetupTxState (node.actor trade)) arrival.now with
  | (node, false) => Outcome.pure node []
  | (node, true) =>
  if sentByThem env contract msg = false then Outcome.pure node [] else
  let factory := node.factory trade
  Outcome.pure node
    [.hybrid {
      lines := [.message (env.newMessage arrival.ntp
        (.returnSetupTx contractHash
          (factory.setup.signed.map SignedTx.txHex)
          (factory.collateralInfo.values.map some))
        factory.greenAddress.ecdsa1)]
      statusChecker := none
      sourceCon := arrival.con }]

/-- The dictionary of parsed collateral messages, by first public key. -/
def parseCollateralInfos (infos : List (Option CollateralInfo)) :
    Except PyError (Dict String CollateralInfo) :=
  infos.foldlM
    (fun parsed info => do
      let info ← Except.ofOption .binasciiError info
      return parsed.set info.pub1 info)
    ∅

/-- The checks of `parse_return_setup_tx` before the state update: the record
to store, or `none` where the handler returns early. -/
def checkReturnSetupTx
    (prec : Nat)
    (factory : MicrotransferFactory Hex)
    (contract : MicrotransferContract Hex)
    (contractHash : ContractHash)
    (setupTxHex : Option Hex)
    (collateralInfo : List (Option CollateralInfo)) :
    Except PyError (Option (SignedTx Hex)) := do
  let collateralInfo ← parseCollateralInfos collateralInfo
  let setupTxHex ← Except.ofOption .binasciiError setupTxHex
  let valid ← validateSetupTx (env.micro prec) env.ecdsa env.config setupTxHex
    contract.keys.ecdsaThem.1 contract.keys.ecdsaThem.2 none none none
    (some collateralInfo) env.config.tradeFee
  match valid with
  | .error _ => return none
  | .ok _ =>
      match factory.setupTxids.get? contractHash with
      | none => return none
      | some theirSetupTxid =>
          let txid := env.lib.calculateTxid setupTxHex
          if txid ≠ theirSetupTxid then return none
          return some { txHex := setupTxHex, txid }

/-- The state `parse_return_setup_tx` enters. -/
def returnSetupTxState : Actor → ProtocolState
  | .seller => .pendingSellerReturnSetupTx
  | .buyer => .buyerAcceptMicrotransfer

/-- `parse_return_setup_tx`. -/
def parseReturnSetupTx
    (node : Node Hex)
    (arrival : Arrival)
    (msg : Message Hex)
    (contractHash : ContractHash)
    (setupTxHex : Option Hex)
    (collateralInfo : List (Option CollateralInfo)) : Handled Hex :=
  match node.findContract contractHash with
  | none => Outcome.pure node []
  | some (trade, contract) =>
  if sentByThem env contract msg = false then Outcome.pure node [] else
  Outcome.attempt node
    (checkReturnSetupTx env node.prec (node.factory trade) contract
      contractHash setupTxHex collateralInfo) fun checked =>
  match checked with
  | none => Outcome.pure node []
  | some record =>
  match node.updateState contract.matched
      (returnSetupTxState (node.actor trade)) arrival.now with
  | (node, false) => Outcome.pure node []
  | (node, true) =>
  Outcome.pure
    (node.modifyFactory trade fun factory =>
      { factory with setups := factory.setups.set contractHash record })
    []

/-! ## Payments -/

/-- The state in which `parse_return_adjusted_refund` takes payments. -/
def acceptState : Actor → ProtocolState
  | .buyer => .buyerAcceptMicrotransfer
  | .seller => .sellerAcceptMicrotransfer

/-- The call of `adjust_refund_tx` a received payment leads to.  Their setup
and refund transactions have to be recorded. -/
def adjustReceived
    (prec : Nat)
    (factory : MicrotransferFactory Hex)
    (contract : MicrotransferContract Hex)
    (contractHash : ContractHash)
    (received : Option (ReceivedTx Hex)) :
    Outcome (MicrotransferContract Hex) PyError (AdjustResult Hex) :=
  Outcome.attempt contract
    (Except.ofOption .keyError (factory.setups.get? contractHash))
    fun theirSetup =>
  Outcome.attempt contract
    (Except.ofOption .keyError (factory.refunds.get? contractHash))
    fun theirRefund =>
  contract.adjustRefundTx (env.micro prec)
    (factory.setup.signed.map SignedTx.txid) theirSetup.txHex theirRefund.txHex
    received

/-- A payment changes the counters and the stored payment only. -/
theorem adjustReceived_progress
    (prec : Nat)
    (factory : MicrotransferFactory Hex)
    (contract : MicrotransferContract Hex)
    (contractHash : ContractHash)
    (received : Option (ReceivedTx Hex)) :
    ∃ sent recv ourDownload,
      (adjustReceived env prec factory contract contractHash received).state =
        contract.progress sent recv ourDownload := by
  let kept (after : MicrotransferContract Hex) : Prop :=
    ∃ sent recv ourDownload, after = contract.progress sent recv ourDownload
  refine Outcome.attempt_state (motive := kept) ⟨_, _, _, rfl⟩ ?_
  intro theirSetup _
  refine Outcome.attempt_state (motive := kept) ⟨_, _, _, rfl⟩ ?_
  intro theirRefund _
  exact contract.adjustRefundTx_progress (env.micro prec)
    (factory.setup.signed.map SignedTx.txid) theirSetup.txHex
    theirRefund.txHex received

/-- The message that carries the next payment, if there is one. -/
def paymentLines
    (ntp : Nat)
    (contractHash : ContractHash)
    (ecdsa1 : PubKey) : AdjustResult Hex → List (Line Hex)
  | .payment txHex firstSig secondSig =>
      [.message (env.newMessage ntp
        (.returnAdjustedRefund contractHash txHex (some firstSig)
          (some secondSig)) ecdsa1)]
  | _ => []

/-- Both sides have been paid in full. -/
def paidInFull (contract : MicrotransferContract Hex) : Prop :=
  contract.trade.sent = contract.uploadAmount ∧
    contract.trade.recv = contract.downloadAmount

instance (contract : MicrotransferContract Hex) :
    Decidable (paidInFull contract) :=
  inferInstanceAs (Decidable (_ ∧ _))

/-- Put a changed contract back into its factory. -/
def storeContract
    (node : Node Hex)
    (trade : TradeRef)
    (contractHash : ContractHash)
    (contract : MicrotransferContract Hex) : Node Hex :=
  node.modifyFactory trade fun factory =>
    { factory with contracts := factory.contracts.set contractHash contract }

/-- `parse_return_adjusted_refund`. -/
def parseReturnAdjustedRefund
    (node : Node Hex)
    (arrival : Arrival)
    (msg : Message Hex)
    (contractHash : ContractHash)
    (refundTx : Hex)
    (refundSig1 refundSig2 : Option Sig) : Handled Hex :=
  Outcome.attempt node (Except.ofOption .binasciiError refundSig1)
    fun firstSig =>
  Outcome.attempt node (Except.ofOption .binasciiError refundSig2)
    fun secondSig =>
  match node.findContract contractHash with
  | none => Outcome.pure node []
  | some (trade, contract) =>
  if (node.matchState contract.matched).state ≠
      some (acceptState (node.actor trade)) then Outcome.pure node []
  else if sentByThem env contract msg = false then Outcome.pure node []
  else
  let factory := node.factory trade
  let adjusted := adjustReceived env node.prec factory contract contractHash
    (some ⟨refundTx, firstSig, secondSig⟩)
  let node := storeContract node trade contractHash adjusted.state
  Outcome.attempt node adjusted.result fun result =>
  let node :=
    if paidInFull adjusted.state then
      (node.updateState contract.matched .pendingMicrotransferComplete
        arrival.now).1
    else node
  Outcome.pure node
    [.hybrid {
      lines := paymentLines env arrival.ntp contractHash
        factory.greenAddress.ecdsa1 result
      statusChecker := none
      sourceCon := arrival.con }]

/-! ## The handshake -/

/-- A trade with the template's numbers and an action and order hash of its
own: the constructor calls of `calibrate_trades`. -/
def calibratedTrade
    (context : TradeContext)
    (action : Action)
    (template : Trade)
    (orderHash : OrderHash) : Except PyError Trade :=
  Trade.new context {
    action
    amount := template.amount
    pair := template.pair
    ppc := template.ppc
    orderHash }

/-- Store the two calibrated trades; the first stays when the second could not
be built. -/
def storeCalibrated
    (matched : MatchState Hex)
    (toSend toRecv : Except PyError Trade) :
    Outcome (MatchState Hex) PyError Bool :=
  Outcome.attempt matched toSend fun toSend =>
  let matched := { matched with toSend := some toSend }
  Outcome.attempt matched toRecv fun toRecv =>
  Outcome.pure { matched with toRecv := some toRecv } true

/-- `calibrate_trades`: the flag is the return value. -/
def calibrateTrades
    (context : TradeContext)
    (matched : MatchState Hex) : Outcome (MatchState Hex) PyError Bool :=
  match matched.matchSent, matched.matchReply with
  | some sent, some reply =>
      let template :=
        if reply.timestamp < sent.timestamp then sent.trade else reply.trade
      storeCalibrated matched
        (calibratedTrade context sent.trade.action template
          sent.trade.orderHash)
        (calibratedTrade context reply.trade.action template
          reply.trade.orderHash)
  | _, _ => Outcome.pure matched false

/-- The constructor arguments `register_contract` passes to `add_contract`. -/
def contractArgs
    (config : Config)
    (details : ParsedContract)
    (toSend : Trade)
    (greenAddress : GreenAddress Hex)
    (matched : MatchRef) : MicrotransferContract.Args :=
  let (us, them) :=
    match toSend.actor with
    | .buyer => (details.buyer, details.seller)
    | .seller => (details.seller, details.buyer)
  { matched
    trade := toSend
    keys := {
      ecdsaUs := (greenAddress.ecdsa1, greenAddress.ecdsa2)
      ecdsaThem := (them.ecdsa.1, them.ecdsa.2.1)
      ecdsaArbiter := config.ecdsaArbiter }
    vout := 0
    ourAddress := us.address
    theirAddress := them.address
    chunkSizes := {
      buyer := details.buyer.chunkSize
      seller := details.seller.chunkSize }
    ntp := details.ntp
    ourTxFee := 0
    theirTxFee := 0 }

/-- `contract_factory.our_tx_fee`, `tx_fee_amount` and `their_tx_fee` are set
to the fees of the two currencies. -/
def setFees
    (coins : String → Option CoinConfig)
    (factory : MicrotransferFactory Hex)
    (toSend : Trade) : Outcome (MicrotransferFactory Hex) PyError Unit :=
  Outcome.attempt factory
    (MicrotransferContract.coinConfig coins toSend.sendCurrency)
    fun sendCoin =>
  let factory :=
    { factory with ourTxFee := sendCoin.txFee, txFeeAmount := sendCoin.txFee }
  Outcome.attempt factory
    (MicrotransferContract.coinConfig coins toSend.recvCurrency)
    fun recvCoin =>
  Outcome.pure { factory with theirTxFee := recvCoin.txFee } ()

/-- `register_contract`, on the factory of the trade the match belongs to.
The lines sent to the contract server are left out. -/
def registerContract
    (prec : Nat)
    (rpc : CoinRpc)
    (instanceId : String)
    (factory : MicrotransferFactory Hex)
    (matched : MatchRef)
    (toSend : Trade)
    (greenAddress : GreenAddress Hex)
    (contractMsg : ContractMsg) :
    Outcome (MicrotransferFactory Hex) PyError Unit :=
  Outcome.attempt factory
    (parseContract (env.tradeContext prec) env.ecdsa.load env.sha256
      contractMsg) fun details =>
  (setFees env.coins factory toSend).bind fun factory _ =>
  (factory.addContract (env.micro contractPrec) env.coins rpc details.hash
    (contractArgs env.config details toSend greenAddress matched)).bind
    fun factory _ =>
  (factory.buildSetup (env.micro contractPrec) env.config env.coins rpc).bind
    fun factory _ =>
  Outcome.pure { factory with instanceId := some instanceId } ()

/-- The end of `parse_shake_on_it`: register the contract of a calibrated match
and wait for it to be funded. -/
def registerShake
    (rpc : CoinRpc)
    (instanceId : String)
    (node : Node Hex)
    (arrival : Arrival)
    (trade : TradeRef)
    (matched : MatchRef)
    (contract : ParsedContract) : Handled Hex :=
  let found := node.matchState matched
  Outcome.attempt node (Except.ofOption .attributeError found.toSend)
    fun toSend =>
  Outcome.attempt node (Except.ofOption .attributeError found.matchSent)
    fun sent =>
  let registered := registerContract env node.prec rpc instanceId
    (node.factory trade) matched toSend sent.greenAddress contract.msg
  let node :=
    { node.modifyFactory trade fun _ => registered.state with
      prec := contractPrec }
  Outcome.attempt node registered.result fun _ =>
  let node := (node.updateState matched .pendingContract arrival.now).1
  Outcome.pure node [.line "valid"]

/-- `parse_shake_on_it` once the match is found and its connection stored. -/
def shakeOnMatch
    (rpc : CoinRpc)
    (instanceId : String)
    (node : Node Hex)
    (arrival : Arrival)
    (msg : Message Hex)
    (trade : TradeRef)
    (matched : MatchRef) : Handled Hex :=
  let found := node.matchState matched
  Outcome.attempt node (Except.ofOption .attributeError found.matchReply)
    fun reply =>
  if env.ecdsa.validSignature reply.ecdsa1 msg.sig msg.text = false then
    Outcome.pure node []
  else
  Outcome.attempt node (Except.ofOption .typeError found.contract)
    fun contract =>
  let calibrated := calibrateTrades (env.tradeContext node.prec) found
  let node := node.modifyMatch matched fun _ => calibrated.state
  Outcome.attempt node calibrated.result fun done =>
  if done = false then Outcome.pure node [] else
  let node := node.modifyMatch matched fun found =>
    { found with theirHandshakeMsg := some msg }
  registerShake env rpc instanceId node arrival trade matched contract

/-- `parse_shake_on_it`. -/
def parseShakeOnIt
    (rpc : CoinRpc)
    (instanceId : String)
    (node : Node Hex)
    (arrival : Arrival)
    (msg : Message Hex)
    (contractHash : ContractHash) : Handled Hex :=
  match node.findMatchState contractHash with
  | none => Outcome.pure node []
  | some (trade, matched) =>
  if stateMachine (node.matchState matched).state .pendingContract = false then
    Outcome.pure node []
  else
    shakeOnMatch env rpc instanceId
      (node.modifyMatch matched fun found =>
        { found with con := some arrival.con })
      arrival msg trade matched

/-- A message gets through `parse_msg` and the expression of its handler. -/
def isRead (arrival : Arrival) (msg : Message Hex) : Bool :=
  msg.isRead env.parser env.hexText arrival.clock

/-- The handler of a message, once its expression found it. -/
def handlePayload
    (rpc : CoinRpc)
    (instanceId : String)
    (node : Node Hex)
    (arrival : Arrival)
    (msg : Message Hex) : Handled Hex :=
  match msg.payload with
  | .shakeOnIt contractHash =>
      parseShakeOnIt env rpc instanceId node arrival msg contractHash
  | .getRefundSig contractHash refundTxHex =>
      parseGetRefundSig env node arrival msg contractHash refundTxHex
  | .returnRefundSig contractHash refundSig =>
      parseReturnRefundSig env node arrival msg contractHash refundSig
  | .getSetupTx contractHash _ =>
      parseGetSetupTx env node arrival msg contractHash
  | .returnSetupTx contractHash setupTxHex collateralInfo =>
      parseReturnSetupTx env node arrival msg contractHash setupTxHex
        collateralInfo
  | .returnAdjustedRefund contractHash refundTx refundSig1 refundSig2 =>
      parseReturnAdjustedRefund env node arrival msg contractHash refundTx
        refundSig1 refundSig2

/-- `parse_msg`, and the handler of the message it hands the line to. -/
def parseMsg
    (rpc : CoinRpc)
    (instanceId : String)
    (node : Node Hex)
    (arrival : Arrival)
    (msg : Message Hex) : Handled Hex :=
  if isRead env arrival msg then
    handlePayload env rpc instanceId node arrival msg
  else Outcome.pure node []

end Protocol
end Coinbend
