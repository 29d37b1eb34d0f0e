import Coinbend.Protocol.Match

/-!
# The contract server

`ContractFactory` of `contract_server.py`: clients register the setup
transactions of their green addresses and match contracts against them; once
every contract output of two setups is locked both owners are sent their
`READY` message.
-/

namespace Coinbend

/-- The key under which a client registers a setup transaction. -/
abbrev InstanceId := String

/-- The address and port of a client. -/
abbrev Ident := String

structure ServerEnv (Hex : Type) extends MicrotransferEnv Hex where
  ecdsa : Ecdsa
  config : Config
  tradeContext : TradeContext
  /-- `hashlib.sha256(contract_msg)`. -/
  contractHash : ContractMsg → ContractHash
  /-- `C(text)`; `none` when the text is no amount. -/
  amountOfText : String → Option C

/-- A `REGISTER` message. -/
structure RegisterMsg (Hex : Type) where
  txHex : Hex
  pub1 : String
  pub2 : String
  sig1 : Sig
  sig2 : Sig
  instanceId : InstanceId
  ident : Ident
  deriving DecidableEq

/-- A handshake message of two nodes: its text without the signature is the
other fields. -/
structure Handshake where
  version : String
  ntp : String
  rpc : String
  contractHash : ContractHash
  sig : String
  deriving DecidableEq

/-- The signed part of a handshake. -/
def Handshake.signedText (handshake : Handshake) : String :=
  handshake.version ++ " " ++ handshake.ntp ++ " " ++ handshake.rpc ++ " " ++
    handshake.contractHash

/-- The fields of a collateral message, as they are printed. -/
structure CollateralMsg where
  chunkSize : String
  pubArbiter : String
  sig1 : String
  pub1 : String
  sig2 : String
  pub2 : String
  deriving DecidableEq

/-- The text a collateral message is signed for. -/
def CollateralMsg.signedText (info : CollateralMsg) : String :=
  info.chunkSize ++ " " ++ info.pubArbiter

/-- A `MATCH` message. -/
structure MatchMsg where
  contractMsg : ContractMsg
  ours : Handshake
  theirs : Handshake
  collateralInfo : CollateralMsg
  instanceId : InstanceId
  ident : Ident
  deriving DecidableEq

/-- The matched output of another instance. -/
structure Link where
  instanceId : InstanceId
  index : Nat
  contractHash : ContractHash
  deriving DecidableEq

/-- An output of an instance's setup transaction. -/
structure OutputRef where
  instanceId : InstanceId
  index : Nat
  deriving DecidableEq

/-- A registered setup transaction.  `owner` are the keys it was registered
with; the code checks them and forgets them. -/
structure Instance (Hex : Type) where
  owner : PubKey × PubKey
  details : SetupDetails Hex
  sig3 : Sig
  collateralInfo : Dict ContractHash CollateralMsg
  chunks : Dict Nat ChunkSizes
  locked : List Nat
  links : Dict Nat Link
  ident : Ident

/-- A `READY` message as the server builds it. -/
structure SentReady where
  instanceId : InstanceId
  sig3 : Sig
  setupDetails : List (Option Txid × ContractHash)
  collateralInfo : List CollateralMsg
  deriving DecidableEq

/-- A two-sided contract: the outputs found for the buyer and the seller. -/
structure TwoSided where
  contract : ParsedContract
  buyer : OutputRef
  seller : OutputRef

/-- The state of the server.  `matched` and `sent` are logs: the contracts found
on both sides and the messages sent, latest last. -/
structure ContractServer (Hex : Type) where
  instances : Dict InstanceId (Instance Hex)
  greenAddresses : Dict Txid InstanceId
  clients : List Ident
  matched : List TwoSided
  sent : List (Ident × SentReady)

/-- The server before any message. -/
def ContractServer.empty {Hex : Type} : ContractServer Hex where
  instances := ∅
  greenAddresses := ∅
  clients := []
  matched := []
  sent := []

/-- `sides`: the counterparty of a side. -/
def Actor.other : Actor → Actor
  | .buyer => .seller
  | .seller => .buyer

/-- `contract[side]`. -/
def ParsedContract.side (contract : ParsedContract) : Actor → ContractParty
  | .buyer => contract.buyer
  | .seller => contract.seller

/-- `chunks[side]`. -/
def ChunkSizes.side (chunks : ChunkSizes) : Actor → C
  | .buyer => chunks.buyer
  | .seller => chunks.seller

/-- `works[side]`. -/
def TwoSided.side (works : TwoSided) : Actor → OutputRef
  | .buyer => works.buyer
  | .seller => works.seller

/-- The owner's keys of one side of a contract. -/
def ContractParty.keys (party : ContractParty) : PubKey × PubKey :=
  (party.ecdsa.1, party.ecdsa.2.1)

namespace ContractServer

variable {Hex : Type}

/-- Change a stored instance. -/
def modifyInstance
    (server : ContractServer Hex)
    (id : InstanceId)
    (change : Instance Hex → Instance Hex) : ContractServer Hex :=
  match server.instances.get? id with
  | some found => { server with instances := server.instances.set id (change found) }
  | none => server

/-! ## REGISTER -/

/-- `parse_register_msg`.  The server signs first, so the transaction is checked
with three signatures. -/
def parseRegisterMsg
    (env : ServerEnv Hex)
    (server : ContractServer Hex)
    (msg : RegisterMsg Hex) : Outcome (ContractServer Hex) PyError Unit :=
  Outcome.attempt server
    (Except.ofOption .valueError (env.ecdsa.load msg.pub1)) fun ecdsa1 =>
  Outcome.attempt server
    (Except.ofOption .valueError (env.ecdsa.load msg.pub2)) fun ecdsa2 =>
  if server.instances.contains msg.instanceId then Outcome.pure server ()
  else
    let redeemScript := greenRedeemScript ecdsa1 ecdsa2
      env.config.ecdsaEncrypted env.config.ecdsaOffline
    Outcome.attempt server
      (signSetupTx env.lib msg.txHex redeemScript env.config.ecdsaEncrypted)
      fun sig3 =>
    Outcome.attempt server
      (validateSetupTx env.toMicrotransferEnv env.ecdsa env.config msg.txHex
        ecdsa1 ecdsa2 (some msg.sig1) (some msg.sig2) (some sig3) none 0)
      fun
      | .error _ => Outcome.pure server ()
      | .ok details =>
          if server.greenAddresses.contains details.depositTxid then
            Outcome.pure server ()
          else
            let registered : Instance Hex := {
              owner := (ecdsa1, ecdsa2)
              details, sig3
              collateralInfo := ∅
              chunks := ∅
              locked := []
              links := ∅
              ident := msg.ident }
            Outcome.pure
              { server with
                instances := server.instances.set msg.instanceId registered
                greenAddresses :=
                  server.greenAddresses.set details.depositTxid
                    msg.instanceId }
              ()

/-! ## MATCH: the checks -/

/-- The side that signed "our handshake", when the other one signed theirs. -/
def handshakeActor
    (env : ServerEnv Hex)
    (contract : ParsedContract)
    (ours theirs : Handshake) : Option Actor :=
  let buyerKey := contract.buyer.ecdsa.1
  let sellerKey := contract.seller.ecdsa.1
  if env.ecdsa.validSignature buyerKey ours.sig ours.signedText then
    if env.ecdsa.validSignature sellerKey theirs.sig theirs.signedText then
      some .buyer
    else none
  else if env.ecdsa.validSignature sellerKey ours.sig ours.signedText then
    if env.ecdsa.validSignature buyerKey theirs.sig theirs.signedText then
      some (if sellerKey = buyerKey then .buyer else .seller)
    else none
  else none

/-- "Check signed collateral info msg": either chunk size of the contract,
signed with both keys of the actor. -/
def collateralIsSigned
    (env : ServerEnv Hex)
    (contract : ParsedContract)
    (actor : Actor)
    (info : CollateralMsg) : Except PyError Bool := do
  let chunkSize ← Except.ofOption
    (.exception "Invalid number format for pieces.")
    (env.amountOfText info.chunkSize)
  let party := contract.side actor
  return (chunkSize = contract.seller.chunkSize ∨
      chunkSize = contract.buyer.chunkSize) ∧
    info.pub1 = party.ecdsa.1 ∧
    env.ecdsa.validSignature party.ecdsa.1 info.sig1 info.signedText ∧
    env.ecdsa.validSignature party.ecdsa.2.1 info.sig2 info.signedText

/-- The first part of `parse_match_msg`: check the message and record its
collateral in the instance it names. -/
def acceptMatchMsg
    (env : ServerEnv Hex)
    (server : ContractServer Hex)
    (msg : MatchMsg) :
    Outcome (ContractServer Hex) PyError (Option (ParsedContract × Actor)) :=
  Outcome.attempt server
    (parseContract env.tradeContext env.ecdsa.load env.contractHash
      msg.contractMsg) fun contract =>
  if server.instances.contains msg.instanceId = false then
    Outcome.pure server none
  else
    let server := server.modifyInstance msg.instanceId fun found =>
      { found with ident := msg.ident }
    if msg.ours.contractHash ≠ msg.theirs.contractHash then
      Outcome.pure server none
    else if msg.ours.contractHash ≠ contract.hash then Outcome.pure server none
    else
      match handshakeActor env contract msg.ours msg.theirs with
      | none => Outcome.pure server none
      | some actor =>
          Outcome.attempt server
            (collateralIsSigned env contract actor msg.collateralInfo)
            fun isSigned =>
          if isSigned = false then Outcome.pure server none
          else
            Outcome.pure
              (server.modifyInstance msg.instanceId fun found =>
                { found with
                  collateralInfo :=
                    found.collateralInfo.set contract.hash msg.collateralInfo })
              (some (contract, actor))

/-! ## MATCH: finding both outputs -/

/-- The output script of one side of a contract. -/
def sideScript
    (env : ServerEnv Hex)
    (contract : ParsedContract)
    (side : Actor) : Script :=
  p2shScript env.lib (bondRedeemScript
    ⟨(contract.side side).keys, (contract.side side.other).keys,
      env.config.ecdsaArbiter⟩ .us)

/-- "Do the amounts add up?": what the output of one side has to hold. -/
def calibratedAmount
    (env : ServerEnv Hex)
    (contract : ParsedContract)
    (side : Actor) : ℚ :=
  let amount :=
    match side with
    | .buyer => contract.trade.total
    | .seller => contract.trade.amount
  DecimalRounding.roundDigits env.prec
    (amount.asDecimal - (contract.side side).chunkSize.asDecimal)

/-- The output funds one side of a contract. -/
def Funds
    (env : ServerEnv Hex)
    (contract : ParsedContract)
    (side : Actor)
    (vout : CTxOut) : Prop :=
  vout.scriptPubKey = sideScript env contract side ∧
    calibratedAmount env contract side ≤ strMoneyValue vout.nValue

instance
    (env : ServerEnv Hex)
    (contract : ParsedContract)
    (side : Actor)
    (vout : CTxOut) : Decidable (Funds env contract side vout) :=
  inferInstanceAs (Decidable (_ ∧ _))

/-- "Find a valid contract output": the first one that funds the side, in the
instance of its deposit, when that has any collateral.  Outputs are counted
from one, after the fee output. -/
def findOutput
    (env : ServerEnv Hex)
    (server : ContractServer Hex)
    (contract : ParsedContract)
    (side : Actor) : Option OutputRef := do
  let id ← server.greenAddresses.get? (contract.side side).depositTxid
  let found ← server.instances.get? id
  if found.collateralInfo.entries = [] then none
  else
    let position ← found.details.contractVouts.findIdx? fun vout =>
      Funds env contract side vout
    return ⟨id, position + 1⟩

/-- "Save chunk size details." -/
def saveChunks
    (server : ContractServer Hex)
    (contract : ParsedContract)
    (output : OutputRef) : ContractServer Hex :=
  server.modifyInstance output.instanceId fun found =>
    { found with
      chunks := found.chunks.set output.index
        ⟨contract.buyer.chunkSize, contract.seller.chunkSize⟩ }

/-- Save the chunk sizes of an output that was found. -/
def saveFound
    (server : ContractServer Hex)
    (contract : ParsedContract)
    (output : Option OutputRef) : ContractServer Hex :=
  match output with
  | some output => server.saveChunks contract output
  | none => server

/-- "Lock vouts" and "save instance references" of one side.  The test before
the append looks for the output among the indices, where it never is. -/
def lockSide
    (server : ContractServer Hex)
    (works : TwoSided)
    (side : Actor) : ContractServer Hex :=
  let ours := works.side side
  let theirs := works.side side.other
  server.modifyInstance ours.instanceId fun found =>
    { found with
      locked := found.locked ++ [ours.index]
      links := found.links.set ours.index
        ⟨theirs.instanceId, theirs.index, works.contract.hash⟩ }

/-- As many locks as contract outputs. -/
def isReady (server : ContractServer Hex) (id : InstanceId) : Bool :=
  match server.instances.get? id with
  | some found => found.details.contractVouts.length = found.locked.length
  | none => false

/-! ## MATCH: the fee and the READY messages -/

/-- The recorded chunks of one side, up to the first output without any. -/
def chunkTotal (chunks : Dict Nat ChunkSizes) (side : Actor) :
    List CTxOut → Nat → C → Except PyError C
  | [], _, total => .ok total
  | _ :: vouts, index, total =>
      match chunks.get? index with
      | none => .ok total
      | some sizes => do
          let total ← total.add (sizes.side side)
          chunkTotal chunks side vouts (index + 1) total

/-- "Check fee output amount." -/
def feeIsCorrect
    (env : ServerEnv Hex)
    (found : Instance Hex)
    (side : Actor) : Except PyError Bool := do
  let collateral ← chunkTotal found.chunks side found.details.contractVouts 1 0
  let fee ← C.ofDecimal found.details.feeTotal
  let contractTotal ← C.ofDecimal found.details.contractTotal
  let totalCoins ← fee.add contractTotal
  let change ← C.ofDecimal found.details.changeTotal
  let charged ← totalCoins.sub change
  let fees ← charged.mul env.config.tradeFee
  let expectedFee ← collateral.add fees
  return expectedFee = fee

/-- The fee check of the instance of one side. -/
def sideFeeIsCorrect
    (env : ServerEnv Hex)
    (server : ContractServer Hex)
    (works : TwoSided)
    (side : Actor) : Except PyError Bool := do
  let found ← Except.ofOption .keyError
    (server.instances.get? (works.side side).instanceId)
  feeIsCorrect env found side

/-- `new_ready_msg`. -/
def newReadyMsg
    (server : ContractServer Hex)
    (instanceId : InstanceId)
    (sig3 : Sig)
    (links : Dict Nat Link) : Except PyError SentReady := do
  let parts ← links.values.mapM fun link => do
    let linked ← Except.ofOption .keyError
      (server.instances.get? link.instanceId)
    let info ← Except.ofOption .keyError
      (linked.collateralInfo.get? link.contractHash)
    return ((linked.details.signed.map SignedTx.txid, link.contractHash), info)
  return {
    instanceId, sig3
    setupDetails := parts.map Prod.fst
    collateralInfo := parts.map Prod.snd }

/-- Build the `READY` message of one side's instance and send it to its client
if that is connected. -/
def sendReady
    (server : ContractServer Hex)
    (works : TwoSided)
    (side : Actor) : Outcome (ContractServer Hex) PyError Unit :=
  let id := (works.side side).instanceId
  Outcome.attempt server
    (Except.ofOption .keyError (server.instances.get? id)) fun found =>
  Outcome.attempt server (server.newReadyMsg id found.sig3 found.links)
    fun ready =>
  if found.ident ∈ server.clients then
    Outcome.pure { server with sent := server.sent ++ [(found.ident, ready)] } ()
  else Outcome.pure server ()

/-- "Both vouts found": lock both outputs and, when that completes both
instances and their fees are correct, send both `READY` messages. -/
def lockBoth
    (env : ServerEnv Hex)
    (server : ContractServer Hex)
    (works : TwoSided) : Outcome (ContractServer Hex) PyError Unit :=
  let server := { server with matched := server.matched ++ [works] }
  let server := server.lockSide works .buyer
  let buyerReady := server.isReady works.buyer.instanceId
  let server := server.lockSide works .seller
  let sellerReady := server.isReady works.seller.instanceId
  if (buyerReady && sellerReady) = false then Outcome.pure server ()
  else
    Outcome.attempt server (sideFeeIsCorrect env server works .buyer)
      fun buyerFee =>
    Outcome.attempt server (sideFeeIsCorrect env server works .seller)
      fun sellerFee =>
    if (buyerFee && sellerFee) = false then Outcome.pure server ()
    else
      (server.sendReady works .buyer).bind fun server _ =>
        server.sendReady works .seller

/-- The second part of `parse_match_msg`. -/
def matchSides
    (env : ServerEnv Hex)
    (server : ContractServer Hex)
    (contract : ParsedContract) : Outcome (ContractServer Hex) PyError Unit :=
  let buyer := findOutput env server contract .buyer
  let server := server.saveFound contract buyer
  let seller := findOutput env server contract .seller
  let server := server.saveFound contract seller
  match buyer, seller with
  | some buyer, some seller => lockBoth env server ⟨contract, buyer, seller⟩
  | _, _ => Outcome.pure server ()

/-- `parse_match_msg`. -/
def parseMatchMsg
    (env : ServerEnv Hex)
    (server : ContractServer Hex)
    (msg : MatchMsg) : Outcome (ContractServer Hex) PyError Unit :=
  (acceptMatchMsg env server msg).bind fun server accepted =>
    match accepted with
    | some (contract, _) => matchSides env server contract
    | none => Outcome.pure server ()

end ContractServer

/-! ## Runs -/

/-- What reaches the server. -/
inductive ServerEvent (Hex : Type)
  | connectionMade (ident : Ident)
  | connectionLost (ident : Ident)
  | registerMsg (msg : RegisterMsg Hex)
  | matchMsg (msg : MatchMsg)

/-- One event.  Exceptions of a handler end in `lineReceived`. -/
def serverStep {Hex : Type}
    (env : ServerEnv Hex)
    (server : ContractServer Hex) : ServerEvent Hex → ContractServer Hex
  | .connectionMade ident => { server with clients := ident :: server.clients }
  | .connectionLost ident =>
      { server with clients := server.clients.filter (· ≠ ident) }
  | .registerMsg msg => (server.parseRegisterMsg env msg).state
  | .matchMsg msg => (server.parseMatchMsg env msg).state

end Coinbend
