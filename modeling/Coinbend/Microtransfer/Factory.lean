import Coinbend.Library.Outcome
import Coinbend.Microtransfer.SetupTx

/-!
# The contract factory

`MicrotransferFactory` of `microtransfer_contract.py`: the contracts of one
green address, the setup transaction that funds them all, and what is known of
the counterparties' transactions.
-/

namespace Coinbend

abbrev ContractHash := String

/-- An unspent deposit output of a green address. -/
structure GreenInput where
  txid : Txid
  vout : Nat
  amount : ℚ
  confirmations : Nat
  deriving DecidableEq

/-- `GreenAddress`, with `trade` already freed of its fees. -/
structure GreenAddress (Hex : Type) where
  trade : Trade
  ecdsa1 : PubKey
  ecdsa2 : PubKey
  ecdsaEncrypted : PubKey
  address : Address
  depositTxid : Txid
  depositTxHex : Option Hex
  inputs : List GreenInput
  deriving DecidableEq

/-- `factory.setup`. -/
structure SetupRecord (Hex : Type) where
  txHex : Option Hex
  txid : Option Txid
  sig1 : Option Sig
  sig2 : Option Sig
  signed : Option (SignedTx Hex)
  deriving DecidableEq

/-- `factory.refund`; `signed` is the placeholder until it is set. -/
structure RefundRecord (Hex : Type) where
  txHex : Option Hex
  txid : Option Txid
  signed : Option (SignedTx Hex)
  deriving DecidableEq

/-- An entry of `factory.refunds`: their refund and our signature of it. -/
structure TheirRefund (Hex : Type) where
  txHex : Hex
  ourSig : Sig
  deriving DecidableEq

structure MicrotransferFactory (Hex : Type) where
  greenAddress : GreenAddress Hex
  trade : Trade
  contracts : Dict ContractHash (MicrotransferContract Hex)
  setup : SetupRecord Hex
  refund : RefundRecord Hex
  setupTxids : Dict ContractHash Txid
  setups : Dict ContractHash (SignedTx Hex)
  refunds : Dict ContractHash (TheirRefund Hex)
  collateralInfo : Dict String CollateralInfo
  ourTxFee : C
  theirTxFee : C
  txFeeAmount : C
  total : C
  tradeFee : C
  instanceId : Option String
  deriving DecidableEq

/-- The answers of our coin daemon to the calls of one registration.  Inputs
found before a failing call stay loaded. -/
structure CoinRpc where
  getnewaddress : Except PyError Address
  getbalance : Except PyError C
  loadInputs : Outcome (List GreenInput) PyError Unit

namespace MicrotransferFactory

variable {Hex : Type}

def maxContractLimit : Nat := 10

/-- The checks of `add_contract` and the construction of the contract. -/
def prepareContract
    (env : MicrotransferEnv Hex)
    (coins : String → Option CoinConfig)
    (rpc : CoinRpc)
    (factory : MicrotransferFactory Hex)
    (args : MicrotransferContract.Args) :
    Except PyError (MicrotransferContract Hex) := do
  Except.raiseIf (args.trade.action ≠ factory.trade.action)
    (.assertionError ("Contract trades must have same action (direction) " ++
      "as green address"))
  Except.raiseIf (factory.trade.remaining < args.trade.remaining)
    (.exception "No more slots remain for contract factory.")
  let vout := factory.contracts.size + 1
  Except.raiseIf (maxContractLimit < vout)
    (.exception "Too many contracts for one setup TX.")
  let contract ←
    MicrotransferContract.new env coins rpc.getnewaddress
      { args with
        vout
        ourTxFee := factory.ourTxFee
        theirTxFee := factory.theirTxFee }
  let newRemaining ← factory.trade.remaining.sub args.trade.remaining
  let sendCoin ←
    MicrotransferContract.coinConfig coins args.trade.sendCurrency
  Except.raiseIf (newRemaining ≠ 0 ∧ newRemaining < sendCoin.dustThreshold)
    (.exception
      ("Resulting change output for microtransfer contract is bellow the " ++
        "dust threshold."))
  return contract

/-- `add_contract`. -/
def addContract
    (env : MicrotransferEnv Hex)
    (coins : String → Option CoinConfig)
    (rpc : CoinRpc)
    (factory : MicrotransferFactory Hex)
    (contractHash : ContractHash)
    (args : MicrotransferContract.Args) :
    Outcome (MicrotransferFactory Hex) PyError (MicrotransferContract Hex) :=
  Outcome.attempt factory (prepareContract env coins rpc factory args)
    fun contract =>
  Outcome.attempt factory (factory.trade.remaining.sub args.trade.remaining)
    fun remaining =>
  let factory := { factory with trade := { factory.trade with remaining } }
  Outcome.attempt factory (factory.total.add args.trade.remaining)
    fun total =>
  Outcome.pure
    { factory with
      total
      contracts := factory.contracts.set contractHash contract }
    contract

/-- `remove_contract`.  The name `contract` it reads is not bound, so removing a
stored contract raises as well. -/
def removeContract
    (factory : MicrotransferFactory Hex)
    (contractHash : ContractHash) :
    Outcome (MicrotransferFactory Hex) PyError Unit :=
  if factory.contracts.contains contractHash = false then
    Outcome.raise factory
      (.exception "Contract not found in contract factory.")
  else Outcome.raise factory (.nameError "contract")

/-- The index of the first pay-to-script-hash output: `parse_address(...)[0]`,
which has another type when there is none. -/
def depositVout (depositTx : CTransaction) : Option (Nat × Bytes) :=
  depositTx.vout.zipIdx.findSome? fun (output, index) =>
    match output.scriptPubKey with
    | .p2sh hash => some (index, hash)
    | _ => none

/-- "Setup tx inputs": the first confirmed input at the deposit's output. -/
def setupInput
    (confirmations p2shIndex : Nat)
    (inputs : List GreenInput) : Option GreenInput :=
  inputs.find? fun input =>
    confirmations ≤ input.confirmations ∧ input.vout = p2shIndex

/-- Collateral and funds of all contracts: the sums of "Calculate collateral
amount". -/
def collateralSums (factory : MicrotransferFactory Hex) :
    Except PyError (C × C) :=
  factory.contracts.values.foldlM
    (fun (collateral, toSend) contract => do
      let collateral ← collateral.add contract.ourChunkSize
      let funds ← contract.uploadAmount.add contract.ourChunkSize
      let funds ← funds.add factory.txFeeAmount
      let toSend ← toSend.add funds
      return (collateral, toSend))
    ((0 : C), (0 : C))

/-- The trade fees, reduced when not everything was matched. -/
def setupFees (factory : MicrotransferFactory Hex) (toSend : C) :
    Except PyError C := do
  let toSend ← toSend.add factory.trade.fees
  if toSend < factory.greenAddress.trade.toSend then
    let ceiling ← factory.greenAddress.trade.toSend.sub toSend
    ceiling.mul factory.tradeFee
  else return factory.trade.fees

/-- "Contract outputs": one output for each contract and the running total. -/
def contractOutputs
    (env : MicrotransferEnv Hex)
    (factory : MicrotransferFactory Hex)
    (total : C) : Except PyError (List CTxOut × C) :=
  factory.contracts.values.foldlM
    (fun (outputs, total) contract => do
      let script := p2shScript env.lib (bondRedeemScript contract.keys .us)
      let contractAmount ← contract.uploadAmount.add factory.txFeeAmount
      let total ← total.add contractAmount
      return (outputs ++ [⟨outputValue env.prec contractAmount, script⟩],
        total))
    ([], total)

/-- The transaction of `build_setup`, unsigned. -/
def setupTransaction
    (env : MicrotransferEnv Hex)
    (config : Config)
    (factory : MicrotransferFactory Hex) : Except PyError CTransaction := do
  let depositTxHex ← Except.ofOption .typeError
    factory.greenAddress.depositTxHex
  let depositTx ← env.lib.parse depositTxHex
  let (p2shIndex, hash) ← Except.ofOption
    (.exception "Invalid green address deposit tx.") (depositVout depositTx)
  let greenAddressHash ← addressHash env.lib factory.greenAddress.address
  Except.raiseIf (hash ≠ greenAddressHash)
    (.exception "Unexpected green address output.")
  let input :=
    setupInput config.confirmations p2shIndex factory.greenAddress.inputs
  let greenTotal ←
    match input with
    | some input => C.ofDecimal input.amount
    | none => pure 0
  Except.raiseIf (greenTotal < factory.greenAddress.trade.toSend)
    (.exception "Not enough valid inputs to fund contract.")
  let (collateral, toSend) ← factory.collateralSums
  let fees ← factory.setupFees toSend
  let collateral ← collateral.add fees
  let feeOutput : CTxOut :=
    ⟨outputValue env.prec collateral, .p2pkh (env.lib.keyHash config.ecdsaFee)⟩
  let (outputs, total) ← factory.contractOutputs env collateral
  -- The change script reads `self.ecdsa_1`, which the factory does not have.
  Except.raiseIf (total < factory.greenAddress.trade.toSend) .attributeError
  return {
    nVersion := 1
    vin := (input.map fun input =>
      ⟨⟨input.txid, input.vout⟩, .raw [], finalSequence⟩).toList
    vout := feeOutput :: outputs
    nLockTime := 0 }

/-- `green_address.redeem_script`. -/
def greenScript (config : Config) (factory : MicrotransferFactory Hex) :
    RedeemScript :=
  greenRedeemScript factory.greenAddress.ecdsa1 factory.greenAddress.ecdsa2
    factory.greenAddress.ecdsaEncrypted config.ecdsaOffline

/-- `build_setup`: build and sign the setup transaction of all contracts. -/
def buildSetup
    (env : MicrotransferEnv Hex)
    (config : Config)
    (coins : String → Option CoinConfig)
    (rpc : CoinRpc)
    (factory : MicrotransferFactory Hex) :
    Outcome (MicrotransferFactory Hex) PyError (HalfSignedTx Hex) :=
  Outcome.attempt factory
    (MicrotransferContract.coinConfig coins factory.trade.sendCurrency)
    fun coin =>
  Outcome.attempt factory rpc.getbalance fun balance =>
  let factory := { factory with txFeeAmount := coin.txFee }
  if balance < factory.trade.toSend then
    Outcome.raise factory (.exception "Insufficent balance to cover fund.")
  else
    let factory :=
      { factory with
        greenAddress :=
          { factory.greenAddress with
            inputs := factory.greenAddress.inputs ++ rpc.loadInputs.state } }
    Outcome.attempt factory rpc.loadInputs.result fun _ =>
    Outcome.attempt factory
      (do
        let tx ← setupTransaction env config factory
        let txHex ← env.lib.print tx
        let firstSig ← signSetupTx env.lib txHex (factory.greenScript config)
          factory.greenAddress.ecdsa1
        let secondSig ← signSetupTx env.lib txHex (factory.greenScript config)
          factory.greenAddress.ecdsa2
        return (⟨txHex, env.lib.calculateTxid txHex, firstSig, secondSig⟩ :
          HalfSignedTx Hex))
      fun setup =>
    Outcome.pure
      { factory with
        setup :=
          { factory.setup with
            txHex := some setup.txHex
            txid := some setup.txid
            sig1 := some setup.firstSig
            sig2 := some setup.secondSig } }
      setup

end MicrotransferFactory
end Coinbend
