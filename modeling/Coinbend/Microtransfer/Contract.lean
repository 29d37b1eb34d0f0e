import Coinbend.Library.Raising
import Coinbend.Trade.Defs
import Coinbend.Transaction.Defs

/-!
# Microtransfer contracts

`MicrotransferContract` of `microtransfer_contract.py`: how much each side
transfers, in which chunks, and the transactions that refund or move the
money locked for the contract.
-/

namespace Coinbend

/-- The libraries and host settings the contract code runs with. -/
structure MicrotransferEnv (Hex : Type) where
  lib : BitcoinLib Hex
  /-- `getcontext().prec`; the constructor sets it to 8. -/
  prec : Nat
  /-- `time.mktime` of the local time a number of seconds after a
  timestamp. -/
  mktimeAfter : Nat → Nat → Nat

/-- `{"tx_hex": ..., "txid": ...}` of a fully signed transaction. -/
structure SignedTx (Hex : Type) where
  txHex : Hex
  txid : Txid
  deriving DecidableEq

/-- `{"tx_hex": ..., "txid": ..., "first_sig": ..., "second_sig": ...}`. -/
structure HalfSignedTx (Hex : Type) where
  txHex : Hex
  txid : Txid
  firstSig : Sig
  secondSig : Sig
  deriving DecidableEq

/-- `chunk_sizes` of a contract. -/
structure ChunkSizes where
  buyer : C
  seller : C
  deriving DecidableEq

/-- `self.coins[currency]`. -/
structure CoinConfig where
  txFee : C
  dustThreshold : C
  deriving DecidableEq

/-- A contract.  `matched` refers to the match it belongs to; `ourDownload` is
the stored transaction that pays us, absent before the first payment. -/
structure MicrotransferContract (Hex : Type) where
  matched : Nat
  trade : Trade
  keys : ContractKeys
  vout : Nat
  ourChunkSize : C
  theirChunkSize : C
  uploadAmount : C
  downloadAmount : C
  ourAddress : Address
  theirAddress : Address
  changeAddress : Address
  nlockTime : Nat
  ourDownload : Option (SignedTx Hex)
  deriving DecidableEq

/-- `int(amount.as_decimal * COIN)`: the product is rounded to the precision
of the decimal context. -/
def outputValue (prec : Nat) (amount : C) : Int :=
  ⌊DecimalRounding.roundDigits prec (amount.asDecimal * COIN)⌋

/-- `CScript([OP_DUP, OP_HASH160, hash, OP_EQUALVERIFY, OP_CHECKSIG])` of an
address. -/
def addressScript {Hex : Type} (lib : BitcoinLib Hex) (addr : Address) :
    Except PyError Script := do
  let hash ← addressHash lib addr
  return .p2pkh hash

namespace MicrotransferContract

variable {Hex : Type}

/-- `contract_duration`: two hours. -/
def contractDuration : Nat := 2 * 60 * 60

/-- Arguments of the `MicrotransferContract` constructor.  The fees are those
of the contract factory. -/
structure Args where
  matched : Nat
  trade : Trade
  keys : ContractKeys
  vout : Nat
  ourAddress : Address
  theirAddress : Address
  chunkSizes : ChunkSizes
  ntp : Nat
  ourTxFee : C
  theirTxFee : C

/-- `self.coins[currency]`, raising when the coin is not configured. -/
def coinConfig (coins : String → Option CoinConfig) (currency : String) :
    Except PyError CoinConfig :=
  Except.ofOption .keyError (coins currency)

/-- "What are we doing?": our and their chunk size.  A trade that sends its
amount is taken for a sale. -/
def roleChunks (trade : Trade) (chunkSizes : ChunkSizes) : C × C :=
  if trade.toSend = trade.amount then (chunkSizes.seller, chunkSizes.buyer)
  else (chunkSizes.buyer, chunkSizes.seller)

/-- The `MicrotransferContract` constructor.  `getnewaddress` is the answer of
our coin daemon. -/
def new
    (env : MicrotransferEnv Hex)
    (coins : String → Option CoinConfig)
    (getnewaddress : Except PyError Address)
    (args : Args) : Except PyError (MicrotransferContract Hex) := do
  let (ourChunkSize, theirChunkSize) := roleChunks args.trade args.chunkSizes
  let sendCoin ← coinConfig coins args.trade.sendCurrency
  let recvCoin ← coinConfig coins args.trade.recvCurrency
  let ourCeiling ← ourChunkSize.add args.ourTxFee
  let theirCeiling ← theirChunkSize.add args.theirTxFee
  Except.raiseIf (args.trade.toSend ≤ ourCeiling)
    (.exception "Sending amounts too small for contract.")
  Except.raiseIf (args.trade.toRecv ≤ theirCeiling)
    (.exception "Recv amounts too small for contract.")
  let uploadAmount ← args.trade.toSend.sub ourCeiling
  let downloadAmount ← args.trade.toRecv.sub theirCeiling
  Except.raiseIf (uploadAmount < sendCoin.dustThreshold)
    (.exception
      "Microtransfer contract upload amount is less than the dust threshold.")
  Except.raiseIf (downloadAmount < recvCoin.dustThreshold)
    (.exception
      ("Microtransfer contract download amount is less than the dust " ++
        "threshold."))
  let changeAddress ← getnewaddress
  return {
    matched := args.matched
    trade := args.trade
    keys := args.keys
    vout := args.vout
    ourChunkSize, theirChunkSize, uploadAmount, downloadAmount
    ourAddress := args.ourAddress
    theirAddress := args.theirAddress
    changeAddress
    nlockTime := env.mktimeAfter args.ntp contractDuration
    ourDownload := none }

/-- `sign_refund_tx`: sign input 0 with our key number `keyNo`. -/
def signRefundTx
    (env : MicrotransferEnv Hex)
    (keys : ContractKeys)
    (txHex : Hex)
    (keyNo : Nat)
    (actor : Side) : Except PyError Sig := do
  let tx ← env.lib.parse txHex
  -- `SignatureHash` has no input 0 to sign.
  Except.raiseIf (tx.vin = []) .valueError
  let ecdsa := if keyNo = 1 then keys.ecdsaUs.1 else keys.ecdsaUs.2
  return env.lib.sign ecdsa (bondRedeemScript keys actor) tx

/-- The body of `check_refund_works`: sign input 0 of a transaction with three
signatures, evaluate its script and serialise the result. -/
def tryRefund
    (lib : BitcoinLib Hex)
    (keys : ContractKeys)
    (txHex : Hex)
    (ownerFirstSig ownerSecondSig recipientSig : Sig)
    (actor : Side) : Option (SignedTx Hex) := do
  let tx ← lib.deserialize txHex
  let redeemScript := bondRedeemScript keys actor
  let scriptSig :=
    Script.spend ownerFirstSig ownerSecondSig recipientSig redeemScript
  let tx ← tx.setScriptSig scriptSig
  if lib.verifyScript scriptSig (p2shScript lib redeemScript) tx then
    let signedTxHex ← lib.serialize tx
    return { txHex := signedTxHex, txid := lib.calculateTxid signedTxHex }
  else none

/-- `check_refund_works`.  The handler of its exceptions reads the global
`error_log_path`, which its module does not define, so a refund that does not
work raises instead of returning `None`. -/
def checkRefundWorks
    (env : MicrotransferEnv Hex)
    (keys : ContractKeys)
    (txHex : Hex)
    (ownerFirstSig ownerSecondSig recipientSig : Sig)
    (actor : Side) : Except PyError (SignedTx Hex) :=
  Except.ofOption (.nameError "error_log_path")
    (tryRefund env.lib keys txHex ownerFirstSig ownerSecondSig recipientSig
      actor)

/-- The outputs of a refund: everything back to us, or the part already earned
to them and the rest, if any, back to us. -/
def refundOutputs
    (prec : Nat)
    (contract : MicrotransferContract Hex)
    (refundAmount : Option C)
    (ourPubKey theirPubKey : Script) : Except PyError (List CTxOut) :=
  match refundAmount with
  | none => .ok [⟨outputValue prec contract.uploadAmount, ourPubKey⟩]
  | some refundAmount => do
      let remaining ← contract.uploadAmount.sub refundAmount
      let change : List CTxOut :=
        if 0 < remaining then [⟨outputValue prec remaining, ourPubKey⟩]
        else []
      return change ++ [⟨outputValue prec refundAmount, theirPubKey⟩]

/-- `build_refund_tx`.  A transaction id that was never set does not
decode. -/
def buildRefundTx
    (env : MicrotransferEnv Hex)
    (contract : MicrotransferContract Hex)
    (setupTxid : Option Txid)
    (refundAmount : Option C) : Except PyError (HalfSignedTx Hex) := do
  Except.raiseIf (∃ amount ∈ refundAmount, contract.trade.toSend < amount)
    (.exception "Invalid refund amount.")
  let setupTxid ← Except.ofOption .typeError setupTxid
  let ourPubKey ← addressScript env.lib contract.changeAddress
  let theirPubKey ← addressScript env.lib contract.theirAddress
  let txouts ←
    refundOutputs env.prec contract refundAmount ourPubKey theirPubKey
  let txin : CTxIn := {
    prevout := ⟨setupTxid, contract.vout⟩
    scriptSig := .raw []
    nSequence := if refundAmount.isNone then 0 else finalSequence }
  let txHex ← env.lib.print {
    nVersion := 1
    vin := [txin]
    vout := txouts
    nLockTime := if refundAmount.isNone then contract.nlockTime else 0 }
  let firstSig ← signRefundTx env contract.keys txHex 1 .us
  let secondSig ← signRefundTx env contract.keys txHex 2 .us
  return { txHex, txid := env.lib.calculateTxid txHex, firstSig, secondSig }

/-! ## Facts about the contract functions -/

/-- What an accepted refund is: the given transaction with its three
signatures, whose script evaluates. -/
theorem tryRefund_eq_some_iff
    (lib : BitcoinLib Hex)
    (keys : ContractKeys)
    (txHex : Hex)
    (ownerFirstSig ownerSecondSig recipientSig : Sig)
    (actor : Side)
    (signed : SignedTx Hex) :
    tryRefund lib keys txHex ownerFirstSig ownerSecondSig recipientSig actor =
        some signed ↔
      ∃ tx signedTx,
        lib.deserialize txHex = some tx ∧
        tx.setScriptSig (.spend ownerFirstSig ownerSecondSig recipientSig
          (bondRedeemScript keys actor)) = some signedTx ∧
        lib.verifyScript
          (.spend ownerFirstSig ownerSecondSig recipientSig
            (bondRedeemScript keys actor))
          (p2shScript lib (bondRedeemScript keys actor)) signedTx = true ∧
        lib.serialize signedTx = some signed.txHex ∧
        signed.txid = lib.calculateTxid signed.txHex := by
  obtain ⟨signedHex, signedTxid⟩ := signed
  unfold tryRefund
  simp only [Option.bind_eq_bind, Option.bind_eq_some_iff]
  constructor
  · rintro ⟨tx, parsed, signedTx, set, works⟩
    split at works
    next verified =>
      simp only [Option.bind_eq_some_iff, Option.pure_def,
        Option.some.injEq] at works
      obtain ⟨text, printed, same⟩ := works
      cases same
      exact ⟨tx, signedTx, parsed, set, verified, printed, rfl⟩
    · cases works
  · rintro ⟨tx, signedTx, parsed, set, verified, printed, txid⟩
    refine ⟨tx, parsed, signedTx, set, ?_⟩
    rw [if_pos verified, printed, txid]
    rfl

theorem checkRefundWorks_eq_ok_iff
    (env : MicrotransferEnv Hex)
    (keys : ContractKeys)
    (txHex : Hex)
    (ownerFirstSig ownerSecondSig recipientSig : Sig)
    (actor : Side)
    (signed : SignedTx Hex) :
    checkRefundWorks env keys txHex ownerFirstSig ownerSecondSig recipientSig
        actor = .ok signed ↔
      tryRefund env.lib keys txHex ownerFirstSig ownerSecondSig recipientSig
        actor = some signed :=
  Except.ofOption_eq_ok_iff _ _ _

/-! No function of the contract raises for a negative amount by itself: only
the difference in `refundOutputs` can. -/

section NegativeError

variable (env : MicrotransferEnv Hex)

theorem addressScript_ne_negativeError (addr : Address) :
    addressScript env.lib addr ≠ .error C.negativeError := by
  apply Except.bind_ne_error
  · apply Except.bind_ne_error
    · exact Except.ofOption_ne_error _ (by decide)
    · intro _ _
      exact Except.ok_ne_error
  · intro _ _
    exact Except.ok_ne_error

theorem signRefundTx_ne_negativeError
    (keys : ContractKeys)
    (txHex : Hex)
    (keyNo : Nat)
    (actor : Side) :
    signRefundTx env keys txHex keyNo actor ≠ .error C.negativeError := by
  apply Except.bind_ne_error
  · exact Except.ofOption_ne_error _ (by decide)
  · intro _ _
    apply Except.bind_ne_error
    · exact Except.raiseIf_ne_error _ (by decide)
    · intro _ _
      exact Except.ok_ne_error

theorem checkRefundWorks_ne_negativeError
    (keys : ContractKeys)
    (txHex : Hex)
    (ownerFirstSig ownerSecondSig recipientSig : Sig)
    (actor : Side) :
    checkRefundWorks env keys txHex ownerFirstSig ownerSecondSig recipientSig
      actor ≠ .error C.negativeError :=
  Except.ofOption_ne_error _ (by decide)

/-- A refund of at most the upload amount subtracts nothing below zero. -/
theorem buildRefundTx_ne_negativeError
    {contract : MicrotransferContract Hex}
    {refundAmount : Option C}
    (setupTxid : Option Txid)
    (bounded : ∀ amount ∈ refundAmount,
      amount.val ≤ contract.uploadAmount.val) :
    buildRefundTx env contract setupTxid refundAmount ≠
      .error C.negativeError := by
  have outputs_ne (ourPubKey theirPubKey : Script) :
      refundOutputs env.prec contract refundAmount ourPubKey theirPubKey ≠
        .error C.negativeError := by
    cases refundAmount with
    | none => exact Except.ok_ne_error
    | some amount =>
        obtain ⟨remaining, found, _⟩ := C.sub_of_le (bounded amount rfl)
        rw [refundOutputs, found, Except.ok_bind]
        exact Except.ok_ne_error
  apply Except.bind_ne_error (Except.raiseIf_ne_error _ (by decide))
  intro _ _
  apply Except.bind_ne_error (Except.ofOption_ne_error _ (by decide))
  intro _ _
  apply Except.bind_ne_error (addressScript_ne_negativeError env _)
  intro _ _
  apply Except.bind_ne_error (addressScript_ne_negativeError env _)
  intro _ _
  apply Except.bind_ne_error (outputs_ne _ _)
  intro _ _
  apply Except.bind_ne_error (Except.ofOption_ne_error _ (by decide))
  intro _ _
  apply Except.bind_ne_error (signRefundTx_ne_negativeError env _ _ _ _)
  intro _ _
  apply Except.bind_ne_error (signRefundTx_ne_negativeError env _ _ _ _)
  intro _ _
  exact Except.ok_ne_error

end NegativeError

end MicrotransferContract

/-! ## A sample contract

Four coins are sold for eight, in chunks of one coin against two. -/

namespace Sample

def env : MicrotransferEnv CTransaction where
  lib := BitcoinLib.transparent
  prec := 8
  mktimeAfter := Nat.add

def trade (action : Action) : Trade where
  action := action
  pair := ⟨"dogecoin", "litecoin"⟩
  amount := C.coins 4
  ppc := C.coins 2
  total := C.coins 8
  orderHash := "order"
  sent := 0
  recv := 0
  remaining := C.coins 4
  fees := 0
  destIp := ""
  recvAddr := ""
  status := .pendingGreenAddressDeposit
  flipped := false

def chunkSizes : ChunkSizes where
  buyer := C.coins 2
  seller := C.coins 1

def sellerKeys : ContractKeys where
  ecdsaUs := ("seller1", "seller2")
  ecdsaThem := ("buyer1", "buyer2")
  ecdsaArbiter := "arbiter"

def sellerContract : MicrotransferContract CTransaction where
  matched := 0
  trade := trade .sell
  keys := sellerKeys
  vout := 1
  ourChunkSize := C.coins 1
  theirChunkSize := C.coins 2
  uploadAmount := C.coins 3
  downloadAmount := C.coins 6
  ourAddress := "sellerAddress"
  theirAddress := "buyerAddress"
  changeAddress := "sellerChange"
  nlockTime := 7200
  ourDownload := none

end Sample

/-- The sample contract is what the constructor builds without fees. -/
example :
    MicrotransferContract.new Sample.env (fun _ => some ⟨0, 0⟩)
      (.ok "sellerChange")
      { matched := 0
        trade := Sample.trade .sell
        keys := Sample.sellerKeys
        vout := 1
        ourAddress := "sellerAddress"
        theirAddress := "buyerAddress"
        chunkSizes := Sample.chunkSizes
        ntp := 0
        ourTxFee := 0
        theirTxFee := 0 } = .ok Sample.sellerContract := by
  decide +kernel

end Coinbend
