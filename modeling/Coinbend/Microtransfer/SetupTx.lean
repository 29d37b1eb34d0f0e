import Coinbend.Library.Dict
import Coinbend.Microtransfer.Contract

/-!
# Setup transactions

The transaction that moves a green address deposit into contract outputs:
signing it, evaluating it and `validate_setup_tx` of
`microtransfer_contract.py`.
-/

namespace Coinbend

/-- `ECDSACrypt` on texts.  `load` is the constructor on a base64 public key
followed by `get_public_key`; it has no value when the constructor raises. -/
structure Ecdsa where
  load : String → Option PubKey
  sign : PubKey → String → String
  validSignature : PubKey → String → String → Bool

/-- The entries of `config` the contract code reads. -/
structure Config where
  /-- `green_address_server.encrypted_key_pair.pub`. -/
  ecdsaEncrypted : PubKey
  /-- `green_address_server.offline_key_pair.pub`. -/
  ecdsaOffline : PubKey
  /-- `fee_key_pair.pub`. -/
  ecdsaFee : PubKey
  /-- `arbiter_key_pairs[0].pub`. -/
  ecdsaArbiter : PubKey
  tradeFee : C
  confirmations : Nat

/-- A parsed collateral message. -/
structure CollateralInfo where
  msg : String
  chunkSize : C
  sig1 : String
  sig2 : String
  pub1 : String
  pub2 : String
  pubArbiter : String
  deriving DecidableEq

/-- `green_redeem_script`. -/
def greenRedeemScript (ecdsa1 ecdsa2 ecdsaEncrypted ecdsaOffline : PubKey) :
    RedeemScript :=
  ⟨[ecdsa1, ecdsa2, ecdsaEncrypted, ecdsaOffline]⟩

variable {Hex : Type}

/-- `sign_setup_tx`. -/
def signSetupTx
    (lib : BitcoinLib Hex)
    (txHex : Hex)
    (redeemScript : RedeemScript)
    (ecdsa : PubKey) : Except PyError Sig := do
  let tx ← lib.parse txHex
  Except.raiseIf (tx.vin = []) .valueError
  return lib.sign ecdsa redeemScript tx

/-- The body of `check_setup_works`: put in the three signatures when all are
given, evaluate the script of input 0 and serialise the result. -/
def trySetup
    (lib : BitcoinLib Hex)
    (txHex : Hex)
    (redeemScript : RedeemScript)
    (sigs : Option (Sig × Sig × Sig)) : Option (SignedTx Hex) := do
  let tx ← lib.deserialize txHex
  let tx ←
    match sigs with
    | some (first, second, third) =>
        tx.setScriptSig (.spend first second third redeemScript)
    | none => some tx
  let input ← tx.vin.head?
  if lib.verifyScript input.scriptSig (p2shScript lib redeemScript) tx then
    let signedTxHex ← lib.serialize tx
    return { txHex := signedTxHex, txid := lib.calculateTxid signedTxHex }
  else none

/-- `check_setup_works`.  As in `check_refund_works`, its exception handler
reads a global that is not defined. -/
def checkSetupWorks
    (lib : BitcoinLib Hex)
    (txHex : Hex)
    (redeemScript : RedeemScript)
    (sigs : Option (Sig × Sig × Sig)) : Except PyError (SignedTx Hex) :=
  Except.ofOption (.nameError "error_log_path")
    (trySetup lib txHex redeemScript sigs)

/-- The result dictionary of `validate_setup_tx`. -/
structure SetupDetails (Hex : Type) where
  depositTxid : Txid
  tx : CTransaction
  txid : Txid
  /-- `setup.signed`, absent when no check was made. -/
  signed : Option (SignedTx Hex)
  contractVouts : List CTxOut
  contractTotal : ℚ
  feeVout : CTxOut
  feeTotal : ℚ
  changeVout : Option CTxOut
  changeTotal : ℚ

/-- Separate the change output, if the last output is one. -/
def splitChange (outputs : List CTxOut) (changeScriptPub : Script) :
    List CTxOut × Option CTxOut :=
  match outputs.getLast? with
  | some last =>
      if last.scriptPubKey = changeScriptPub then
        (outputs.dropLast, some last)
      else (outputs, none)
  | none => (outputs, none)

/-- `contract_total`: a sum of decimals, each step rounded to the precision of
the context. -/
def totalMoney (prec : Nat) (outputs : List CTxOut) : ℚ :=
  outputs.foldl
    (fun total output =>
      DecimalRounding.roundDigits prec (total + strMoneyValue output.nValue))
    0

/-- One round of the collateral loop: skip an info whose signatures do not
verify; otherwise drop it from `remaining` and add its chunk for every output
with its script. -/
def validateCollateral
    (env : MicrotransferEnv Hex)
    (ecdsa : Ecdsa)
    (ecdsa1 ecdsa2 : PubKey)
    (contractVouts : List CTxOut)
    (remaining : Dict String CollateralInfo)
    (collateralTotal : C)
    (pubKey1 : String)
    (info : CollateralInfo) :
    Except PyError (Dict String CollateralInfo × C) := do
  let msg := info.chunkSize.str ++ " " ++ info.pubArbiter
  let pair1 ← Except.ofOption .valueError (ecdsa.load pubKey1)
  if ecdsa.validSignature pair1 info.sig1 msg = false then
    return (remaining, collateralTotal)
  let pair2 ← Except.ofOption .valueError (ecdsa.load info.pub2)
  if ecdsa.validSignature pair2 info.sig2 msg = false then
    return (remaining, collateralTotal)
  if contractVouts = [] then return (remaining, collateralTotal)
  let arbiter ← Except.ofOption .valueError (ecdsa.load info.pubArbiter)
  let script := p2shScript env.lib
    (bondRedeemScript ⟨(ecdsa1, ecdsa2), (pair1, pair2), arbiter⟩ .us)
  let found := contractVouts.filter fun vout => vout.scriptPubKey = script
  let collateralTotal ← found.foldlM
    (fun total _ => total.add info.chunkSize) collateralTotal
  return (if found = [] then remaining else remaining.erase pubKey1,
    collateralTotal)

/-- "Validate contract collateral": the fee has to be the claimed collateral
and the trade fee, but only when every info was found. -/
def feeIsValid
    (env : MicrotransferEnv Hex)
    (ecdsa : Ecdsa)
    (ecdsa1 ecdsa2 : PubKey)
    (contractVouts : List CTxOut)
    (feeTotal contractTotal changeTotal : ℚ)
    (collateralInfo : Dict String CollateralInfo)
    (tradeFee : C) : Except PyError Bool := do
  let (remaining, collateralTotal) ← collateralInfo.entries.foldlM
    (fun (remaining, collateralTotal) (pubKey1, info) =>
      validateCollateral env ecdsa ecdsa1 ecdsa2 contractVouts remaining
        collateralTotal pubKey1 info)
    (collateralInfo, (0 : C))
  if remaining.entries ≠ [] then return true
  let totalCoins ← C.ofDecimal
    (DecimalRounding.roundDigits env.prec (feeTotal + contractTotal))
  let changeCoins ← C.ofDecimal changeTotal
  let charged ← totalCoins.sub changeCoins
  let fees ← charged.mul tradeFee
  let expectedFee ← collateralTotal.add fees
  let feeCoins ← C.ofDecimal feeTotal
  return expectedFee = feeCoins

/-- `validate_setup_tx`: an error code or the details of a transaction that
passed. -/
def validateSetupTx
    (env : MicrotransferEnv Hex)
    (ecdsa : Ecdsa)
    (config : Config)
    (txHex : Hex)
    (ecdsa1 ecdsa2 : PubKey)
    (sig1 sig2 sig3 : Option Sig)
    (collateralInfo : Option (Dict String CollateralInfo))
    (tradeFee : C) : Except PyError (Except Int (SetupDetails Hex)) := do
  let tx ← env.lib.parse txHex
  let [input] := tx.vin | return .error (-1)
  if input.nSequence ≠ finalSequence then return .error (-5)
  if tx.nLockTime ≠ 0 then return .error (-6)
  let feeVout :: contractVouts := tx.vout | return .error (-3)
  if contractVouts = [] then return .error (-3)
  let (contractVouts, changeVout) :=
    splitChange contractVouts (.p2pkh (env.lib.keyHash ecdsa1))
  let changeTotal :=
    match changeVout with
    | some output => strMoneyValue output.nValue
    | none => 0
  let contractTotal := totalMoney env.prec contractVouts
  let feeTotal := strMoneyValue feeVout.nValue
  if feeVout.scriptPubKey ≠ .p2pkh (env.lib.keyHash config.ecdsaFee) then
    return .error (-4)
  let feeValid ←
    match collateralInfo with
    | some infos =>
        feeIsValid env ecdsa ecdsa1 ecdsa2 contractVouts feeTotal
          contractTotal changeTotal infos tradeFee
    | none => pure true
  if feeValid = false then return .error (-40)
  let unsignedTxHex ← env.lib.print tx
  let redeemScript := greenRedeemScript ecdsa1 ecdsa2 config.ecdsaEncrypted
    config.ecdsaOffline
  let signed ←
    match sig1, sig2, sig3 with
    | some first, some second, some third =>
        some <$> checkSetupWorks env.lib unsignedTxHex redeemScript
          (some (first, second, third))
    | none, none, none =>
        some <$> checkSetupWorks env.lib unsignedTxHex redeemScript none
    | _, _, some _ =>
        some <$> checkSetupWorks env.lib unsignedTxHex redeemScript none
    | _, _, none => pure none
  return .ok {
    depositTxid := input.prevout.hash
    tx
    txid := env.lib.calculateTxid unsignedTxHex
    signed, contractVouts, contractTotal, feeVout, feeTotal, changeVout
    changeTotal }

end Coinbend
