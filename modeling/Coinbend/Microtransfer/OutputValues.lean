import Coinbend.Microtransfer.Factory

/-!
# Output values

The amounts the factory and the contracts put into transactions and the values
of the outputs made from them.  The product with `COIN` is rounded to the
precision of the decimal context, so an output holds the whole satoshi of its
amount exactly when the digits the precision cuts off are zeros.
-/

namespace Coinbend

/-- The amount as a rational number. -/
def C.exact (amount : C) : ℚ :=
  (amount.val : ℚ) / decBase

/-- The whole satoshi of an amount. -/
def chainValue (amount : C) : Int :=
  ⌊amount.exact * COIN⌋

theorem chainValue_eq_satoshi (amount : C) :
    chainValue amount = amount.satoshi := by
  have scale : amount.exact * COIN = (amount.val : ℚ) / satoshiUnit := by
    simp only [C.exact, decBase, COIN, satoshiUnit]
    push_cast
    ring
  rw [chainValue, scale, Rat.floor_natCast_div_natCast]
  rfl

/-- The digits of an amount in satoshi that a precision cuts off are zeros. -/
def FitsPrecision (prec : Nat) (amount : C) : Prop :=
  10 ^ DecimalRounding.cutDigits prec amount.satoshi ∣ amount.satoshi

instance (prec : Nat) (amount : C) : Decidable (FitsPrecision prec amount) :=
  inferInstanceAs (Decidable (_ ∣ _))

theorem asDecimal_mul_coin (amount : C) :
    amount.asDecimal * COIN = amount.satoshi := by
  have coin_ne : (COIN : ℚ) ≠ 0 := by
    exact_mod_cast COIN_pos.ne'
  rw [C.asDecimal, div_mul_cancel₀ _ coin_ne]

/-- An output holds the whole satoshi of its amount exactly when the precision
cuts off nothing but zeros. -/
theorem outputValue_eq_chainValue_iff (prec : Nat) (amount : C) :
    outputValue prec amount = chainValue amount ↔
      FitsPrecision prec amount := by
  rw [outputValue, asDecimal_mul_coin, chainValue_eq_satoshi]
  exact DecimalRounding.floor_roundDigits_natCast_eq_iff prec amount.satoshi

/-- An output made from an amount has the whole satoshi of the amount exactly
when the amount fits the precision. -/
def ExactWhenFits (prec : Nat) (output : CTxOut) (amount : C) : Prop :=
  output.nValue = chainValue amount ↔ FitsPrecision prec amount

theorem exactWhenFits_outputValue
    (prec : Nat)
    (amount : C)
    (script : Script) :
    ExactWhenFits prec ⟨outputValue prec amount, script⟩ amount :=
  outputValue_eq_chainValue_iff prec amount

variable {Hex : Type}

namespace MicrotransferContract

/-- The amounts of the outputs of `build_refund_tx`. -/
def refundAmounts
    (contract : MicrotransferContract Hex)
    (refundAmount : Option C) : Except PyError (List C) :=
  match refundAmount with
  | none => .ok [contract.uploadAmount]
  | some refundAmount => do
      let remaining ← contract.uploadAmount.sub refundAmount
      return (if 0 < remaining then [remaining] else []) ++ [refundAmount]

theorem refundOutputs_exact
    {prec : Nat}
    {contract : MicrotransferContract Hex}
    {refundAmount : Option C}
    {ourPubKey theirPubKey : Script}
    {outputs : List CTxOut}
    (built : refundOutputs prec contract refundAmount ourPubKey theirPubKey =
      .ok outputs) :
    ∃ amounts, contract.refundAmounts refundAmount = .ok amounts ∧
      List.Forall₂ (ExactWhenFits prec) outputs amounts := by
  cases refundAmount with
  | none =>
      cases built
      exact ⟨_, rfl, .cons (exactWhenFits_outputValue _ _ _) .nil⟩
  | some amount =>
      simp only [refundOutputs, Except.bind_eq_ok_iff] at built
      obtain ⟨remaining, difference, returned⟩ := built
      cases returned
      refine ⟨_, by rw [refundAmounts, difference]; rfl, ?_⟩
      by_cases positive : 0 < remaining
      · rw [if_pos positive, if_pos positive]
        exact .cons (exactWhenFits_outputValue _ _ _)
          (.cons (exactWhenFits_outputValue _ _ _) .nil)
      · rw [if_neg positive, if_neg positive]
        exact .cons (exactWhenFits_outputValue _ _ _) .nil

/-- The transaction of a built refund. -/
theorem buildRefundTx_outputs
    {env : MicrotransferEnv Hex}
    {contract : MicrotransferContract Hex}
    {setupTxid : Option Txid}
    {refundAmount : Option C}
    {refund : HalfSignedTx Hex}
    (built : contract.buildRefundTx env setupTxid refundAmount = .ok refund) :
    ∃ tx ourPubKey theirPubKey,
      env.lib.deserialize refund.txHex = some tx ∧
      refundOutputs env.prec contract refundAmount ourPubKey theirPubKey =
        .ok tx.vout := by
  simp only [buildRefundTx, Except.bind_eq_ok_iff] at built
  obtain ⟨_, _, _, _, ourPubKey, _, theirPubKey, _, outputs, built, txHex,
    printed, _, _, _, _, returned⟩ := built
  cases returned
  have parsed := env.lib.deserialize_of_serialize
    ((env.lib.print_eq_ok_iff _ _).mp printed)
  exact ⟨_, ourPubKey, theirPubKey, parsed, built⟩

end MicrotransferContract

namespace MicrotransferFactory

/-- The amount of the fee output of `build_setup`. -/
def feeAmount (factory : MicrotransferFactory Hex) : Except PyError C := do
  let (collateral, toSend) ← factory.collateralSums
  let fees ← factory.setupFees toSend
  collateral.add fees

/-- The amounts of the outputs of `build_setup`: the fee and one for each
contract. -/
def setupAmounts (factory : MicrotransferFactory Hex) :
    Except PyError (List C) := do
  let fee ← factory.feeAmount
  let amounts ← factory.contracts.values.mapM fun contract =>
    contract.uploadAmount.add factory.txFeeAmount
  return fee :: amounts

/-- The output of a contract that takes some amount. -/
def contractOutput
    (env : MicrotransferEnv Hex)
    (contract : MicrotransferContract Hex)
    (contractAmount : C) : CTxOut where
  nValue := outputValue env.prec contractAmount
  scriptPubKey := p2shScript env.lib (bondRedeemScript contract.keys .us)

/-- The output a contract gets from a factory. -/
def ContractOutput
    (env : MicrotransferEnv Hex)
    (factory : MicrotransferFactory Hex)
    (contract : MicrotransferContract Hex)
    (output : CTxOut) : Prop :=
  ∃ amount, contract.uploadAmount.add factory.txFeeAmount = .ok amount ∧
    output = contractOutput env contract amount

/-- What the outputs of some contracts take out of the deposit. -/
def contractFunds
    (factory : MicrotransferFactory Hex)
    (contracts : List (MicrotransferContract Hex)) : Nat :=
  (contracts.map fun contract =>
    contract.uploadAmount.val + factory.txFeeAmount.val).sum

/-- Every contract gets one output, in the order of the contracts. -/
theorem contractOutputs_fold
    {env : MicrotransferEnv Hex}
    {factory : MicrotransferFactory Hex}
    {contracts : List (MicrotransferContract Hex)}
    {outputs : List CTxOut}
    {total : C}
    {done : List CTxOut × C}
    (built : contracts.foldlM
      (fun ((outputs, total) : List CTxOut × C) contract => do
        let script := p2shScript env.lib (bondRedeemScript contract.keys .us)
        let contractAmount ← contract.uploadAmount.add factory.txFeeAmount
        let total ← total.add contractAmount
        return (outputs ++ [⟨outputValue env.prec contractAmount, script⟩],
          total))
      (outputs, total) = (.ok done : Except PyError _)) :
    ∃ more, done.1 = outputs ++ more ∧
      List.Forall₂ (factory.ContractOutput env) contracts more ∧
      done.2.val = total.val + factory.contractFunds contracts := by
  induction contracts generalizing outputs total with
  | nil =>
      cases built
      refine ⟨[], (List.append_nil _).symm, .nil, ?_⟩
      simp [contractFunds]
  | cons contract contracts inductionHypothesis =>
      simp only [List.foldlM_cons, Except.bind_eq_ok_iff] at built
      obtain ⟨_, ⟨amount, added, sum, summed, returned⟩, rest⟩ := built
      cases returned
      obtain ⟨more, appended, paired, funds⟩ := inductionHypothesis rest
      refine ⟨contractOutput env contract amount :: more, ?_,
        .cons ⟨amount, added, rfl⟩ paired, ?_⟩
      · rw [appended, List.append_assoc]
        rfl
      · rw [funds, C.val_add summed, C.val_add added]
        simp only [contractFunds, List.map_cons, List.sum_cons]
        omega

theorem contractOutputs_spec
    {env : MicrotransferEnv Hex}
    {factory : MicrotransferFactory Hex}
    {start total : C}
    {outputs : List CTxOut}
    (built : factory.contractOutputs env start = .ok (outputs, total)) :
    List.Forall₂ (factory.ContractOutput env) factory.contracts.values
        outputs ∧
      total.val =
        start.val + factory.contractFunds factory.contracts.values := by
  obtain ⟨more, appended, paired, funds⟩ := contractOutputs_fold built
  rw [List.nil_append] at appended
  simp only at appended
  subst appended
  exact ⟨paired, funds⟩

theorem contractOutputs_exact
    {env : MicrotransferEnv Hex}
    {factory : MicrotransferFactory Hex}
    {contracts : List (MicrotransferContract Hex)}
    {outputs : List CTxOut}
    (paired : List.Forall₂ (factory.ContractOutput env) contracts outputs) :
    ∃ amounts,
      contracts.mapM (fun contract =>
        contract.uploadAmount.add factory.txFeeAmount) = .ok amounts ∧
      List.Forall₂ (ExactWhenFits env.prec) outputs amounts := by
  induction paired with
  | nil => exact ⟨[], rfl, .nil⟩
  | cons isOutput _ inductionHypothesis =>
      obtain ⟨amount, added, rfl⟩ := isOutput
      obtain ⟨amounts, mapped, exact_⟩ := inductionHypothesis
      refine ⟨amount :: amounts, ?_,
        .cons (exactWhenFits_outputValue _ _ _) exact_⟩
      rw [List.mapM_cons, added, Except.ok_bind, mapped]
      rfl

/-- What `build_setup` computed when it has a transaction. -/
theorem setupTransaction_spec
    {env : MicrotransferEnv Hex}
    {config : Config}
    {factory : MicrotransferFactory Hex}
    {tx : CTransaction}
    (built : factory.setupTransaction env config = .ok tx) :
    ∃ collateral toSend fees fee outputs total,
      factory.collateralSums = .ok (collateral, toSend) ∧
      factory.setupFees toSend = .ok fees ∧
      collateral.add fees = .ok fee ∧
      factory.contractOutputs env fee = .ok (outputs, total) ∧
      ¬total < factory.greenAddress.trade.toSend ∧
      tx.vout = ⟨outputValue env.prec fee,
        .p2pkh (env.lib.keyHash config.ecdsaFee)⟩ :: outputs := by
  simp only [setupTransaction, Except.bind_eq_ok_iff] at built
  obtain ⟨_, _, _, _, _, _, _, _, _, _, rest⟩ := built
  split at rest <;>
  · simp only [Except.bind_eq_ok_iff, Except.raiseIf_eq_ok_iff] at rest
    obtain ⟨_, _, _, _, ⟨collateral, toSend⟩, sums, fees, feesFound, fee,
      feeFound, ⟨outputs, total⟩, outputsFound, _, covered, returned⟩ := rest
    cases returned
    exact ⟨collateral, toSend, fees, fee, outputs, total, sums, feesFound,
      feeFound, outputsFound, covered, rfl⟩

theorem setupTransaction_exact
    {env : MicrotransferEnv Hex}
    {config : Config}
    {factory : MicrotransferFactory Hex}
    {tx : CTransaction}
    (built : factory.setupTransaction env config = .ok tx) :
    ∃ amounts, factory.setupAmounts = .ok amounts ∧
      List.Forall₂ (ExactWhenFits env.prec) tx.vout amounts := by
  obtain ⟨collateral, toSend, fees, fee, outputs, total, sums, feesFound,
    feeFound, outputsFound, _, vout⟩ := setupTransaction_spec built
  obtain ⟨amounts, mapped, exact_⟩ :=
    contractOutputs_exact (contractOutputs_spec outputsFound).1
  have feeIs : factory.feeAmount = .ok fee := by
    rw [feeAmount, sums, Except.ok_bind]
    simp only
    rw [feesFound, Except.ok_bind, feeFound]
  refine ⟨fee :: amounts, ?_, ?_⟩
  · rw [setupAmounts, feeIs, Except.ok_bind, mapped]
    rfl
  · rw [vout]
    exact .cons (exactWhenFits_outputValue _ _ _) exact_

/-- The transaction of a setup that was built. -/
theorem buildSetup_transaction
    {env : MicrotransferEnv Hex}
    {config : Config}
    {coins : String → Option CoinConfig}
    {rpc : CoinRpc}
    {factory : MicrotransferFactory Hex}
    {setup : HalfSignedTx Hex}
    (built : (factory.buildSetup env config coins rpc).result = .ok setup) :
    ∃ tx, env.lib.deserialize setup.txHex = some tx ∧
      (factory.buildSetup env config coins rpc).state.setupTransaction env
        config = .ok tx := by
  unfold buildSetup at built ⊢
  cases coin : MicrotransferContract.coinConfig coins
    factory.trade.sendCurrency with
  | error error =>
      rw [coin] at built
      cases built
  | ok coin =>
  rw [coin, Outcome.attempt_ok] at built
  rw [Outcome.attempt_ok]
  cases balance : rpc.getbalance with
  | error error =>
      rw [balance] at built
      cases built
  | ok balance =>
  rw [balance, Outcome.attempt_ok] at built
  rw [Outcome.attempt_ok]
  simp only at built ⊢
  split at built
  · cases built
  next covered =>
  rw [if_neg covered]
  cases loaded : rpc.loadInputs.result with
  | error error =>
      rw [loaded] at built
      cases built
  | ok loaded =>
  rw [loaded, Outcome.attempt_ok] at built
  rw [Outcome.attempt_ok]
  generalize prepared : (do
      let tx ← setupTransaction env config _
      let txHex ← env.lib.print tx
      let firstSig ← signSetupTx env.lib txHex _ _
      let secondSig ← signSetupTx env.lib txHex _ _
      return (⟨txHex, env.lib.calculateTxid txHex, firstSig, secondSig⟩ :
        HalfSignedTx Hex)) = signed at built ⊢
  cases signed with
  | error error => cases built
  | ok signed =>
      cases built
      simp only [Except.bind_eq_ok_iff] at prepared
      obtain ⟨tx, transaction, txHex, printed, _, _, _, _, returned⟩ := prepared
      cases returned
      have parsed := env.lib.deserialize_of_serialize
        ((env.lib.print_eq_ok_iff _ _).mp printed)
      exact ⟨tx, parsed, transaction⟩

/-- The amounts of the outputs do not depend on the records of the setup
transaction and the loaded inputs. -/
theorem buildSetup_outputs
    {env : MicrotransferEnv Hex}
    {config : Config}
    {coins : String → Option CoinConfig}
    {rpc : CoinRpc}
    {factory : MicrotransferFactory Hex}
    {setup : HalfSignedTx Hex}
    (built : (factory.buildSetup env config coins rpc).result = .ok setup) :
    ∃ tx amounts,
      env.lib.deserialize setup.txHex = some tx ∧
      (factory.buildSetup env config coins rpc).state.setupAmounts =
        .ok amounts ∧
      List.Forall₂ (ExactWhenFits env.prec) tx.vout amounts := by
  obtain ⟨tx, parsed, transaction⟩ := buildSetup_transaction built
  obtain ⟨amounts, found, exact_⟩ := setupTransaction_exact transaction
  exact ⟨tx, amounts, parsed, found, exact_⟩

end MicrotransferFactory

/-- The outputs of `build_setup` and `build_refund_tx` hold the whole satoshi
of their amounts exactly when the digits that the precision of the decimal
context cuts off are zeros. -/
theorem outputs_exact_iff (env : MicrotransferEnv Hex) :
    (∀ config coins rpc (factory : MicrotransferFactory Hex) setup,
      (factory.buildSetup env config coins rpc).result = .ok setup →
      ∃ tx amounts,
        env.lib.deserialize setup.txHex = some tx ∧
        (factory.buildSetup env config coins rpc).state.setupAmounts =
          .ok amounts ∧
        List.Forall₂ (ExactWhenFits env.prec) tx.vout amounts) ∧
    ∀ (contract : MicrotransferContract Hex) setupTxid refundAmount refund,
      contract.buildRefundTx env setupTxid refundAmount = .ok refund →
      ∃ tx amounts,
        env.lib.deserialize refund.txHex = some tx ∧
        contract.refundAmounts refundAmount = .ok amounts ∧
        List.Forall₂ (ExactWhenFits env.prec) tx.vout amounts := by
  constructor
  · intro config coins rpc factory setup built
    exact MicrotransferFactory.buildSetup_outputs built
  · intro contract setupTxid refundAmount refund built
    obtain ⟨tx, _, _, parsed, outputs⟩ :=
      MicrotransferContract.buildRefundTx_outputs built
    obtain ⟨amounts, found, exact_⟩ :=
      MicrotransferContract.refundOutputs_exact outputs
    exact ⟨tx, amounts, parsed, found, exact_⟩

namespace Sample

/-- A factory with eight coins to sell. -/
def slotFactory : MicrotransferFactory CTransaction where
  greenAddress := {
    trade := trade .sell
    ecdsa1 := "seller1"
    ecdsa2 := "seller2"
    ecdsaEncrypted := "encrypted"
    address := "sellerGreen"
    depositTxid := "sellerDeposit"
    depositTxHex := none
    inputs := [] }
  trade := { trade .sell with amount := C.coins 8, remaining := C.coins 8 }
  contracts := ∅
  setup := {
    txHex := none
    txid := none
    sig1 := none
    sig2 := none
    signed := none }
  refund := {
    txHex := none
    txid := none
    signed := none }
  setupTxids := ∅
  setups := ∅
  refunds := ∅
  collateralInfo := ∅
  ourTxFee := 0
  theirTxFee := 0
  txFeeAmount := 0
  total := 0
  tradeFee := 0
  instanceId := none

def freeCoins (_ : String) : Option CoinConfig :=
  some ⟨0, 0⟩

def depositConfig (tradeFee : C) : Config where
  ecdsaEncrypted := "encrypted"
  ecdsaOffline := "offline"
  ecdsaFee := "fee"
  ecdsaArbiter := "arbiter"
  tradeFee := tradeFee
  confirmations := 1

/-- The transaction that paid eight coins to the green address. -/
def depositTx : CTransaction where
  nVersion := 1
  vin := []
  vout := [⟨800000000, .p2sh (textBytes "sellerGreen")⟩]
  nLockTime := 0

def depositInput : GreenInput where
  txid := "sellerDeposit"
  vout := 0
  amount := 8
  confirmations := 1

def depositAddress : GreenAddress CTransaction where
  trade :=
    { trade .sell with
      amount := C.coins 8
      total := C.coins 16
      remaining := C.coins 8 }
  ecdsa1 := "seller1"
  ecdsa2 := "seller2"
  ecdsaEncrypted := "encrypted"
  address := "sellerGreen"
  depositTxid := "sellerDeposit"
  depositTxHex := some depositTx
  inputs := []

def depositRpc : CoinRpc where
  getnewaddress := .ok "sellerChange"
  getbalance := .ok (C.coins 8)
  loadInputs := Outcome.pure [depositInput] ()

/-- The factory of the deposit at a fee of one half, before any contract. -/
def chargedFactory : MicrotransferFactory CTransaction :=
  { slotFactory with
    greenAddress := depositAddress
    trade :=
      { trade .sell with
        fees := C.coins 4 }
    tradeFee := C.ofVal 5000000000000000 C.half_bounded }

/-- The factory with a contract for the coins that the fee leaves. -/
def matchedFactory : MicrotransferFactory CTransaction :=
  { chargedFactory with contracts := ⟨[("first", sellerContract)]⟩ }

/-- The sample contract with an upload amount of nine digits. -/
def fineContract : MicrotransferContract CTransaction :=
  { sellerContract with
    uploadAmount := C.ofVal 12345678900000000 (by decide) }

end Sample

/-- The setup and the refund of the sample contract have the whole satoshi of
their amounts. -/
theorem outputs_exact_sample :
    (∃ tx amounts,
      ((Sample.matchedFactory.buildSetup Sample.env
        (Sample.depositConfig Sample.matchedFactory.tradeFee) Sample.freeCoins
        Sample.depositRpc).result.toOption.map HalfSignedTx.txHex) = some tx ∧
      List.Forall₂ (ExactWhenFits 8) tx.vout amounts ∧
      amounts = [C.coins 5, C.coins 3] ∧
      ∀ amount ∈ amounts, FitsPrecision 8 amount) ∧
    ∃ tx amounts,
      (MicrotransferContract.buildRefundTx Sample.env Sample.sellerContract
        (some "tx:sellerDeposit") none).toOption.map HalfSignedTx.txHex =
          some tx ∧
      Sample.sellerContract.refundAmounts none = .ok amounts ∧
      List.Forall₂ (ExactWhenFits 8) tx.vout amounts ∧
      ∀ amount ∈ amounts, FitsPrecision 8 amount := by
  obtain ⟨setups, refunds⟩ := outputs_exact_iff Sample.env
  constructor
  · have returns : (Sample.matchedFactory.buildSetup Sample.env
        (Sample.depositConfig Sample.matchedFactory.tradeFee) Sample.freeCoins
        Sample.depositRpc).result.toOption.isSome := by
      decide +kernel
    have amounts_eq : (Sample.matchedFactory.buildSetup Sample.env
        (Sample.depositConfig Sample.matchedFactory.tradeFee) Sample.freeCoins
        Sample.depositRpc).state.setupAmounts =
          .ok [C.coins 5, C.coins 3] := by
      decide +kernel
    obtain ⟨setup, isSetup⟩ := Option.isSome_iff_exists.mp returns
    obtain ⟨tx, amounts, parsed, found, exact_⟩ :=
      setups _ _ _ _ setup (Except.ok_of_toOption isSetup)
    rw [amounts_eq, Except.ok.injEq] at found
    subst found
    refine ⟨tx, _, ?_, exact_, rfl, by decide +kernel⟩
    rw [isSetup]
    exact parsed
  · obtain ⟨refund, built⟩ : ∃ refund, MicrotransferContract.buildRefundTx
        Sample.env Sample.sellerContract (some "tx:sellerDeposit") none =
          .ok refund := by
      exact ⟨_, rfl⟩
    obtain ⟨tx, amounts, parsed, found, exact_⟩ :=
      refunds Sample.sellerContract (some "tx:sellerDeposit") none refund built
    refine ⟨tx, amounts, ?_, found, exact_, ?_⟩
    · rw [built]
      exact parsed
    · cases found
      decide +kernel

/-- With eight digits of precision the refund of 1.23456789 coins is one
satoshi too high. -/
theorem refund_rounded :
    (MicrotransferContract.buildRefundTx Sample.env Sample.fineContract
        (some "tx:sellerDeposit") none).toOption.map
      (fun refund => refund.txHex.vout.map CTxOut.nValue) =
        some [123456790] ∧
      chainValue Sample.fineContract.uploadAmount = 123456789 := by
  decide +kernel

end Coinbend
