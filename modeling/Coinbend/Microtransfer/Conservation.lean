import Coinbend.Microtransfer.Bookkeeping
import Coinbend.Trade.Fees

/-!
# Conservation of the deposited coins

The setup transaction spends what a green address trade sends.  Its outputs
hold exactly that when the contracts and the trade fee use it up and no output
loses a digit of its amount; whenever less is used the change output cannot be
built.
-/

namespace Coinbend

/-! ## Digits that an output keeps -/

/-- A sum in sixteen digits is a number of whole satoshi of which the precision
cuts off nothing but zeros. -/
def KeptBy (prec sum : Nat) : Prop :=
  satoshiUnit ∣ sum ∧
    10 ^ DecimalRounding.cutDigits prec (sum / satoshiUnit) ∣ sum / satoshiUnit

instance (prec sum : Nat) : Decidable (KeptBy prec sum) :=
  inferInstanceAs (Decidable (_ ∧ _))

/-- An output made from an amount that is kept holds all of it. -/
theorem outputValue_of_keptBy
    {prec : Nat}
    {amount : C}
    (kept : KeptBy prec amount.val) :
    outputValue prec amount = (amount.val / satoshiUnit : Nat) := by
  have value := (outputValue_eq_chainValue_iff prec amount).mpr kept.2
  rw [value, chainValue_eq_satoshi]
  rfl

/-- What outputs hold of amounts that are kept. -/
theorem outputValues_of_keptBy
    {prec : Nat}
    {amounts : List C}
    (kept : ∀ amount ∈ amounts, KeptBy prec amount.val) :
    (amounts.map (outputValue prec)).sum * satoshiUnit =
      ((amounts.map C.val).sum : Nat) := by
  induction amounts with
  | nil => rfl
  | cons amount amounts inductionHypothesis =>
      rw [List.forall_mem_cons] at kept
      have whole := Nat.div_mul_cancel kept.1.1
      rw [List.map_cons, List.sum_cons, outputValue_of_keptBy kept.1, add_mul,
        inductionHypothesis kept.2, List.map_cons, List.sum_cons]
      exact_mod_cast congrArg (· + (amounts.map C.val).sum) whole

variable {Hex : Type}

namespace MicrotransferFactory

/-- The `MicrotransferFactory` constructor. -/
def new
    (context : TradeContext)
    (config : Config)
    (greenAddress : GreenAddress Hex) :
    Except PyError (MicrotransferFactory Hex) := do
  let copied ← greenAddress.trade.copy context
  let trade ← copied.applyTradeFee context config.tradeFee
  return {
    greenAddress, trade
    contracts := ∅
    setup := {
      txHex := none
      txid := none
      sig1 := none
      sig2 := none
      signed := none }
    refund := {
      txHex := none
      txid := none
      signed := none }
    setupTxids := ∅
    setups := ∅
    refunds := ∅
    collateralInfo := ∅
    ourTxFee := 0
    theirTxFee := 0
    txFeeAmount := 0
    total := 0
    tradeFee := config.tradeFee
    instanceId := none }

/-! ## The amounts of the outputs -/

/-- The collateral of some contracts. -/
def chunkFunds (contracts : List (MicrotransferContract Hex)) : Nat :=
  (contracts.map fun contract => contract.ourChunkSize.val).sum

section Amounts

variable {env : MicrotransferEnv Hex} {factory : MicrotransferFactory Hex}
variable {contracts : List (MicrotransferContract Hex)}

/-- What the sums over the contracts are. -/
theorem collateralFold_spec
    {collateral toSend : C}
    {done : C × C}
    (folded : contracts.foldlM
      (fun ((collateral, toSend) : C × C) contract => do
        let collateral ← collateral.add contract.ourChunkSize
        let funds ← contract.uploadAmount.add contract.ourChunkSize
        let funds ← funds.add factory.txFeeAmount
        let toSend ← toSend.add funds
        return (collateral, toSend))
      (collateral, toSend) = (.ok done : Except PyError (C × C))) :
    done.1.val = collateral.val + chunkFunds contracts ∧
      done.2.val = toSend.val + chunkFunds contracts +
        factory.contractFunds contracts := by
  induction contracts generalizing collateral toSend with
  | nil =>
      cases folded
      simp [chunkFunds, contractFunds]
  | cons contract contracts inductionHypothesis =>
      simp only [List.foldlM_cons, Except.bind_eq_ok_iff] at folded
      obtain ⟨_, ⟨chunks, chunk, both, sum, funds, withFee, next, added,
        returned⟩, rest⟩ := folded
      cases returned
      obtain ⟨first, second⟩ := inductionHypothesis rest
      have := C.val_add chunk
      have := C.val_add sum
      have := C.val_add withFee
      have := C.val_add added
      simp only [chunkFunds, contractFunds, List.map_cons, List.sum_cons]
        at first second ⊢
      omega

/-- The sums over the contracts exist when they stay within some amount. -/
theorem collateralFold_of_le
    (limit : C)
    {collateral toSend : C}
    (below : collateral.val ≤ toSend.val)
    (fits : toSend.val + chunkFunds contracts +
      factory.contractFunds contracts ≤ limit.val) :
    ∃ done, contracts.foldlM
      (fun ((collateral, toSend) : C × C) contract => do
        let collateral ← collateral.add contract.ourChunkSize
        let funds ← contract.uploadAmount.add contract.ourChunkSize
        let funds ← funds.add factory.txFeeAmount
        let toSend ← toSend.add funds
        return (collateral, toSend))
      (collateral, toSend) = (.ok done : Except PyError (C × C)) := by
  induction contracts generalizing collateral toSend with
  | nil => exact ⟨_, rfl⟩
  | cons contract contracts inductionHypothesis =>
      simp only [chunkFunds, contractFunds, List.map_cons, List.sum_cons]
        at fits inductionHypothesis
      obtain ⟨chunks, chunk, chunk_val⟩ := C.add_of_le (a := collateral)
        (b := contract.ourChunkSize) (c := limit) (by omega)
      obtain ⟨both, sum, sum_val⟩ := C.add_of_le (a := contract.uploadAmount)
        (b := contract.ourChunkSize) (c := limit) (by omega)
      obtain ⟨funds, withFee, funds_val⟩ := C.add_of_le (a := both)
        (b := factory.txFeeAmount) (c := limit) (by omega)
      obtain ⟨next, added, next_val⟩ := C.add_of_le (a := toSend)
        (b := funds) (c := limit) (by omega)
      obtain ⟨done, rest⟩ :=
        @inductionHypothesis chunks next (by omega) (by omega)
      refine ⟨done, ?_⟩
      simp only [List.foldlM_cons, chunk, sum, withFee, added, Except.ok_bind]
      exact rest

/-- The contract outputs exist when their total stays within some amount. -/
theorem contractOutputs_of_le
    (limit : C)
    {outputs : List CTxOut}
    {total : C}
    (fits : total.val + factory.contractFunds contracts ≤ limit.val) :
    ∃ done, contracts.foldlM
      (fun ((outputs, total) : List CTxOut × C) contract => do
        let script := p2shScript env.lib (bondRedeemScript contract.keys .us)
        let contractAmount ← contract.uploadAmount.add factory.txFeeAmount
        let total ← total.add contractAmount
        return (outputs ++ [⟨outputValue env.prec contractAmount, script⟩],
          total))
      (outputs, total) = (.ok done : Except PyError _) := by
  induction contracts generalizing outputs total with
  | nil => exact ⟨_, rfl⟩
  | cons contract contracts inductionHypothesis =>
      simp only [contractFunds, List.map_cons, List.sum_cons]
        at fits inductionHypothesis
      obtain ⟨amount, sum, amount_val⟩ := C.add_of_le
        (a := contract.uploadAmount) (b := factory.txFeeAmount) (c := limit)
        (by omega)
      obtain ⟨next, added, next_val⟩ := C.add_of_le (a := total)
        (b := amount) (c := limit) (by omega)
      simp only [List.foldlM_cons, sum, added, Except.ok_bind]
      exact inductionHypothesis (by omega)

end Amounts

/-- The fees of a setup transaction that matched some amount, as the code
computes them. -/
def feesDue (matched fees toSend tradeFee : Nat) : Nat :=
  if matched + fees < toSend then
    (toSend - (matched + fees)) * tradeFee / decBase
  else fees

theorem setupFees_spec
    {factory : MicrotransferFactory Hex}
    {toSend fees : C}
    (found : factory.setupFees toSend = .ok fees) :
    fees.val = feesDue toSend.val factory.trade.fees.val
      factory.greenAddress.trade.toSend.val factory.tradeFee.val := by
  rw [setupFees, Except.bind_eq_ok_iff] at found
  obtain ⟨charged, sum, found⟩ := found
  have charged_val := C.val_add sum
  split at found
  next less =>
    rw [Except.bind_eq_ok_iff] at found
    obtain ⟨ceiling, difference, product⟩ := found
    rw [C.lt_iff, charged_val] at less
    rw [feesDue, if_pos less, C.val_mul product, (C.val_sub difference).2,
      charged_val]
  next notLess =>
    cases found
    rw [C.lt_iff, charged_val] at notLess
    rw [feesDue, if_neg notLess]

/-- The fees exist when they and the sums stay within some amount. -/
theorem setupFees_of_le
    {factory : MicrotransferFactory Hex}
    (limit : C)
    {toSend : C}
    (sum_le : toSend.val + factory.trade.fees.val ≤ limit.val)
    (fees_le : feesDue toSend.val factory.trade.fees.val
      factory.greenAddress.trade.toSend.val factory.tradeFee.val ≤
        limit.val) :
    ∃ fees, factory.setupFees toSend = .ok fees := by
  obtain ⟨charged, sum, charged_val⟩ := C.add_of_le sum_le
  rw [setupFees, sum, Except.ok_bind]
  split
  next less =>
    rw [C.lt_iff, charged_val] at less
    rw [feesDue, if_pos less] at fees_le
    obtain ⟨ceiling, difference, ceiling_val⟩ :=
      C.sub_of_le (a := factory.greenAddress.trade.toSend) (b := charged)
        (by omega)
    rw [difference, Except.ok_bind]
    rw [charged_val] at ceiling_val
    rw [← ceiling_val] at fees_le
    obtain ⟨fees, product, _⟩ := C.mul_of_le fees_le
    exact ⟨fees, product⟩
  · exact ⟨_, rfl⟩

/-- The matched coins and the fees due are what is sent exactly when the fee of
the whole trade completes the match, or a fee of everything takes the rest. -/
theorem matched_add_feesDue_iff (matched fees toSend tradeFee : Nat) :
    matched + feesDue matched fees toSend tradeFee = toSend ↔
      matched + fees = toSend ∨
        decBase ≤ tradeFee ∧ matched + fees < toSend ∧
          matched + (toSend - (matched + fees)) * tradeFee / decBase =
            toSend := by
  unfold feesDue
  split
  next less =>
    constructor
    · intro exactly
      refine Or.inr ⟨?_, less, exactly⟩
      by_contra small
      rw [Nat.not_le] at small
      have shrinks : (toSend - (matched + fees)) * tradeFee / decBase <
          toSend - (matched + fees) := by
        rw [Nat.div_lt_iff_lt_mul decBase_pos]
        exact Nat.mul_lt_mul_of_pos_left small (by omega)
      omega
    · rintro (whole | ⟨_, _, exactly⟩)
      · omega
      · exact exactly
  next notLess =>
    constructor
    · exact Or.inl
    · rintro (whole | ⟨_, less, _⟩)
      · exact whole
      · exact absurd less notLess

/-- The uploads and chunks of the contracts and a transaction fee for each. -/
def matchedFunds (factory : MicrotransferFactory Hex) (txFee : C) : Nat :=
  (factory.contracts.values.map fun contract =>
    contract.uploadAmount.val + contract.ourChunkSize.val + txFee.val).sum

/-- What goes into the contract outputs. -/
def contractSums
    (factory : MicrotransferFactory Hex)
    (txFee : C) : List Nat :=
  factory.contracts.values.map fun contract =>
    contract.uploadAmount.val + txFee.val

/-- What goes into the fee output: the chunks and the fees due. -/
def feeSum (factory : MicrotransferFactory Hex) (txFee : C) : Nat :=
  chunkFunds factory.contracts.values +
    feesDue (factory.matchedFunds txFee) factory.trade.fees.val
      factory.greenAddress.trade.toSend.val factory.tradeFee.val

/-- What goes into the outputs. -/
def outputSums (factory : MicrotransferFactory Hex) (txFee : C) : List Nat :=
  factory.feeSum txFee :: factory.contractSums txFee

theorem matchedFunds_eq (factory : MicrotransferFactory Hex) (txFee : C) :
    factory.matchedFunds txFee =
      chunkFunds factory.contracts.values +
        (factory.contractSums txFee).sum := by
  unfold matchedFunds chunkFunds contractSums
  induction factory.contracts.values with
  | nil => rfl
  | cons contract contracts inductionHypothesis =>
      simp only [List.map_cons, List.sum_cons] at inductionHypothesis ⊢
      omega

/-- The outputs take the matched coins and the fees due. -/
theorem outputSums_sum (factory : MicrotransferFactory Hex) (txFee : C) :
    (factory.outputSums txFee).sum =
      factory.matchedFunds txFee +
        feesDue (factory.matchedFunds txFee) factory.trade.fees.val
          factory.greenAddress.trade.toSend.val factory.tradeFee.val := by
  have matched := factory.matchedFunds_eq txFee
  rw [outputSums, List.sum_cons, feeSum]
  omega

/-- The amounts and values of the contract outputs. -/
theorem contractOutputs_amounts
    {env : MicrotransferEnv Hex}
    {factory : MicrotransferFactory Hex}
    {contracts : List (MicrotransferContract Hex)}
    {outputs : List CTxOut}
    (paired : List.Forall₂ (factory.ContractOutput env) contracts outputs) :
    ∃ amounts : List C,
      outputs.map CTxOut.nValue = amounts.map (outputValue env.prec) ∧
      amounts.map C.val = contracts.map fun contract =>
        contract.uploadAmount.val + factory.txFeeAmount.val := by
  induction paired with
  | nil => exact ⟨[], rfl, rfl⟩
  | cons isOutput _ inductionHypothesis =>
      obtain ⟨amount, added, rfl⟩ := isOutput
      obtain ⟨amounts, values, sums⟩ := inductionHypothesis
      refine ⟨amount :: amounts, ?_, ?_⟩
      · rw [List.map_cons, List.map_cons, values]
        rfl
      · rw [List.map_cons, List.map_cons, sums, C.val_add added]

/-- The values of a setup transaction are those of the amounts that go into its
outputs, and they take what the green address sends. -/
theorem setupTransaction_amounts
    {env : MicrotransferEnv Hex}
    {config : Config}
    {factory : MicrotransferFactory Hex}
    {tx : CTransaction}
    (built : factory.setupTransaction env config = .ok tx) :
    (∃ amounts : List C,
      tx.vout.map CTxOut.nValue = amounts.map (outputValue env.prec) ∧
      amounts.map C.val = factory.outputSums factory.txFeeAmount) ∧
    ∃ total : C, total.val = (factory.outputSums factory.txFeeAmount).sum ∧
      factory.greenAddress.trade.toSend.val ≤ total.val := by
  obtain ⟨collateral, toSend, fees, fee, outputs, total, sums, feesFound,
    feeFound, outputsFound, notShort, vout⟩ := setupTransaction_spec built
  obtain ⟨paired, total_val⟩ := contractOutputs_spec outputsFound
  obtain ⟨amounts, values, contract_sums⟩ := contractOutputs_amounts paired
  have sums_val := collateralFold_spec sums
  have fees_val := setupFees_spec feesFound
  have matched := factory.matchedFunds_eq factory.txFeeAmount
  simp only [C.val_zero, Nat.zero_add] at sums_val
  have fee_val : fee.val = factory.feeSum factory.txFeeAmount := by
    rw [C.val_add feeFound, sums_val.1, fees_val, sums_val.2, feeSum, matched]
    rfl
  refine ⟨⟨fee :: amounts, ?_, ?_⟩, ?_⟩
  · rw [vout, List.map_cons, List.map_cons, values]
  · rw [List.map_cons, fee_val, contract_sums]
    rfl
  · rw [C.lt_iff, Nat.not_lt] at notShort
    refine ⟨total, ?_, notShort⟩
    rw [total_val, fee_val]
    rfl

/-! ## A funded green address -/

/-- The factory once `build_setup` has read the transaction fee and loaded the
inputs. -/
def loaded
    (factory : MicrotransferFactory Hex)
    (coin : CoinConfig)
    (rpc : CoinRpc) : MicrotransferFactory Hex :=
  { factory with
    txFeeAmount := coin.txFee
    greenAddress :=
      { factory.greenAddress with
        inputs := factory.greenAddress.inputs ++ rpc.loadInputs.state } }

/-- The coin daemon answers, the wallet holds the coins, the deposit pays the
green address and the input selected for it covers what the trade sends. -/
structure Funded
    (env : MicrotransferEnv Hex)
    (config : Config)
    (coins : String → Option CoinConfig)
    (rpc : CoinRpc)
    (factory : MicrotransferFactory Hex)
    (coin : CoinConfig)
    (input : GreenInput) : Prop where
  configured : coins factory.trade.sendCurrency = some coin
  balance : ∃ balance, rpc.getbalance = .ok balance ∧
    ¬balance < factory.trade.toSend
  loads : rpc.loadInputs.result = .ok ()
  deposit : ∃ txHex tx index hash,
    factory.greenAddress.depositTxHex = some txHex ∧
    env.lib.deserialize txHex = some tx ∧
    depositVout tx = some (index, hash) ∧
    addressHash env.lib factory.greenAddress.address = .ok hash ∧
    setupInput config.confirmations index
      (factory.greenAddress.inputs ++ rpc.loadInputs.state) = some input
  covers : ∃ amount, C.ofDecimal input.amount = .ok amount ∧
    ¬amount < factory.greenAddress.trade.toSend
  index_lt : input.vout < 2 ^ 32

section Funded

variable {env : MicrotransferEnv Hex} {config : Config}
variable {coins : String → Option CoinConfig} {rpc : CoinRpc}
variable {factory : MicrotransferFactory Hex}
variable {coin : CoinConfig} {input : GreenInput}

/-- With a funded green address `build_setup` is the construction of the
transaction and its two signatures. -/
theorem buildSetup_of_funded
    (funded : factory.Funded env config coins rpc coin input) :
    factory.buildSetup env config coins rpc =
      Outcome.attempt (factory.loaded coin rpc)
        (do
          let tx ← (factory.loaded coin rpc).setupTransaction env config
          let txHex ← env.lib.print tx
          let firstSig ← signSetupTx env.lib txHex
            ((factory.loaded coin rpc).greenScript config)
            factory.greenAddress.ecdsa1
          let secondSig ← signSetupTx env.lib txHex
            ((factory.loaded coin rpc).greenScript config)
            factory.greenAddress.ecdsa2
          return (⟨txHex, env.lib.calculateTxid txHex, firstSig, secondSig⟩ :
            HalfSignedTx Hex))
        fun setup => Outcome.pure
          { factory.loaded coin rpc with
            setup :=
              { factory.setup with
                txHex := some setup.txHex
                txid := some setup.txid
                sig1 := some setup.firstSig
                sig2 := some setup.secondSig } }
          setup := by
  have known : MicrotransferContract.coinConfig coins
      factory.trade.sendCurrency = .ok coin := by
    rw [MicrotransferContract.coinConfig, funded.configured]
    rfl
  obtain ⟨balance, answered, enough⟩ := funded.balance
  rw [buildSetup, known, Outcome.attempt_ok, answered, Outcome.attempt_ok]
  simp only [if_neg enough, funded.loads, Outcome.attempt_ok]
  rfl

/-- With a funded green address the transaction exists when its amounts do and
no coins are left over. -/
theorem setupTransaction_of_funded
    (funded : factory.Funded env config coins rpc coin input)
    {collateral toSend fees fee total : C}
    {outputs : List CTxOut}
    (sums : (factory.loaded coin rpc).collateralSums =
      .ok (collateral, toSend))
    (feesFound : (factory.loaded coin rpc).setupFees toSend = .ok fees)
    (feeFound : collateral.add fees = .ok fee)
    (outputsFound : (factory.loaded coin rpc).contractOutputs env fee =
      .ok (outputs, total))
    (notShort : ¬total < (factory.loaded coin rpc).greenAddress.trade.toSend) :
    (factory.loaded coin rpc).setupTransaction env config = .ok {
      nVersion := 1
      vin := [⟨⟨input.txid, input.vout⟩, .raw [], finalSequence⟩]
      vout := ⟨outputValue env.prec fee,
        .p2pkh (env.lib.keyHash config.ecdsaFee)⟩ :: outputs
      nLockTime := 0 } := by
  obtain ⟨txHex, depositTx, index, hash, hexFound, parsed, voutFound, hashFound,
    selected⟩ := funded.deposit
  obtain ⟨greenTotal, amountFound, covered⟩ := funded.covers
  have parse := (env.lib.parse_eq_ok_iff _ _).mpr parsed
  have isHex : (factory.loaded coin rpc).greenAddress.depositTxHex =
    some txHex := hexFound
  have isHash : addressHash env.lib
    (factory.loaded coin rpc).greenAddress.address = .ok hash := hashFound
  have isInput : setupInput config.confirmations index
    (factory.loaded coin rpc).greenAddress.inputs = some input := selected
  have isCovered :
    ¬greenTotal < (factory.loaded coin rpc).greenAddress.trade.toSend := covered
  simp only [setupTransaction, isHex, Except.ofOption, Except.ok_bind, parse,
    voutFound, isHash, isInput, amountFound, sums, feesFound, feeFound,
    outputsFound, ne_eq, not_true_eq_false, Except.raiseIf_bind notShort,
    Except.raiseIf_bind isCovered]
  rfl

/-- The transaction exists when its amounts are what the green address
sends. -/
theorem setupTransaction_of_exact
    (funded : factory.Funded env config coins rpc coin input)
    (exactly : (factory.outputSums coin.txFee).sum =
      factory.greenAddress.trade.toSend.val) :
    ∃ tx, (factory.loaded coin rpc).setupTransaction env config = .ok tx ∧
      tx.nVersion = 1 ∧ tx.nLockTime = 0 ∧
      tx.vin = [⟨⟨input.txid, input.vout⟩, .raw [], finalSequence⟩] := by
  have matched : factory.matchedFunds coin.txFee =
      chunkFunds factory.contracts.values +
        (factory.loaded coin rpc).contractFunds factory.contracts.values :=
    factory.matchedFunds_eq coin.txFee
  rw [outputSums_sum, matched] at exactly
  have sums_le : (0 : C).val + chunkFunds factory.contracts.values +
      (factory.loaded coin rpc).contractFunds factory.contracts.values ≤
        factory.greenAddress.trade.toSend.val := by
    rw [C.val_zero]
    omega
  obtain ⟨⟨collateral, toSend⟩, sums⟩ :=
    collateralFold_of_le factory.greenAddress.trade.toSend (Nat.le_refl _)
      sums_le
  obtain ⟨collateral_val, toSend_val⟩ := collateralFold_spec sums
  simp only [C.val_zero, Nat.zero_add] at collateral_val toSend_val
  rw [← toSend_val] at exactly
  have charged_le : toSend.val + factory.trade.fees.val ≤
      factory.greenAddress.trade.toSend.val := by
    unfold feesDue at exactly
    split at exactly <;> omega
  have feesFound : ∃ fees,
      (factory.loaded coin rpc).setupFees toSend = .ok fees := by
    refine setupFees_of_le factory.greenAddress.trade.toSend charged_le ?_
    exact Nat.le_of_add_left_le (Nat.le_of_eq exactly)
  obtain ⟨fees, feesFound⟩ := feesFound
  have fees_val : fees.val = feesDue toSend.val factory.trade.fees.val
      factory.greenAddress.trade.toSend.val factory.tradeFee.val :=
    setupFees_spec feesFound
  rw [← fees_val] at exactly
  obtain ⟨fee, feeFound, fee_val⟩ := C.add_of_le (a := collateral) (b := fees)
    (c := factory.greenAddress.trade.toSend) (by omega)
  have outputsFound : ∃ done,
      (factory.loaded coin rpc).contractOutputs env fee = .ok done := by
    refine contractOutputs_of_le factory.greenAddress.trade.toSend ?_
    simp only [loaded] at toSend_val ⊢
    omega
  obtain ⟨⟨outputs, total⟩, outputsFound⟩ := outputsFound
  have total_val := (contractOutputs_spec outputsFound).2
  have notShort :
      ¬total < (factory.loaded coin rpc).greenAddress.trade.toSend := by
    rw [C.lt_iff, total_val, fee_val]
    simp only [loaded] at toSend_val ⊢
    omega
  exact ⟨_, setupTransaction_of_funded funded sums feesFound feeFound
    outputsFound notShort, rfl, rfl, rfl⟩

/-- What `build_setup` does when it returns. -/
theorem buildSetup_of_result
    (funded : factory.Funded env config coins rpc coin input)
    {setup : HalfSignedTx Hex}
    (built : (factory.buildSetup env config coins rpc).result = .ok setup) :
    ∃ tx, (factory.loaded coin rpc).setupTransaction env config = .ok tx ∧
      env.lib.print tx = .ok setup.txHex := by
  rw [buildSetup_of_funded funded] at built
  generalize prepared : (do
    let tx ← (factory.loaded coin rpc).setupTransaction env config
    let txHex ← env.lib.print tx
    let firstSig ← signSetupTx env.lib txHex
      ((factory.loaded coin rpc).greenScript config)
      factory.greenAddress.ecdsa1
    let secondSig ← signSetupTx env.lib txHex
      ((factory.loaded coin rpc).greenScript config)
      factory.greenAddress.ecdsa2
    return (⟨txHex, env.lib.calculateTxid txHex, firstSig, secondSig⟩ :
      HalfSignedTx Hex)) = signed at built
  cases signed with
  | error error => cases built
  | ok signed =>
      cases built
      simp only [Except.bind_eq_ok_iff] at prepared
      obtain ⟨tx, transaction, txHex, printed, _, _, _, _, returned⟩ := prepared
      cases returned
      exact ⟨tx, transaction, printed⟩

/-- `build_setup` returns once its transaction is built and printed. -/
theorem buildSetup_of_printed
    (funded : factory.Funded env config coins rpc coin input)
    {tx : CTransaction}
    {txHex : Hex}
    (transaction :
      (factory.loaded coin rpc).setupTransaction env config = .ok tx)
    (printed : env.lib.print tx = .ok txHex)
    (spends : tx.vin ≠ []) :
    ∃ setup, (factory.buildSetup env config coins rpc).result = .ok setup ∧
      setup.txHex = txHex := by
  have signs : ∀ redeemScript ecdsa,
      signSetupTx env.lib txHex redeemScript ecdsa =
        .ok (env.lib.sign ecdsa redeemScript tx) := by
    intro redeemScript ecdsa
    rw [signSetupTx, env.lib.parse_print printed, Except.ok_bind,
      Except.raiseIf_bind spends]
    rfl
  rw [buildSetup_of_funded funded, transaction, Except.ok_bind, printed,
    Except.ok_bind, signs, Except.ok_bind, signs, Except.ok_bind]
  exact ⟨_, rfl, rfl⟩

end Funded

/-- `build_setup` returns, and the values of the outputs of its transaction sum
to exactly what the green address sends. -/
def Conserves
    (env : MicrotransferEnv Hex)
    (config : Config)
    (coins : String → Option CoinConfig)
    (rpc : CoinRpc)
    (factory : MicrotransferFactory Hex) : Prop :=
  ∃ setup tx,
    (factory.buildSetup env config coins rpc).result = .ok setup ∧
    env.lib.deserialize setup.txHex = some tx ∧
    (tx.vout.map CTxOut.nValue).sum * satoshiUnit =
      factory.greenAddress.trade.toSend.val

/-- The contracts, their transaction fees and the fee of the whole trade are
exactly what the green address sends; or less, and a fee of all that is left,
at a rate of one or more, makes up for it. -/
def UsesDeposit (factory : MicrotransferFactory Hex) (txFee : C) : Prop :=
  let matched := factory.matchedFunds txFee
  let fees := factory.trade.fees.val
  let toSend := factory.greenAddress.trade.toSend.val
  let tradeFee := factory.tradeFee.val
  matched + fees = toSend ∨
    decBase ≤ tradeFee ∧ matched + fees < toSend ∧
      matched + (toSend - (matched + fees)) * tradeFee / decBase = toSend

theorem usesDeposit_iff (factory : MicrotransferFactory Hex) (txFee : C) :
    factory.UsesDeposit txFee ↔
      (factory.outputSums txFee).sum =
        factory.greenAddress.trade.toSend.val := by
  rw [outputSums_sum]
  exact (matched_add_feesDue_iff _ _ _ _).symm

/-- The deposit is used up, and every output can hold what goes into it. -/
structure DepositFits
    (prec : Nat)
    (factory : MicrotransferFactory Hex)
    (txFee : C) : Prop where
  uses : factory.UsesDeposit txFee
  kept : ∀ sum ∈ factory.outputSums txFee, KeptBy prec sum
  fits : ∀ sum ∈ factory.outputSums txFee,
    FitsInt64 (sum / satoshiUnit : Nat)

/-- The values that outputs hold when every digit is kept. -/
theorem nValue_of_keptBy
    {prec : Nat}
    {outputs : List CTxOut}
    {amounts : List C}
    {sums : List Nat}
    (values : outputs.map CTxOut.nValue = amounts.map (outputValue prec))
    (areSums : amounts.map C.val = sums)
    (kept : ∀ sum ∈ sums, KeptBy prec sum) :
    outputs.map CTxOut.nValue =
        sums.map (fun sum => ((sum / satoshiUnit : Nat) : Int)) ∧
      (outputs.map CTxOut.nValue).sum * satoshiUnit = (sums.sum : Nat) := by
  subst areSums
  rw [List.forall_mem_map] at kept
  rw [values]
  refine ⟨?_, outputValues_of_keptBy kept⟩
  rw [List.map_map]
  apply List.map_congr_left
  intro amount isAmount
  exact outputValue_of_keptBy (kept amount isAmount)

/-- When `build_setup` conserves the deposit, no coins are left over, and it is
used up unless an output lost digits. -/
theorem depositFits_of_conserves
    {env : MicrotransferEnv Hex}
    {config : Config}
    {coins : String → Option CoinConfig}
    {rpc : CoinRpc}
    {factory : MicrotransferFactory Hex}
    {coin : CoinConfig}
    {input : GreenInput}
    (funded : factory.Funded env config coins rpc coin input)
    (serializes : ∀ tx, (env.lib.serialize tx).isSome ↔ tx.Packs)
    (conserves : factory.Conserves env config coins rpc) :
    factory.greenAddress.trade.toSend.val ≤
        (factory.outputSums coin.txFee).sum ∧
      ((∀ sum ∈ factory.outputSums coin.txFee, KeptBy env.prec sum) →
        factory.DepositFits env.prec coin.txFee) := by
  obtain ⟨setup, parsedTx, built, parsed, sum⟩ := conserves
  obtain ⟨tx, transaction, printed⟩ := buildSetup_of_result funded built
  have serialized := (env.lib.print_eq_ok_iff _ _).mp printed
  have sameTx : parsedTx = tx := by
    rw [env.lib.deserialize_of_serialize serialized, Option.some.injEq]
      at parsed
    exact parsed.symm
  subst sameTx
  obtain ⟨⟨amounts, values, areSums⟩, taken, taken_val, covered⟩ :=
    setupTransaction_amounts transaction
  rw [taken_val] at covered
  have sums : amounts.map C.val = factory.outputSums coin.txFee := areSums
  refine ⟨covered, ?_⟩
  intro kept
  obtain ⟨held, total⟩ := nValue_of_keptBy values sums kept
  have packs : parsedTx.Packs := by
    rw [← serializes, serialized]
    rfl
  refine ⟨?_, kept, ?_⟩
  · rw [usesDeposit_iff]
    rw [sum] at total
    exact_mod_cast total.symm
  · intro output isOutput
    have isValue := List.mem_map_of_mem
      (f := fun sum => ((sum / satoshiUnit : Nat) : Int)) isOutput
    rw [← held] at isValue
    obtain ⟨vout, isVout, value⟩ := List.mem_map.mp isValue
    rw [← value]
    exact packs.outputs vout isVout

/-- A deposit that fits its outputs is conserved. -/
theorem conserves_of_depositFits
    {env : MicrotransferEnv Hex}
    {config : Config}
    {coins : String → Option CoinConfig}
    {rpc : CoinRpc}
    {factory : MicrotransferFactory Hex}
    {coin : CoinConfig}
    {input : GreenInput}
    (funded : factory.Funded env config coins rpc coin input)
    (serializes : ∀ tx, (env.lib.serialize tx).isSome ↔ tx.Packs)
    (fits : factory.DepositFits env.prec coin.txFee) :
    factory.Conserves env config coins rpc := by
  have exactly := (factory.usesDeposit_iff coin.txFee).mp fits.uses
  obtain ⟨tx, transaction, version, lockTime, vin⟩ :=
    setupTransaction_of_exact funded exactly
  obtain ⟨⟨amounts, values, areSums⟩, _⟩ := setupTransaction_amounts transaction
  obtain ⟨held, total⟩ := nValue_of_keptBy values areSums fits.kept
  have packs : tx.Packs := {
    version := by
      rw [version]
      decide
    lockTime := by
      rw [lockTime]
      decide
    inputs := by
      rw [vin, List.forall_mem_singleton]
      have final_lt : finalSequence < 2 ^ 32 := by decide
      exact ⟨funded.index_lt, final_lt⟩
    outputs := by
      intro output isOutput
      have isValue := List.mem_map_of_mem (f := CTxOut.nValue) isOutput
      rw [held] at isValue
      obtain ⟨sum, isSum, value⟩ := List.mem_map.mp isValue
      rw [← value]
      exact fits.fits sum isSum }
  rw [← serializes, Option.isSome_iff_exists] at packs
  obtain ⟨txHex, serialized⟩ := packs
  have printed := (env.lib.print_eq_ok_iff _ _).mpr serialized
  obtain ⟨setup, built, isHex⟩ := buildSetup_of_printed funded transaction
    printed (by rw [vin]; exact List.cons_ne_nil _ _)
  refine ⟨setup, tx, built, ?_, ?_⟩
  · rw [isHex]
    exact env.lib.deserialize_of_serialize serialized
  · rw [total]
    exact congrArg Nat.cast exactly

/-- The deposits `build_setup` conserves: those that are used up by outputs
which can hold their amounts.  It never conserves one of which coins are left
over, and where it conserves another one an output lost digits. -/
theorem buildSetup_conserves
    (env : MicrotransferEnv Hex)
    (config : Config)
    (coins : String → Option CoinConfig)
    (rpc : CoinRpc)
    (factory : MicrotransferFactory Hex)
    (coin : CoinConfig)
    (input : GreenInput)
    (funded : factory.Funded env config coins rpc coin input)
    (serializes : ∀ tx, (env.lib.serialize tx).isSome ↔ tx.Packs) :
    (factory.DepositFits env.prec coin.txFee →
      factory.Conserves env config coins rpc) ∧
    (factory.Conserves env config coins rpc →
      factory.greenAddress.trade.toSend.val ≤
          (factory.outputSums coin.txFee).sum ∧
        ((∀ sum ∈ factory.outputSums coin.txFee, KeptBy env.prec sum) →
          factory.DepositFits env.prec coin.txFee)) :=
  ⟨conserves_of_depositFits funded serializes,
    depositFits_of_conserves funded serializes⟩

end MicrotransferFactory

/-! ## A sample deposit

Eight coins are sold from a green address, at a trade fee of one half or of
nothing. -/

instance (tx : CTransaction) : Decidable tx.Packs :=
  decidable_of_iff
    ((-2 ^ 31 ≤ tx.nVersion ∧ tx.nVersion < 2 ^ 31) ∧
      tx.nLockTime < 2 ^ 32 ∧
      (∀ input ∈ tx.vin,
        input.prevout.n < 2 ^ 32 ∧ input.nSequence < 2 ^ 32) ∧
      ∀ output ∈ tx.vout, FitsInt64 output.nValue)
    ⟨fun ⟨version, lockTime, inputs, outputs⟩ =>
        ⟨version, lockTime, inputs, outputs⟩,
      fun packs =>
        ⟨packs.version, packs.lockTime, packs.inputs, packs.outputs⟩⟩

namespace Sample

/-- The sample library when it checks the fields it packs. -/
def packingLib : BitcoinLib CTransaction :=
  { BitcoinLib.transparent with
    serialize := fun tx => if tx.Packs then some tx else none
    deserialize_of_serialize := by
      intro tx hex serialized
      split at serialized
      · exact serialized.symm
      · cases serialized }

def packingEnv : MicrotransferEnv CTransaction :=
  { env with lib := packingLib }

def tradeContext : TradeContext where
  prec := 8
  isIpValid := fun _ => true
  isAddressValid := fun _ => true

/-- It is what the constructor makes. -/
example :
    MicrotransferFactory.new tradeContext
      (depositConfig chargedFactory.tradeFee) depositAddress =
        .ok chargedFactory := by
  decide +kernel

/-- The factory of the deposit without a fee. -/
def freeFactory : MicrotransferFactory CTransaction :=
  { slotFactory with
    greenAddress := depositAddress
    trade := depositAddress.trade }

/-- The sample deposit funds whatever contracts a factory stores. -/
theorem depositFunds
    (factory : MicrotransferFactory CTransaction)
    (tradeFee : C)
    (greenAddress : factory.greenAddress = depositAddress)
    (within : factory.trade.toSend.val ≤ (C.coins 8).val) :
    factory.Funded packingEnv (depositConfig tradeFee) freeCoins depositRpc
      ⟨0, 0⟩ depositInput where
  configured := rfl
  balance := by
    refine ⟨C.coins 8, rfl, ?_⟩
    rw [C.lt_iff, Nat.not_lt]
    exact within
  loads := rfl
  deposit := by
    rw [greenAddress]
    have selected : MicrotransferFactory.setupInput 1 0 [depositInput] =
        some depositInput := by
      decide +kernel
    exact ⟨depositTx, depositTx, 0, textBytes "sellerGreen", rfl, rfl, rfl,
      by decide +kernel, selected⟩
  covers := by
    rw [greenAddress]
    exact ⟨C.coins 8, by decide +kernel, by decide +kernel⟩
  index_lt := by decide

end Sample

namespace MicrotransferFactory

/-- Half the coins are the fee and the other half fill one contract. -/
theorem buildSetup_conserves_sample :
    (Sample.chargedFactory.callRun Sample.packingEnv Sample.freeCoins
      [Sample.addSlot "first"]).Conserves Sample.packingEnv
        (Sample.depositConfig Sample.chargedFactory.tradeFee) Sample.freeCoins
        Sample.depositRpc := by
  have funded := Sample.depositFunds
    (Sample.chargedFactory.callRun Sample.packingEnv Sample.freeCoins
      [Sample.addSlot "first"])
    Sample.chargedFactory.tradeFee rfl (by decide +kernel)
  have sums : (Sample.chargedFactory.callRun Sample.packingEnv Sample.freeCoins
      [Sample.addSlot "first"]).outputSums 0 =
        [5 * decBase, 3 * decBase] := by
    decide +kernel
  refine (buildSetup_conserves Sample.packingEnv _ Sample.freeCoins
    Sample.depositRpc _ ⟨0, 0⟩ Sample.depositInput funded ?_).1 ⟨?_, ?_, ?_⟩
  · intro tx
    show (if tx.Packs then some tx else none).isSome ↔ tx.Packs
    split <;> simp_all
  · left
    decide +kernel
  · rw [sums]
    decide +kernel
  · rw [sums]
    decide +kernel

/-- With one contract of half the coins `build_setup` raises on the way to the
change output. -/
theorem partial_match_raises :
    let final := Sample.freeFactory.callRun Sample.packingEnv Sample.freeCoins
      [Sample.addSlot "first"]
    new Sample.tradeContext (Sample.depositConfig 0) Sample.depositAddress =
        .ok Sample.freeFactory ∧
      final.contracts.size = 1 ∧
      final.Funded Sample.packingEnv (Sample.depositConfig 0) Sample.freeCoins
        Sample.depositRpc ⟨0, 0⟩ Sample.depositInput ∧
      ¬final.Conserves Sample.packingEnv (Sample.depositConfig 0)
        Sample.freeCoins Sample.depositRpc := by
  refine ⟨by decide +kernel, by decide +kernel, ?_, ?_⟩
  · exact Sample.depositFunds _ 0 rfl (by decide +kernel)
  · rintro ⟨setup, tx, built, _⟩
    have raises : ((Sample.freeFactory.callRun Sample.packingEnv
        Sample.freeCoins [Sample.addSlot "first"]).buildSetup Sample.packingEnv
          (Sample.depositConfig 0) Sample.freeCoins
          Sample.depositRpc).result.isOk = false := by
      decide +kernel
    rw [built] at raises
    cases raises

end MicrotransferFactory
end Coinbend
