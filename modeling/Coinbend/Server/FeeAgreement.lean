import Coinbend.Library.RoundingError
import Coinbend.Microtransfer.Conservation
import Coinbend.Microtransfer.ValidSetup
import Coinbend.Server.Locking
import Mathlib.Algebra.BigOperators.Ring.List

/-!
# Agreement on the fee

`build_setup` computes the fee output with sixteen decimals, the server and the
counterparty read satoshi back and compute it again.  They agree when no output
and no total of outputs loses digits, the chunks are those of the contract
texts, and the trade's fees are the rate on all that the outputs take.
-/

namespace Coinbend

variable {Hex : Type}

/-! ## What the outputs show -/

/-- The satoshi an output made from an amount holds. -/
def shownSatoshi (prec amount : Nat) : Nat :=
  ⌊DecimalRounding.roundDigits prec ((amount / satoshiUnit : ℕ) : ℚ)⌋.toNat

theorem outputValue_eq_shown (prec : Nat) (amount : C) :
    outputValue prec amount = shownSatoshi prec amount.val := by
  rw [outputValue, asDecimal_mul_coin, shownSatoshi, Int.toNat_of_nonneg]
  · rfl
  · exact Int.floor_nonneg.mpr
      (DecimalRounding.roundDigits_nonneg prec (Nat.cast_nonneg _))

/-- The coins such an output shows. -/
def shownCoins (prec amount : Nat) : ℚ :=
  (shownSatoshi prec amount : ℚ) / COIN

theorem strMoneyValue_outputValue (prec : Nat) (amount : C) :
    strMoneyValue (outputValue prec amount) = shownCoins prec amount.val := by
  rw [outputValue_eq_shown, strMoneyValue_of_nonneg (Int.natCast_nonneg _)]
  rfl

theorem shownCoins_nonneg (prec amount : Nat) : 0 ≤ shownCoins prec amount :=
  div_nonneg (Nat.cast_nonneg _) (Nat.cast_nonneg _)

namespace MicrotransferFactory

/-- The units that output 0 shows. -/
def shownFee (prec : Nat) (factory : MicrotransferFactory Hex) : Nat :=
  shownSatoshi prec (factory.feeSum factory.txFeeAmount) * satoshiUnit

/-- The coins the contract outputs show, when each sum is rounded to the
precision of the process that reads them. -/
def shownContracts
    (prec readPrec : Nat)
    (factory : MicrotransferFactory Hex) : ℚ :=
  factory.contracts.values.foldl
    (fun total contract => DecimalRounding.roundDigits readPrec
      (total + shownCoins prec
        (contract.uploadAmount.val + factory.txFeeAmount.val))) 0

/-- The coins of the outputs as the server adds them up. -/
def serverCoins
    (prec readPrec : Nat)
    (factory : MicrotransferFactory Hex) : Nat :=
  factory.shownFee prec + C.unitsOf (factory.shownContracts prec readPrec)

/-- The coins of the outputs as `validate_setup_tx` adds them up. -/
def clientCoins (prec : Nat) (factory : MicrotransferFactory Hex) : Nat :=
  C.unitsOf (DecimalRounding.roundDigits prec
    (shownCoins prec (factory.feeSum factory.txFeeAmount) +
      factory.shownContracts prec prec))

/-- What output 0 shows is some collateral and the trade fee on some coins. -/
structure FeeAgrees
    (prec : Nat)
    (factory : MicrotransferFactory Hex)
    (coins collateral : Nat) : Prop where
  fee_in_range : factory.shownFee prec / decBase ≤ wholeNoLimit
  coins_in_range : coins / decBase ≤ wholeNoLimit
  exactly : factory.shownFee prec =
    collateral + coins * factory.tradeFee.val / decBase

/-- The outputs of a setup transaction show its fees and the funds of its
contracts. -/
theorem setupTransaction_shown
    {env : MicrotransferEnv Hex}
    {config : Config}
    {factory : MicrotransferFactory Hex}
    {tx : CTransaction}
    (built : factory.setupTransaction env config = .ok tx) :
    ∃ feeVout outputs, tx.vout = feeVout :: outputs ∧
      strMoneyValue feeVout.nValue =
        shownCoins env.prec (factory.feeSum factory.txFeeAmount) ∧
      List.Forall₂ (factory.ContractOutput env) factory.contracts.values
        outputs := by
  obtain ⟨collateral, toSend, fees, fee, outputs, total, sums, feesFound,
    feeFound, outputsFound, _, vout⟩ := setupTransaction_spec built
  have sums_val := collateralFold_spec sums
  simp only [C.val_zero, Nat.zero_add] at sums_val
  have fees_val := setupFees_spec feesFound
  rw [sums_val.2] at fees_val
  have matched := factory.matchedFunds_eq factory.txFeeAmount
  have charged : fee.val = factory.feeSum factory.txFeeAmount := by
    rw [C.val_add feeFound, sums_val.1, fees_val, feeSum, matched]
    rfl
  refine ⟨_, outputs, vout, ?_, (contractOutputs_spec outputsFound).1⟩
  rw [strMoneyValue_outputValue, charged]

/-- The total of the contract outputs. -/
theorem totalMoney_contractOutputs
    {env : MicrotransferEnv Hex}
    {factory : MicrotransferFactory Hex}
    {outputs : List CTxOut}
    (readPrec : Nat)
    (paired : List.Forall₂ (factory.ContractOutput env)
      factory.contracts.values outputs) :
    totalMoney readPrec outputs = factory.shownContracts env.prec readPrec := by
  have folds : ∀ (contracts : List (MicrotransferContract Hex)) outputs total,
      List.Forall₂ (factory.ContractOutput env) contracts outputs →
      outputs.foldl
          (fun total output => DecimalRounding.roundDigits readPrec
            (total + strMoneyValue output.nValue)) total =
        contracts.foldl
          (fun total contract => DecimalRounding.roundDigits readPrec
            (total + shownCoins env.prec
              (contract.uploadAmount.val + factory.txFeeAmount.val))) total := by
    intro contracts outputs total paired
    induction paired generalizing total with
    | nil => rfl
    | @cons contract _ _ _ isOutput _ inductionHypothesis =>
        obtain ⟨amount, added, rfl⟩ := isOutput
        have value : strMoneyValue (contractOutput env contract amount).nValue =
            shownCoins env.prec amount.val :=
          strMoneyValue_outputValue env.prec amount
        rw [List.foldl_cons, List.foldl_cons, inductionHypothesis, value,
          C.val_add added]
  exact folds _ outputs 0 paired

theorem shownContracts_nonneg
    (prec readPrec : Nat)
    (factory : MicrotransferFactory Hex) :
    0 ≤ factory.shownContracts prec readPrec := by
  have folds : ∀ (contracts : List (MicrotransferContract Hex)) (total : ℚ),
      0 ≤ total →
      0 ≤ contracts.foldl
        (fun total contract => DecimalRounding.roundDigits readPrec
          (total + shownCoins prec
            (contract.uploadAmount.val + factory.txFeeAmount.val))) total := by
    intro contracts
    induction contracts with
    | nil => exact fun _ nonneg => nonneg
    | cons contract contracts inductionHypothesis =>
        intro total nonneg
        apply inductionHypothesis
        exact DecimalRounding.roundDigits_nonneg readPrec
          (add_nonneg nonneg (shownCoins_nonneg _ _))
  exact folds _ 0 le_rfl

/-- Contract outputs are no change. -/
theorem splitChange_contractOutputs
    {env : MicrotransferEnv Hex}
    {factory : MicrotransferFactory Hex}
    {contracts : List (MicrotransferContract Hex)}
    {outputs : List CTxOut}
    (paired : List.Forall₂ (factory.ContractOutput env) contracts outputs)
    (ecdsa1 : PubKey) :
    splitChange outputs (changeScript env.lib ecdsa1) = (outputs, none) := by
  have not_change : ∀ output ∈ outputs,
      output.scriptPubKey ≠ changeScript env.lib ecdsa1 := by
    induction paired with
    | nil => exact nofun
    | cons isOutput _ inductionHypothesis =>
        rw [List.forall_mem_cons]
        refine ⟨?_, inductionHypothesis⟩
        obtain ⟨amount, _, rfl⟩ := isOutput
        exact nofun
  unfold splitChange
  split
  next last isLast =>
    rw [if_neg (not_change last (List.mem_of_getLast? isLast))]
  · rfl

end MicrotransferFactory

/-! ## The two checks -/

/-- The fee is some collateral and the trade fee on some coins, none of which
are change. -/
theorem feeEquation_iff (collateral totalCoins tradeFee fee : C) :
    (∃ charged, totalCoins.sub 0 = .ok charged ∧
      ∃ fees, charged.mul tradeFee = .ok fees ∧
        ∃ expected, collateral.add fees = .ok expected ∧ expected = fee) ↔
      fee.val = collateral.val + totalCoins.val * tradeFee.val / decBase := by
  obtain ⟨charged, difference, charged_val⟩ :=
    C.sub_of_le (a := totalCoins) (b := 0) (Nat.zero_le _)
  rw [C.val_zero, Nat.sub_zero] at charged_val
  constructor
  · rintro ⟨charged', difference', fees, product, expected, sum, rfl⟩
    rw [difference, Except.ok.injEq] at difference'
    subst difference'
    rw [C.val_add sum, C.val_mul product, charged_val]
  · intro exactly
    rw [← charged_val] at exactly
    have due_le : charged.val * tradeFee.val / decBase ≤ fee.val := by
      rw [exactly]
      exact Nat.le_add_left _ _
    obtain ⟨fees, product, fees_val⟩ := C.mul_of_le due_le
    rw [← fees_val] at exactly
    obtain ⟨expected, sum, expected_val⟩ := C.add_of_le exactly.ge
    refine ⟨charged, difference, fees, product, expected, sum, ?_⟩
    rw [C.eq_iff, expected_val, exactly]

/-- The recorded chunks of one side, up to the first output without any. -/
def recordedTotal (chunks : Dict Nat ChunkSizes) (side : Actor) :
    Nat → Nat → Nat
  | 0, _ => 0
  | outputs + 1, index =>
      match chunks.get? index with
      | none => 0
      | some sizes =>
          (sizes.side side).val + recordedTotal chunks side outputs (index + 1)

namespace ContractServer

theorem chunkTotal_val
    {chunks : Dict Nat ChunkSizes}
    {side : Actor}
    {vouts : List CTxOut}
    {index : Nat}
    {start total : C}
    (summed : chunkTotal chunks side vouts index start = .ok total) :
    total.val = start.val + recordedTotal chunks side vouts.length index := by
  induction vouts generalizing index start with
  | nil =>
      rw [chunkTotal, Except.ok.injEq] at summed
      rw [summed, List.length_nil, recordedTotal, Nat.add_zero]
  | cons vout vouts inductionHypothesis =>
      rw [chunkTotal] at summed
      rw [List.length_cons, recordedTotal]
      cases stored : chunks.get? index with
      | none =>
          simp only [stored, Except.ok.injEq] at summed
          rw [summed, Nat.add_zero]
      | some sizes =>
          simp only [stored, Except.bind_eq_ok_iff] at summed
          obtain ⟨next, added, rest⟩ := summed
          rw [inductionHypothesis rest, C.val_add added, Nat.add_assoc]

theorem chunkTotal_of_le
    (chunks : Dict Nat ChunkSizes)
    (side : Actor)
    (vouts : List CTxOut)
    (index : Nat)
    (start limit : C)
    (fits : start.val + recordedTotal chunks side vouts.length index ≤
      limit.val) :
    ∃ total, chunkTotal chunks side vouts index start = .ok total := by
  induction vouts generalizing index start with
  | nil => exact ⟨start, rfl⟩
  | cons vout vouts inductionHypothesis =>
      rw [chunkTotal]
      rw [List.length_cons, recordedTotal] at fits
      split
      · exact ⟨start, rfl⟩
      next sizes stored =>
        rw [stored] at fits
        simp only at fits
        obtain ⟨next, added, next_val⟩ := C.add_of_le (a := start)
          (b := sizes.side side) (c := limit) (by omega)
        rw [added, Except.ok_bind]
        exact inductionHypothesis (index + 1) next (by omega)

/-- The server's check, for a setup without change. -/
theorem feeIsCorrect_iff
    (env : ServerEnv Hex)
    (found : Instance Hex)
    (side : Actor)
    (noChange : found.details.changeTotal = 0) :
    feeIsCorrect env found side = .ok true ↔
      ∃ fee contractTotal totalCoins,
        C.ofDecimal found.details.feeTotal = .ok fee ∧
        C.ofDecimal found.details.contractTotal = .ok contractTotal ∧
        fee.add contractTotal = .ok totalCoins ∧
        fee.val =
          recordedTotal found.chunks side
              found.details.contractVouts.length 1 +
            totalCoins.val * env.config.tradeFee.val / decBase := by
  have change : C.ofDecimal found.details.changeTotal = .ok 0 := by
    rw [noChange, C.ofDecimal_zero]
  unfold feeIsCorrect
  simp only [Except.bind_eq_ok_iff, Except.pure_eq_ok_iff, decide_eq_true_eq]
  constructor
  · rintro ⟨collateral, chunks, fee, isFee, contractTotal, isTotal, totalCoins,
      sum, none, isNone, equation⟩
    rw [change, Except.ok.injEq] at isNone
    subst isNone
    rw [feeEquation_iff, chunkTotal_val chunks, C.val_zero, Nat.zero_add]
      at equation
    exact ⟨fee, contractTotal, totalCoins, isFee, isTotal, sum, equation⟩
  · rintro ⟨fee, contractTotal, totalCoins, isFee, isTotal, sum, equation⟩
    obtain ⟨collateral, chunks⟩ := chunkTotal_of_le found.chunks side
      found.details.contractVouts 1 0 fee (by
        rw [C.val_zero, Nat.zero_add, equation]
        exact Nat.le_add_right _ _)
    refine ⟨collateral, chunks, fee, isFee, contractTotal, isTotal, totalCoins,
      sum, 0, change, ?_⟩
    rw [feeEquation_iff, chunkTotal_val chunks, C.val_zero, Nat.zero_add]
    exact equation

end ContractServer

/-- The totals of a result dictionary are those of the outputs a factory
builds. -/
structure SetupDetails.Shows
    (details : SetupDetails Hex)
    (env : MicrotransferEnv Hex)
    (readPrec : Nat)
    (factory : MicrotransferFactory Hex) : Prop where
  fee : details.feeTotal =
    shownCoins env.prec (factory.feeSum factory.txFeeAmount)
  change : details.changeTotal = 0
  contracts : List.Forall₂ (factory.ContractOutput env)
    factory.contracts.values details.contractVouts
  total : details.contractTotal = factory.shownContracts env.prec readPrec

namespace SetupDetails.Shows

variable {details : SetupDetails Hex} {env : MicrotransferEnv Hex}
variable {readPrec : Nat} {factory : MicrotransferFactory Hex}

theorem fee_units (shows : details.Shows env readPrec factory) :
    C.unitsOf details.feeTotal = factory.shownFee env.prec := by
  rw [shows.fee]
  exact C.unitsOf_satoshi _

theorem fee_nonneg (shows : details.Shows env readPrec factory) :
    0 ≤ details.feeTotal := by
  rw [shows.fee]
  exact shownCoins_nonneg _ _

theorem total_nonneg (shows : details.Shows env readPrec factory) :
    0 ≤ details.contractTotal := by
  rw [shows.total]
  exact factory.shownContracts_nonneg env.prec readPrec

end SetupDetails.Shows

namespace ContractServer

/-- The server accepts the fee of a built setup exactly when the recorded
chunks make it agree. -/
theorem feeIsCorrect_iff_agrees
    {env : ServerEnv Hex}
    {builder : MicrotransferEnv Hex}
    {factory : MicrotransferFactory Hex}
    {found : Instance Hex}
    (shows : found.details.Shows builder env.prec factory)
    (sameFee : factory.tradeFee = env.config.tradeFee)
    (side : Actor) :
    feeIsCorrect env found side = .ok true ↔
      factory.FeeAgrees builder.prec (factory.serverCoins builder.prec env.prec)
        (recordedTotal found.chunks side
          factory.contracts.values.length 1) := by
  rw [feeIsCorrect_iff env found side shows.change, shows.contracts.length_eq,
    ← sameFee]
  simp only [C.ofDecimal_eq_ok_iff, shows.fee_units, shows.fee_nonneg,
    shows.total_nonneg, true_and]
  constructor
  · rintro ⟨fee, contractTotal, totalCoins, fee_val, total_val, sum, exactly⟩
    have coins_val : totalCoins.val =
        factory.serverCoins builder.prec env.prec := by
      rw [C.val_add sum, fee_val, total_val, shows.total]
      rfl
    rw [fee_val, coins_val] at exactly
    exact ⟨(C.exists_val_iff _).mp ⟨fee, fee_val⟩,
      (C.exists_val_iff _).mp ⟨totalCoins, coins_val⟩, exactly⟩
  · rintro ⟨fee_in_range, coins_in_range, exactly⟩
    obtain ⟨fee, fee_val⟩ := (C.exists_val_iff _).mpr fee_in_range
    obtain ⟨coins, coins_val⟩ := (C.exists_val_iff _).mpr coins_in_range
    have total_le : C.unitsOf found.details.contractTotal ≤
        factory.serverCoins builder.prec env.prec := by
      rw [shows.total]
      exact Nat.le_add_left _ _
    obtain ⟨contractTotal, total_val⟩ := (C.exists_val_iff _).mpr
      (Nat.le_trans (Nat.div_le_div_right total_le) coins_in_range)
    have sum_eq : fee.val + contractTotal.val = coins.val := by
      rw [fee_val, total_val, coins_val, shows.total]
      rfl
    obtain ⟨totalCoins, sum, totalCoins_val⟩ := C.add_of_le sum_eq.le
    refine ⟨fee, contractTotal, totalCoins, fee_val, total_val, sum, ?_⟩
    rw [totalCoins_val, sum_eq, fee_val, coins_val]
    exact exactly

end ContractServer

/-! ## The collateral of the counterparties -/

section Client

variable {env : MicrotransferEnv Hex} {ecdsa : Ecdsa}
variable {ecdsa1 ecdsa2 : PubKey} {contractVouts : List CTxOut}

/-- A round for an info that is counted succeeds when the sum stays within some
amount. -/
theorem validateCollateral_of_le
    (limit : C)
    {remaining : Dict String CollateralInfo}
    {start : C}
    {entry : String × CollateralInfo}
    (isCounted :
      counted env.lib ecdsa ecdsa1 ecdsa2 contractVouts entry ≠ [])
    (fits : start.val + entry.2.chunkSize.val *
      (counted env.lib ecdsa ecdsa1 ecdsa2 contractVouts entry).length ≤
        limit.val) :
    ∃ done, validateCollateral env ecdsa ecdsa1 ecdsa2 contractVouts remaining
      start entry.1 entry.2 = .ok done := by
  have isValid : signaturesValid ecdsa entry.1 entry.2 = true := by
    by_contra invalid
    exact isCounted (if_neg invalid)
  have found : outputsOf env.lib ecdsa ecdsa1 ecdsa2 contractVouts entry ≠
      [] := by
    rw [counted, if_pos isValid] at isCounted
    exact isCounted
  obtain ⟨vout, isOutput⟩ := List.exists_mem_of_ne_nil _ found
  obtain ⟨isVout, isScript⟩ := List.mem_filter.mp isOutput
  obtain ⟨pair1, pair2, arbiter, loaded1, loaded2, loaded3⟩ :=
    loaded_of_collateralScript (of_decide_eq_true isScript)
  rw [counted_of_loaded isValid loaded1 loaded2 loaded3] at fits
  obtain ⟨total, summed⟩ := addRepeatedly_of_le entry.2.chunkSize limit fits
  have sigs := isValid
  simp only [signaturesValid, loaded1, loaded2, Bool.and_eq_true,
    CollateralInfo.signedText] at sigs
  have nonempty : contractVouts ≠ [] := List.ne_nil_of_mem isVout
  simp only [validateCollateral, loaded1, loaded2, loaded3, Except.ofOption,
    Except.ok_bind, sigs.1, sigs.2, nonempty, summed, Bool.true_eq_false,
    if_false]
  exact ⟨_, rfl⟩

/-- The loop succeeds when every info is counted and the sum of what is counted
stays within some amount. -/
theorem collateralLoop_of_le
    (limit : C)
    {entries : List (String × CollateralInfo)}
    {remaining : Dict String CollateralInfo}
    {start : C}
    (all_counted : ∀ entry ∈ entries,
      counted env.lib ecdsa ecdsa1 ecdsa2 contractVouts entry ≠ [])
    (fits : start.val + (entries.map fun entry => entry.2.chunkSize.val *
      (counted env.lib ecdsa ecdsa1 ecdsa2 contractVouts entry).length).sum ≤
        limit.val) :
    ∃ done, entries.foldlM
      (fun ((remaining, total) : Dict String CollateralInfo × C)
          ((pubKey1, info) : String × CollateralInfo) =>
        validateCollateral env ecdsa ecdsa1 ecdsa2 contractVouts remaining
          total pubKey1 info)
      (remaining, start) = .ok done := by
  induction entries generalizing remaining start with
  | nil => exact ⟨_, rfl⟩
  | cons first entries inductionHypothesis =>
      obtain ⟨pubKey1, info⟩ := first
      obtain ⟨first_counted, others⟩ := List.forall_mem_cons.mp all_counted
      rw [List.map_cons, List.sum_cons] at fits
      obtain ⟨⟨after, total⟩, round⟩ := @validateCollateral_of_le _ env ecdsa
        ecdsa1 ecdsa2 contractVouts limit remaining start (pubKey1, info)
        first_counted (by dsimp only at fits ⊢; omega)
      have total_val := (validateCollateral_spec round).2
      dsimp only at fits total_val
      simp only [List.foldlM_cons, round, Except.ok_bind]
      exact inductionHypothesis others (by rw [total_val]; omega)

/-- The check of `validate_setup_tx`, for a setup without change all of whose
infos are counted. -/
theorem feeIsValid_iff
    {infos : Dict String CollateralInfo}
    (feeTotal contractTotal : ℚ)
    (tradeFee : C)
    (distinct : infos.keys.Nodup)
    (all_counted : ∀ entry ∈ infos.entries,
      counted env.lib ecdsa ecdsa1 ecdsa2 contractVouts entry ≠ []) :
    feeIsValid env ecdsa ecdsa1 ecdsa2 contractVouts feeTotal contractTotal 0
        infos tradeFee = .ok true ↔
      ∃ totalCoins fee,
        C.ofDecimal (DecimalRounding.roundDigits env.prec
          (feeTotal + contractTotal)) = .ok totalCoins ∧
        C.ofDecimal feeTotal = .ok fee ∧
        fee.val =
          (infos.entries.map fun entry => entry.2.chunkSize.val *
            (counted env.lib ecdsa ecdsa1 ecdsa2 contractVouts
              entry).length).sum +
            totalCoins.val * tradeFee.val / decBase := by
  constructor
  · intro valid
    obtain ⟨due, fee, isDue, isFee, exactly⟩ :=
      feeIsValid_spec distinct valid all_counted
    simp only [tradeFeeDue, Except.bind_eq_ok_iff] at isDue
    obtain ⟨totalCoins, isTotal, none, isNone, charged, difference, product⟩ :=
      isDue
    rw [C.ofDecimal_zero, Except.ok.injEq] at isNone
    subst isNone
    refine ⟨totalCoins, fee, isTotal, isFee, ?_⟩
    rw [exactly, C.val_mul product, (C.val_sub difference).2, C.val_zero,
      Nat.sub_zero]
  · rintro ⟨totalCoins, fee, isTotal, isFee, exactly⟩
    have claimed_le : (0 : C).val +
        (infos.entries.map fun entry => entry.2.chunkSize.val *
          (counted env.lib ecdsa ecdsa1 ecdsa2 contractVouts
            entry).length).sum ≤ fee.val := by
      rw [C.val_zero, Nat.zero_add, exactly]
      exact Nat.le_add_right _ _
    obtain ⟨⟨remaining, collateral⟩, looped⟩ :=
      @collateralLoop_of_le _ env ecdsa ecdsa1 ecdsa2 contractVouts fee
        infos.entries infos 0 all_counted claimed_le
    obtain ⟨left, collateral_val⟩ := collateralLoop_spec looped
    have nothing_left := (remaining_eq_nil_iff distinct left).mpr all_counted
    simp only [C.val_zero, Nat.zero_add] at collateral_val nothing_left
    rw [← collateral_val] at exactly
    obtain ⟨charged, difference, fees, product, expected, sum, rfl⟩ :=
      (feeEquation_iff collateral totalCoins tradeFee fee).mpr exactly
    unfold feeIsValid
    rw [Except.bind_eq_ok_iff]
    refine ⟨(remaining, collateral), looped, ?_⟩
    dsimp only
    rw [if_neg (not_not.mpr nothing_left)]
    simp only [Except.bind_eq_ok_iff, Except.pure_eq_ok_iff, decide_eq_true_eq]
    exact ⟨totalCoins, isTotal, 0, C.ofDecimal_zero, charged, difference, fees,
      product, expected, sum, expected, isFee, rfl⟩

end Client

/-! ## Whose chunks -/

namespace MicrotransferContract

/-- The chunk size the contract text gives our side.  A contract that sends its
amount takes itself for the seller's. -/
def agreedChunk (contract : MicrotransferContract Hex) : C :=
  if contract.trade.actor = .seller ↔
      contract.trade.toSend = contract.trade.amount then contract.ourChunkSize
  else contract.theirChunkSize

/-- The script of the output a contract gets. -/
def bondScript
    (lib : BitcoinLib Hex)
    (contract : MicrotransferContract Hex) : Script :=
  p2shScript lib (bondRedeemScript contract.keys .us)

end MicrotransferContract

/-- The chunks the texts of some contracts give our side. -/
def agreedFunds (contracts : List (MicrotransferContract Hex)) : Nat :=
  (contracts.map fun contract => contract.agreedChunk.val).sum

/-- The server has the chunk sizes of every contract, under the number of its
output. -/
def Instance.Records
    (found : Instance Hex)
    (side : Actor)
    (contracts : List (MicrotransferContract Hex)) : Prop :=
  ∀ index contract, contracts[index]? = some contract →
    ∃ sizes, found.chunks.get? (index + 1) = some sizes ∧
      sizes.side side = contract.agreedChunk

theorem recordedTotal_of_records
    {chunks : Dict Nat ChunkSizes}
    {side : Actor}
    {contracts : List (MicrotransferContract Hex)}
    {start : Nat}
    (records : ∀ index contract, contracts[index]? = some contract →
      ∃ sizes, chunks.get? (start + index) = some sizes ∧
        sizes.side side = contract.agreedChunk) :
    recordedTotal chunks side contracts.length start =
      agreedFunds contracts := by
  induction contracts generalizing start with
  | nil => rfl
  | cons contract contracts inductionHypothesis =>
      obtain ⟨sizes, stored, agreed⟩ := records 0 contract rfl
      rw [Nat.add_zero] at stored
      rw [List.length_cons, recordedTotal, stored]
      have rest := @inductionHypothesis (start + 1) (by
        intro index other isOther
        obtain ⟨sizes, stored, agreed⟩ := records (index + 1) other isOther
        refine ⟨sizes, ?_, agreed⟩
        rw [← stored]
        congr 1
        omega)
      simp only [rest, agreed, agreedFunds, List.map_cons, List.sum_cons]

/-- The info a counterparty submits for a contract: signed with both its keys,
for the output of the contract and the chunk its text names. -/
structure CollateralOf
    (lib : BitcoinLib Hex)
    (ecdsa : Ecdsa)
    (ecdsa1 ecdsa2 : PubKey)
    (contract : MicrotransferContract Hex)
    (entry : String × CollateralInfo) : Prop where
  signed : signaturesValid ecdsa entry.1 entry.2
  chunk : entry.2.chunkSize = contract.agreedChunk
  script : collateralScript lib ecdsa ecdsa1 ecdsa2 entry.1 entry.2 =
    some (contract.bondScript lib)

/-- The collateral infos of a setup: each is one for a contract, and each
contract has one of its counterparty, who can have several contracts. -/
structure CorrectInfos
    (lib : BitcoinLib Hex)
    (ecdsa : Ecdsa)
    (ecdsa1 ecdsa2 : PubKey)
    (contracts : List (MicrotransferContract Hex))
    (infos : Dict String CollateralInfo) : Prop where
  keys_distinct : infos.keys.Nodup
  of_contract : ∀ entry ∈ infos.entries, ∃ contract ∈ contracts,
    CollateralOf lib ecdsa ecdsa1 ecdsa2 contract entry
  covered : ∀ contract ∈ contracts, ∃ entry ∈ infos.entries,
    collateralScript lib ecdsa ecdsa1 ecdsa2 entry.1 entry.2 =
      some (contract.bondScript lib)

/-- The contracts of the counterparty who submitted an info. -/
def contractsOf
    (lib : BitcoinLib Hex)
    (ecdsa : Ecdsa)
    (ecdsa1 ecdsa2 : PubKey)
    (contracts : List (MicrotransferContract Hex))
    (entry : String × CollateralInfo) : List (MicrotransferContract Hex) :=
  contracts.filter fun contract =>
    collateralScript lib ecdsa ecdsa1 ecdsa2 entry.1 entry.2 =
      some (contract.bondScript lib)

/-- The chunk of each info, for every contract with the one who submitted
it. -/
def infoFunds
    (lib : BitcoinLib Hex)
    (ecdsa : Ecdsa)
    (ecdsa1 ecdsa2 : PubKey)
    (contracts : List (MicrotransferContract Hex))
    (infos : Dict String CollateralInfo) : Nat :=
  (infos.entries.map fun entry => entry.2.chunkSize.val *
    (contractsOf lib ecdsa ecdsa1 ecdsa2 contracts entry).length).sum

/-- The outputs of contracts have the contracts' scripts. -/
theorem scripts_of_contractOutputs
    {env : MicrotransferEnv Hex}
    {factory : MicrotransferFactory Hex}
    {contracts : List (MicrotransferContract Hex)}
    {outputs : List CTxOut}
    (paired : List.Forall₂ (factory.ContractOutput env) contracts outputs) :
    outputs.map CTxOut.scriptPubKey =
      contracts.map (MicrotransferContract.bondScript env.lib) := by
  induction paired with
  | nil => rfl
  | cons isOutput _ inductionHypothesis =>
      obtain ⟨amount, _, rfl⟩ := isOutput
      rw [List.map_cons, List.map_cons, inductionHypothesis]
      rfl

/-- The outputs with some script are those of the contracts with it. -/
theorem length_filter_script
    {env : MicrotransferEnv Hex}
    {factory : MicrotransferFactory Hex}
    {contracts : List (MicrotransferContract Hex)}
    {outputs : List CTxOut}
    (paired : List.Forall₂ (factory.ContractOutput env) contracts outputs)
    (script : Option Script) :
    (outputs.filter fun vout => script = some vout.scriptPubKey).length =
      (contracts.filter fun contract =>
        script = some (contract.bondScript env.lib)).length := by
  have scripts := scripts_of_contractOutputs paired
  have counts := congrArg
    (List.countP fun other : Script => decide (script = some other)) scripts
  rw [List.countP_map, List.countP_map] at counts
  rw [← List.countP_eq_length_filter, ← List.countP_eq_length_filter]
  exact counts

namespace CorrectInfos

variable {env : MicrotransferEnv Hex} {ecdsa : Ecdsa}
variable {ecdsa1 ecdsa2 : PubKey} {factory : MicrotransferFactory Hex}
variable {outputs : List CTxOut} {infos : Dict String CollateralInfo}

/-- The outputs counted for an info are those of its counterparty's
contracts. -/
theorem counted_length
    (correct : CorrectInfos env.lib ecdsa ecdsa1 ecdsa2
      factory.contracts.values infos)
    (paired : List.Forall₂ (factory.ContractOutput env)
      factory.contracts.values outputs)
    {entry : String × CollateralInfo}
    (submitted : entry ∈ infos.entries) :
    (counted env.lib ecdsa ecdsa1 ecdsa2 outputs entry).length =
        (contractsOf env.lib ecdsa ecdsa1 ecdsa2 factory.contracts.values
          entry).length ∧
      counted env.lib ecdsa ecdsa1 ecdsa2 outputs entry ≠ [] := by
  obtain ⟨contract, stored, isInfo⟩ := correct.of_contract entry submitted
  have length_eq : (counted env.lib ecdsa ecdsa1 ecdsa2 outputs entry).length =
      (contractsOf env.lib ecdsa ecdsa1 ecdsa2 factory.contracts.values
        entry).length := by
    rw [counted, if_pos isInfo.signed, outputsOf]
    exact length_filter_script paired _
  have isOne : contract ∈ contractsOf env.lib ecdsa ecdsa1 ecdsa2
      factory.contracts.values entry :=
    List.mem_filter.mpr ⟨stored, decide_eq_true isInfo.script⟩
  refine ⟨length_eq, ?_⟩
  rw [← List.length_pos_iff, length_eq]
  exact List.length_pos_of_mem isOne

/-- What is counted for the infos are their chunks, for every contract. -/
theorem infoFunds_eq
    (correct : CorrectInfos env.lib ecdsa ecdsa1 ecdsa2
      factory.contracts.values infos)
    (paired : List.Forall₂ (factory.ContractOutput env)
      factory.contracts.values outputs) :
    (infos.entries.map fun entry => entry.2.chunkSize.val *
      (counted env.lib ecdsa ecdsa1 ecdsa2 outputs entry).length).sum =
        infoFunds env.lib ecdsa ecdsa1 ecdsa2 factory.contracts.values
          infos := by
  rw [infoFunds]
  congr 1
  apply List.map_congr_left
  intro entry submitted
  rw [(correct.counted_length paired submitted).1]

end CorrectInfos

/-- `validate_setup_tx` accepts the fee of a built setup with the correct infos
exactly when their chunks make it agree. -/
theorem feeIsValid_iff_agrees
    {env : MicrotransferEnv Hex}
    {ecdsa : Ecdsa}
    {ecdsa1 ecdsa2 : PubKey}
    {factory : MicrotransferFactory Hex}
    {details : SetupDetails Hex}
    {infos : Dict String CollateralInfo}
    (shows : details.Shows env env.prec factory)
    (correct : CorrectInfos env.lib ecdsa ecdsa1 ecdsa2
      factory.contracts.values infos) :
    feeIsValid env ecdsa ecdsa1 ecdsa2 details.contractVouts details.feeTotal
        details.contractTotal details.changeTotal infos factory.tradeFee =
          .ok true ↔
      factory.FeeAgrees env.prec (factory.clientCoins env.prec)
        (infoFunds env.lib ecdsa ecdsa1 ecdsa2 factory.contracts.values
          infos) := by
  have all_counted : ∀ entry ∈ infos.entries,
      counted env.lib ecdsa ecdsa1 ecdsa2 details.contractVouts entry ≠ [] :=
    fun _ submitted => (correct.counted_length shows.contracts submitted).2
  have total_nonneg : 0 ≤ DecimalRounding.roundDigits env.prec
      (details.feeTotal + details.contractTotal) :=
    DecimalRounding.roundDigits_nonneg env.prec
      (add_nonneg shows.fee_nonneg shows.total_nonneg)
  have total_units : C.unitsOf (DecimalRounding.roundDigits env.prec
      (details.feeTotal + details.contractTotal)) =
        factory.clientCoins env.prec := by
    rw [shows.fee, shows.total]
    rfl
  rw [shows.change, feeIsValid_iff details.feeTotal details.contractTotal
    factory.tradeFee correct.keys_distinct all_counted,
    correct.infoFunds_eq shows.contracts]
  simp only [C.ofDecimal_eq_ok_iff, total_nonneg, total_units,
    shows.fee_nonneg, shows.fee_units, true_and]
  constructor
  · rintro ⟨totalCoins, fee, coins_val, fee_val, exactly⟩
    rw [coins_val, fee_val] at exactly
    exact ⟨(C.exists_val_iff _).mp ⟨fee, fee_val⟩,
      (C.exists_val_iff _).mp ⟨totalCoins, coins_val⟩, exactly⟩
  · rintro ⟨fee_in_range, coins_in_range, exactly⟩
    obtain ⟨fee, fee_val⟩ := (C.exists_val_iff _).mpr fee_in_range
    obtain ⟨coins, coins_val⟩ := (C.exists_val_iff _).mpr coins_in_range
    refine ⟨coins, fee, coins_val, fee_val, ?_⟩
    rw [fee_val, coins_val, exactly]

/-! ## The built setup -/

section Validation

variable {config : Config} {txHex : Hex} {ecdsa1 ecdsa2 : PubKey}
variable {sig1 sig2 sig3 : Option Sig}

/-- What a valid setup with the outputs of a built transaction shows. -/
theorem ValidSetup.shows
    (env : MicrotransferEnv Hex)
    {factory : MicrotransferFactory Hex}
    {builtTx : CTransaction}
    (readPrec : Nat)
    (valid : ValidSetup env.lib config ecdsa1 ecdsa2 sig1 sig2 sig3 txHex)
    (built : factory.setupTransaction env config = .ok builtTx)
    (outputs : builtTx.vout = valid.feeVout :: valid.outputs) :
    (valid.details readPrec).Shows env readPrec factory := by
  obtain ⟨feeVout, contractVouts, vout, fee, paired⟩ :=
    MicrotransferFactory.setupTransaction_shown built
  rw [outputs, List.cons.injEq] at vout
  obtain ⟨rfl, rfl⟩ := vout
  have no_change :=
    MicrotransferFactory.splitChange_contractOutputs paired ecdsa1
  exact {
    fee := fee
    change := by
      simp only [details, no_change]
    contracts := by
      simp only [details, no_change]
      exact paired
    total := by
      simp only [details, no_change]
      exact MicrotransferFactory.totalMoney_contractOutputs readPrec paired }

end Validation

/-! ## Digits that readers keep -/

theorem div_decBase_eq {sum : Nat} (whole : satoshiUnit ∣ sum) :
    (sum : ℚ) / decBase = ((sum / satoshiUnit : ℕ) : ℚ) / COIN := by
  obtain ⟨satoshi, rfl⟩ := whole
  rw [Nat.mul_div_cancel_left _ satoshiUnit_pos]
  simp only [decBase, COIN, satoshiUnit]
  push_cast
  ring

section KeptBy

variable {prec sum : Nat}

/-- An output shows all of a sum that is kept. -/
theorem shownSatoshi_of_keptBy (kept : KeptBy prec sum) :
    shownSatoshi prec sum = sum / satoshiUnit := by
  rw [shownSatoshi,
    (DecimalRounding.floor_roundDigits_natCast_eq_iff prec _).mpr kept.2,
    Int.toNat_natCast]

theorem shownCoins_of_keptBy (kept : KeptBy prec sum) :
    shownCoins prec sum = (sum : ℚ) / decBase := by
  rw [shownCoins, shownSatoshi_of_keptBy kept, div_decBase_eq kept.1]

/-- A total that is kept is its own rounding. -/
theorem roundDigits_of_keptBy (kept : KeptBy prec sum) :
    DecimalRounding.roundDigits prec ((sum : ℚ) / decBase) =
      (sum : ℚ) / decBase := by
  have coin_eq : (COIN : ℚ) = 10 ^ 8 := by
    simp only [COIN]
    norm_num
  rw [div_decBase_eq kept.1, coin_eq]
  rcases Nat.eq_zero_or_pos (sum / satoshiUnit) with none | positive
  · rw [none]
    exact DecimalRounding.roundDigits_of_few_digits (Nat.pow_pos (by decide))
  · have positiveCast : (0 : ℚ) < (sum / satoshiUnit : ℕ) := by
      exact_mod_cast positive
    rw [DecimalRounding.roundDigits_div_pow prec positiveCast,
      DecimalRounding.roundDigits_natCast_of_dvd kept.2]

end KeptBy

theorem unitsOf_whole {sum : Nat} (whole : satoshiUnit ∣ sum) :
    C.unitsOf ((sum : ℚ) / decBase) = sum := by
  rw [div_decBase_eq whole, C.unitsOf_satoshi, Nat.div_mul_cancel whole]

/-- Outputs are added up exactly when no total on the way loses digits. -/
theorem foldl_of_keptBy
    {prec readPrec : Nat}
    {sums : List Nat}
    {start : Nat}
    (kept : ∀ sum ∈ sums, KeptBy prec sum)
    (totals : ∀ total ∈ sums.scanl (· + ·) start, KeptBy readPrec total) :
    sums.foldl
        (fun total sum => DecimalRounding.roundDigits readPrec
          (total + shownCoins prec sum)) ((start : ℚ) / decBase) =
      ((start + sums.sum : ℕ) : ℚ) / decBase := by
  induction sums generalizing start with
  | nil => rfl
  | cons sum sums inductionHypothesis =>
      rw [List.forall_mem_cons] at kept
      rw [List.scanl_cons, List.forall_mem_cons] at totals
      have next : KeptBy readPrec (start + sum) := by
        apply totals.2
        cases sums <;> simp
      have rounded := roundDigits_of_keptBy next
      rw [Nat.cast_add, add_div] at rounded
      rw [List.foldl_cons, shownCoins_of_keptBy kept.1, rounded, ← add_div,
        ← Nat.cast_add, inductionHypothesis kept.2 totals.2, List.sum_cons,
        Nat.add_assoc]

namespace MicrotransferFactory

/-- No output loses digits of what goes into it, and no total that the readers
of the outputs add up loses digits either. -/
structure KeepsDigits
    (prec readPrec : Nat)
    (factory : MicrotransferFactory Hex)
    (txFee : C) : Prop where
  outputs : ∀ sum ∈ factory.outputSums txFee, KeptBy prec sum
  totals : ∀ total ∈ (factory.contractSums txFee).scanl (· + ·) 0,
    KeptBy prec total ∧ KeptBy readPrec total
  all : KeptBy prec (factory.outputSums txFee).sum

namespace KeepsDigits

variable {prec readPrec : Nat} {factory : MicrotransferFactory Hex}

theorem shownFee_eq
    (keeps : factory.KeepsDigits prec readPrec factory.txFeeAmount) :
    factory.shownFee prec = factory.feeSum factory.txFeeAmount := by
  have kept := keeps.outputs _ (List.mem_cons_self)
  rw [shownFee, shownSatoshi_of_keptBy kept, Nat.div_mul_cancel kept.1]

theorem shownContracts_eq
    {some_prec : Nat}
    (outputs : ∀ sum ∈ factory.contractSums factory.txFeeAmount,
      KeptBy prec sum)
    (totals : ∀ total ∈
      (factory.contractSums factory.txFeeAmount).scanl (· + ·) 0,
        KeptBy some_prec total) :
    factory.shownContracts prec some_prec =
      ((factory.contractSums factory.txFeeAmount).sum : ℚ) / decBase := by
  have folded := foldl_of_keptBy outputs totals
  rw [Nat.cast_zero, zero_div, Nat.zero_add, contractSums, List.foldl_map]
    at folded
  exact folded

/-- The server adds up what goes into the outputs. -/
theorem serverCoins_eq
    (keeps : factory.KeepsDigits prec readPrec factory.txFeeAmount) :
    factory.serverCoins prec readPrec =
      (factory.outputSums factory.txFeeAmount).sum := by
  obtain ⟨_, outputs⟩ := List.forall_mem_cons.mp keeps.outputs
  have contracts := shownContracts_eq outputs
    (fun total isTotal => (keeps.totals total isTotal).2)
  have whole : satoshiUnit ∣ (factory.contractSums factory.txFeeAmount).sum :=
    List.dvd_sum fun sum isSum => (outputs sum isSum).1
  rw [serverCoins, keeps.shownFee_eq, contracts, unitsOf_whole whole,
    outputSums, List.sum_cons]

/-- So does `validate_setup_tx`. -/
theorem clientCoins_eq
    (keeps : factory.KeepsDigits prec readPrec factory.txFeeAmount) :
    factory.clientCoins prec =
      (factory.outputSums factory.txFeeAmount).sum := by
  obtain ⟨fee, outputs⟩ := List.forall_mem_cons.mp keeps.outputs
  have contracts := shownContracts_eq outputs
    (fun total isTotal => (keeps.totals total isTotal).1)
  have all := keeps.all
  rw [outputSums, List.sum_cons] at all ⊢
  rw [clientCoins, contracts, shownCoins_of_keptBy fee, ← add_div,
    ← Nat.cast_add, roundDigits_of_keptBy all, unitsOf_whole all.1]

end KeepsDigits

/-! ## The rate -/

/-- The matched coins and the trade's fees are all that is sent, or more, and
the rate on them gives these fees up to a part of the last decimal. -/
structure RateFits
    (factory : MicrotransferFactory Hex)
    (txFee : C) : Prop where
  complete : factory.greenAddress.trade.toSend.val ≤
    factory.matchedFunds txFee + factory.trade.fees.val
  fees_le : factory.trade.fees.val * decBase ≤
    (factory.matchedFunds txFee + factory.trade.fees.val) *
      factory.tradeFee.val
  lt_fees : (factory.matchedFunds txFee + factory.trade.fees.val) *
      factory.tradeFee.val <
    (factory.trade.fees.val + 1) * decBase

/-- The fees due are the rate on everything that is taken, when the fees of the
whole trade are. -/
theorem feesDue_eq_rate_of_le
    {matched fees toSend tradeFee : Nat}
    (complete : toSend ≤ matched + fees)
    (fees_le : fees * decBase ≤ (matched + fees) * tradeFee)
    (lt_fees : (matched + fees) * tradeFee < (fees + 1) * decBase) :
    feesDue matched fees toSend tradeFee =
      (matched + feesDue matched fees toSend tradeFee) * tradeFee /
        decBase := by
  rw [feesDue, if_neg (Nat.not_lt.mpr complete)]
  exact (Nat.div_eq_of_lt_le fees_le lt_fees).symm

/-- The rate fits when the trade's fees are the rate on what is sent and the
contracts take all the rest. -/
theorem rateFits_of_exact
    {factory : MicrotransferFactory Hex}
    {txFee : C}
    (charged : factory.trade.fees.val =
      factory.greenAddress.trade.toSend.val * factory.tradeFee.val / decBase)
    (exactly : factory.matchedFunds txFee + factory.trade.fees.val =
      factory.greenAddress.trade.toSend.val) :
    factory.RateFits txFee := by
  refine ⟨exactly.ge, ?_, ?_⟩
  · rw [exactly, charged]
    exact Nat.div_mul_le_self _ _
  · rw [exactly, charged]
    exact Nat.lt_mul_of_div_lt (Nat.lt_succ_self _) decBase_pos

/-- Reduced fees that complete a match are more than the rate on everything. -/
theorem feesDue_eq_rate_iff
    {matched fees toSend tradeFee : Nat}
    (taken : toSend ≤ matched + feesDue matched fees toSend tradeFee)
    (some_match : 0 < matched) :
    feesDue matched fees toSend tradeFee =
        (matched + feesDue matched fees toSend tradeFee) * tradeFee /
          decBase ↔
      toSend ≤ matched + fees ∧
        fees * decBase ≤ (matched + fees) * tradeFee ∧
        (matched + fees) * tradeFee < (fees + 1) * decBase := by
  constructor
  · intro isRate
    rcases Nat.lt_or_ge (matched + fees) toSend with less | complete
    · exfalso
      rw [feesDue, if_pos less] at taken isRate
      generalize rest_eq : toSend - (matched + fees) = rest at taken isRate
      have rest_pos : 0 < rest := by omega
      have grows : rest ≤ rest * tradeFee / decBase := by omega
      rw [Nat.le_div_iff_mul_le decBase_pos] at grows
      have high : decBase ≤ tradeFee := Nat.le_of_mul_le_mul_left grows rest_pos
      generalize rest * tradeFee / decBase = due at isRate
      have more : matched + due ≤ (matched + due) * tradeFee / decBase := by
        rw [Nat.le_div_iff_mul_le decBase_pos]
        exact Nat.mul_le_mul_left _ high
      omega
    · rw [feesDue, if_neg (Nat.not_lt.mpr complete)] at isRate
      rw [eq_comm, Nat.div_eq_iff decBase_pos] at isRate
      refine ⟨complete, isRate.1, ?_⟩
      have upper := isRate.2
      have base_pos := decBase_pos
      have split : (fees + 1) * decBase = fees * decBase + decBase := by ring
      omega
  · rintro ⟨complete, fees_le, lt_fees⟩
    exact feesDue_eq_rate_of_le complete fees_le lt_fees

/-- A fee whose outputs keep their digits agrees when what goes into it is the
collateral and the rate on what goes into all outputs. -/
theorem feeAgrees_iff_of_keepsDigits
    {env : MicrotransferEnv Hex}
    {config : Config}
    {factory : MicrotransferFactory Hex}
    {tx : CTransaction}
    {readPrec : Nat}
    (built : factory.setupTransaction env config = .ok tx)
    (keeps : factory.KeepsDigits env.prec readPrec factory.txFeeAmount)
    (collateral : Nat) :
    factory.FeeAgrees env.prec (factory.outputSums factory.txFeeAmount).sum
        collateral ↔
      factory.feeSum factory.txFeeAmount =
        collateral + (factory.outputSums factory.txFeeAmount).sum *
          factory.tradeFee.val / decBase := by
  obtain ⟨_, total, total_val, _⟩ := setupTransaction_amounts built
  have coins_in_range := (C.exists_val_iff _).mp ⟨total, total_val⟩
  constructor
  · intro agrees
    rw [← keeps.shownFee_eq]
    exact agrees.exactly
  · intro exactly
    refine ⟨?_, coins_in_range, ?_⟩
    · rw [keeps.shownFee_eq]
      refine Nat.le_trans (Nat.div_le_div_right ?_) coins_in_range
      rw [outputSums, List.sum_cons]
      exact Nat.le_add_right _ _
    · rw [keeps.shownFee_eq]
      exact exactly

end MicrotransferFactory

/-! ## Acceptance -/

/-- The environment of a client, whose decimal context is its own. -/
def ServerEnv.client (env : ServerEnv Hex) (prec : Nat) :
    MicrotransferEnv Hex :=
  { env.toMicrotransferEnv with prec }

namespace MicrotransferFactory

/-- What `build_setup` built when it returned. -/
theorem setup_of_buildSetup
    {env : MicrotransferEnv Hex}
    {config : Config}
    {coins : String → Option CoinConfig}
    {rpc : CoinRpc}
    {factory : MicrotransferFactory Hex}
    {coin : CoinConfig}
    {setup : HalfSignedTx Hex}
    (configured : coins factory.trade.sendCurrency = some coin)
    (built : (factory.buildSetup env config coins rpc).result = .ok setup) :
    ∃ tx, (factory.loaded coin rpc).setupTransaction env config = .ok tx ∧
      env.lib.print tx = .ok setup.txHex := by
  have known : MicrotransferContract.coinConfig coins
      factory.trade.sendCurrency = .ok coin := by
    rw [MicrotransferContract.coinConfig, configured]
    rfl
  rw [buildSetup, known, Outcome.attempt_ok,
    Outcome.attempt_result_eq_ok_iff] at built
  obtain ⟨balance, _, built⟩ := built
  dsimp only at built
  split at built
  · cases built
  rw [Outcome.attempt_result_eq_ok_iff] at built
  obtain ⟨_, _, built⟩ := built
  rw [Outcome.attempt_result_eq_ok_iff] at built
  obtain ⟨prepared, isPrepared, returned⟩ := built
  cases returned
  simp only [Except.bind_eq_ok_iff] at isPrepared
  obtain ⟨tx, transaction, txHex, printed, _, _, _, _, returned⟩ := isPrepared
  cases returned
  exact ⟨tx, transaction, printed⟩

/-- The server accepts the fee of a built setup, and so do the client that
built it and its counterparties when they read the signed transaction. -/
structure FeeAccepted
    (env : ServerEnv Hex)
    (prec : Nat)
    (factory : MicrotransferFactory Hex)
    (setup : HalfSignedTx Hex)
    (sig3 : Sig)
    (found : Instance Hex)
    (side : Actor)
    (infos : Dict String CollateralInfo) : Prop where
  matched : ContractServer.feeIsCorrect env found side = .ok true
  ready : ∃ details, validateSetupTx (env.client prec) env.ecdsa env.config
    setup.txHex factory.greenAddress.ecdsa1 factory.greenAddress.ecdsa2
    (some setup.firstSig) (some setup.secondSig) (some sig3) (some infos)
    env.config.tradeFee = .ok (.ok details)
  returned : ∃ signed, found.details.signed = some signed ∧
    ∃ details, validateSetupTx (env.client prec) env.ecdsa env.config
      signed.txHex factory.greenAddress.ecdsa1 factory.greenAddress.ecdsa2
      none none none (some infos) env.config.tradeFee = .ok (.ok details)

section Accepted

variable {env : ServerEnv Hex} {prec : Nat}
variable {coins : String → Option CoinConfig} {rpc : CoinRpc}
variable {factory : MicrotransferFactory Hex} {coin : CoinConfig}
variable {setup : HalfSignedTx Hex} {sig3 : Sig} {found : Instance Hex}
variable {side : Actor} {infos : Dict String CollateralInfo}

/-- The fee is accepted when it agrees with the coins the server adds up and
with those that the clients add up. -/
theorem feeAccepted_iff_agrees
    {tx : CTransaction}
    (sameFee : factory.tradeFee = env.config.tradeFee)
    (transaction : (factory.loaded coin rpc).setupTransaction (env.client prec)
      env.config = .ok tx)
    (printed : env.lib.print tx = .ok setup.txHex)
    (registered : validateSetupTx env.toMicrotransferEnv env.ecdsa env.config
      setup.txHex factory.greenAddress.ecdsa1 factory.greenAddress.ecdsa2
      (some setup.firstSig) (some setup.secondSig) (some sig3) none 0 =
        .ok (.ok found.details))
    (recorded : found.Records side factory.contracts.values)
    (correct : CorrectInfos env.lib env.ecdsa factory.greenAddress.ecdsa1
      factory.greenAddress.ecdsa2 factory.contracts.values infos) :
    FeeAccepted env prec factory setup sig3 found side infos ↔
      (factory.loaded coin rpc).FeeAgrees prec
          ((factory.loaded coin rpc).serverCoins prec env.prec)
          (agreedFunds factory.contracts.values) ∧
        (factory.loaded coin rpc).FeeAgrees prec
          ((factory.loaded coin rpc).clientCoins prec)
          (infoFunds env.lib env.ecdsa factory.greenAddress.ecdsa1
            factory.greenAddress.ecdsa2 factory.contracts.values infos) := by
  obtain ⟨valid, isDetails⟩ := exists_validSetup registered
  have unsigned := env.lib.deserialize_of_serialize
    ((env.lib.print_eq_ok_iff _ _).mp printed)
  have sameTx : valid.tx = tx := by
    have parsed := (env.lib.parse_eq_ok_iff _ _).mp valid.parsed
    rw [unsigned, Option.some.injEq] at parsed
    exact parsed.symm
  have outputs : tx.vout = valid.feeVout :: valid.outputs := by
    rw [← sameTx]
    exact valid.has_outputs
  obtain ⟨signed, isSigned, again, sameFee', sameOutputs⟩ := valid.again
  have again_outputs : tx.vout = again.feeVout :: again.outputs := by
    rw [sameFee', sameOutputs]
    exact outputs
  have server_shows : found.details.Shows (env.client prec) env.prec
      (factory.loaded coin rpc) := by
    rw [isDetails]
    exact valid.shows (env.client prec) env.prec transaction outputs
  have recorded_total := @recordedTotal_of_records _ found.chunks side _ 1 (by
    intro index contract stored
    rw [Nat.add_comm]
    exact recorded index contract stored)
  have server_iff :=
    ContractServer.feeIsCorrect_iff_agrees server_shows sameFee side
  have client_iff := feeIsValid_iff_agrees
    (valid.shows (env.client prec) prec transaction outputs) correct
  have again_iff := feeIsValid_iff_agrees
    (again.shows (env.client prec) prec transaction again_outputs) correct
  have rate : (factory.loaded coin rpc).tradeFee = env.config.tradeFee :=
    sameFee
  rw [rate] at client_iff again_iff
  have client_accepts := (valid.accepted_iff (env.client prec) env.ecdsa infos
    env.config.tradeFee).trans client_iff
  have again_accepts := (again.accepted_iff (env.client prec) env.ecdsa infos
    env.config.tradeFee).trans again_iff
  have loaded_contracts : (factory.loaded coin rpc).contracts.values =
      factory.contracts.values := rfl
  rw [loaded_contracts, recorded_total] at server_iff
  have same_signed : found.details.signed = some signed := by
    rw [isDetails]
    exact isSigned
  constructor
  · rintro ⟨server_accepts, client_accepted, _⟩
    exact ⟨server_iff.mp server_accepts, client_accepts.mp client_accepted⟩
  · rintro ⟨server_agrees, client_agrees⟩
    exact ⟨server_iff.mpr server_agrees, client_accepts.mpr client_agrees,
      signed, same_signed, again_accepts.mpr client_agrees⟩

end Accepted

/-- The contracts take the chunks for their own that their texts give our side,
and the infos of the counterparties name these chunks. -/
structure SameChunks
    (lib : BitcoinLib Hex)
    (ecdsa : Ecdsa)
    (ecdsa1 ecdsa2 : PubKey)
    (contracts : List (MicrotransferContract Hex))
    (infos : Dict String CollateralInfo) : Prop where
  agreed : chunkFunds contracts = agreedFunds contracts
  submitted : chunkFunds contracts =
    infoFunds lib ecdsa ecdsa1 ecdsa2 contracts infos

/-- The fee of a setup on which everybody agrees. -/
structure FeeFits
    (env : ServerEnv Hex)
    (prec : Nat)
    (factory : MicrotransferFactory Hex)
    (txFee : C)
    (infos : Dict String CollateralInfo) : Prop where
  digits : factory.KeepsDigits prec env.prec txFee
  chunks : SameChunks env.lib env.ecdsa factory.greenAddress.ecdsa1
    factory.greenAddress.ecdsa2 factory.contracts.values infos
  rate : factory.RateFits txFee

/-- Server and clients accept the fee of a setup that keeps its digits, counts
the agreed chunks and charges the rate on everything it takes.  Where they
accept another one that keeps its digits, it fails both the chunks and the
rate. -/
theorem buildSetup_fee_accepted
    (env : ServerEnv Hex)
    (prec : Nat)
    (coins : String → Option CoinConfig)
    (rpc : CoinRpc)
    (factory : MicrotransferFactory Hex)
    (coin : CoinConfig)
    (setup : HalfSignedTx Hex)
    (sig3 : Sig)
    (found : Instance Hex)
    (side : Actor)
    (infos : Dict String CollateralInfo)
    (configured : coins factory.trade.sendCurrency = some coin)
    (sameFee : factory.tradeFee = env.config.tradeFee)
    (built : (factory.buildSetup (env.client prec) env.config coins
      rpc).result = .ok setup)
    (registered : validateSetupTx env.toMicrotransferEnv env.ecdsa env.config
      setup.txHex factory.greenAddress.ecdsa1 factory.greenAddress.ecdsa2
      (some setup.firstSig) (some setup.secondSig) (some sig3) none 0 =
        .ok (.ok found.details))
    (recorded : found.Records side factory.contracts.values)
    (correct : CorrectInfos env.lib env.ecdsa factory.greenAddress.ecdsa1
      factory.greenAddress.ecdsa2 factory.contracts.values infos) :
    (factory.FeeFits env prec coin.txFee infos →
      FeeAccepted env prec factory setup sig3 found side infos) ∧
    (FeeAccepted env prec factory setup sig3 found side infos →
      factory.KeepsDigits prec env.prec coin.txFee →
      0 < factory.matchedFunds coin.txFee →
      (SameChunks env.lib env.ecdsa factory.greenAddress.ecdsa1
          factory.greenAddress.ecdsa2 factory.contracts.values infos ↔
        factory.RateFits coin.txFee)) := by
  obtain ⟨tx, transaction, printed⟩ := setup_of_buildSetup configured built
  have accepted_iff := @feeAccepted_iff_agrees _ env prec rpc factory coin setup
    sig3 found side infos tx sameFee transaction printed registered recorded
    correct
  have agrees_iff : factory.KeepsDigits prec env.prec coin.txFee →
      (FeeAccepted env prec factory setup sig3 found side infos ↔
        ∀ collateral ∈ [agreedFunds factory.contracts.values,
            infoFunds env.lib env.ecdsa factory.greenAddress.ecdsa1
              factory.greenAddress.ecdsa2 factory.contracts.values infos],
          factory.feeSum coin.txFee =
            collateral + (factory.outputSums coin.txFee).sum *
              factory.tradeFee.val / decBase) := by
    intro digits
    have keeps : (factory.loaded coin rpc).KeepsDigits prec env.prec
        (factory.loaded coin rpc).txFeeAmount :=
      ⟨digits.outputs, digits.totals, digits.all⟩
    have each : ∀ collateral, _ ↔ _ :=
      @feeAgrees_iff_of_keepsDigits _ (env.client prec) _ _ _ _ transaction keeps
    dsimp only [ServerEnv.client] at each
    rw [accepted_iff, keeps.serverCoins_eq, keeps.clientCoins_eq, each, each,
      List.forall_mem_cons, List.forall_mem_singleton]
    rfl
  rw [outputSums_sum, feeSum] at agrees_iff
  constructor
  · intro fits
    have isRate := feesDue_eq_rate_of_le fits.rate.complete fits.rate.fees_le
      fits.rate.lt_fees
    rw [agrees_iff fits.digits, ← isRate, ← fits.chunks.agreed,
      ← fits.chunks.submitted]
    simp
  · intro accepted digits some_match
    obtain ⟨_, total, total_val, taken⟩ := setupTransaction_amounts transaction
    have outputs_sum : total.val = (factory.outputSums coin.txFee).sum :=
      total_val
    have covered : factory.greenAddress.trade.toSend.val ≤ total.val := taken
    rw [outputs_sum, outputSums_sum] at covered
    have rate_iff := feesDue_eq_rate_iff covered some_match
    rw [agrees_iff digits, List.forall_mem_cons, List.forall_mem_singleton]
      at accepted
    obtain ⟨server, client⟩ := accepted
    constructor
    · intro chunks
      rw [← chunks.agreed, Nat.add_left_cancel_iff, rate_iff] at server
      exact ⟨server.1, server.2.1, server.2.2⟩
    · intro rate
      have isRate := rate_iff.mpr ⟨rate.complete, rate.fees_le, rate.lt_fees⟩
      rw [← isRate] at server client
      exact ⟨Nat.add_right_cancel server, Nat.add_right_cancel client⟩

end MicrotransferFactory

/-! ## Sample setups

A deposit whose fee is a round number of coins, and one of 0.12345678 coins at
a fee of a thousandth. -/

namespace Sample

/-- The server of the sample deposits; its decimal context is Python's. -/
def feeServer (tradeFee : C) : ServerEnv CTransaction :=
  { serverEnv with
    toMicrotransferEnv := { packingEnv with prec := 28 }
    config := depositConfig tradeFee }

/-- The buyer's info for its contract with the seller. -/
def buyerInfo (chunkSize : C) : Dict String CollateralInfo :=
  ⟨[("buyer1", {
    msg := ""
    chunkSize := chunkSize
    sig1 := namedEcdsa.sign "buyer1" (chunkSize.str ++ " " ++ "arbiter")
    sig2 := namedEcdsa.sign "buyer2" (chunkSize.str ++ " " ++ "arbiter")
    pub1 := "buyer1"
    pub2 := "buyer2"
    pubArbiter := "arbiter" })]⟩

/-- The seller's instance with the chunk sizes of its only contract. -/
def sellerInstance
    (details : SetupDetails CTransaction)
    (chunks : ChunkSizes) : Instance CTransaction where
  owner := ("seller1", "seller2")
  details := details
  sig3 := "sig:encrypted"
  collateralInfo := ∅
  chunks := ⟨[(1, chunks)]⟩
  locked := []
  links := ∅
  ident := "10.0.0.2:1"

/-- The charged factory with one contract for everything it can send. -/
def filledFactory : MicrotransferFactory CTransaction :=
  chargedFactory.callRun packingEnv freeCoins [addSlot "first"]

def thousandth : C := C.ofVal 10000000000000 (by decide)

/-- A green address for 0.12345678 coins. -/
def smallAddress : GreenAddress CTransaction :=
  { depositAddress with
    trade :=
      { trade .sell with
        amount := C.ofVal 1234567800000000 C.deposit_bounded
        total := C.ofVal 2469135600000000 (by decide)
        remaining := C.ofVal 1234567800000000 C.deposit_bounded } }

/-- Its factory at a fee of a thousandth, before any contract. -/
def smallFactory : MicrotransferFactory CTransaction :=
  { slotFactory with
    greenAddress := smallAddress
    trade :=
      { smallAddress.trade with
        amount := C.ofVal 1233333232200000 (by decide)
        total := C.ofVal 2466666464400000 (by decide)
        remaining := C.ofVal 1233333232200000 (by decide)
        fees := C.ofVal 1234567800000 (by decide) }
    tradeFee := thousandth }

/-- It is what the constructor makes. -/
example :
    MicrotransferFactory.new tradeContext (depositConfig thousandth)
      smallAddress = .ok smallFactory := by
  decide +kernel

def smallChunks : ChunkSizes where
  buyer := C.ofVal 200000000000000 (by decide)
  seller := C.ofVal 100000000000000 C.onePercent_bounded

/-- The small factory with one contract for everything it can send. -/
def filledSmall : MicrotransferFactory CTransaction :=
  smallFactory.callRun packingEnv freeCoins
    [.add "first"
      { slotArgs with
        trade := { smallFactory.trade with fees := 0 }
        chunkSizes := smallChunks }
      { getnewaddress := .ok "sellerChange"
        getbalance := .error .jsonRpcException
        loadInputs := Outcome.raise [] .jsonRpcException } (.ok ())]

/-- The coin daemon of the small deposit. -/
def smallRpc : CoinRpc where
  getnewaddress := .ok "sellerChange"
  getbalance := .ok (C.ofVal 1234567800000000 C.deposit_bounded)
  loadInputs := Outcome.pure
    [{ depositInput with amount := 12345678 / 100000000 }] ()

/-- What `build_setup` returns for a filled factory of one of the samples. -/
def builtSetup
    (factory : MicrotransferFactory CTransaction)
    (rpc : CoinRpc) : Option (HalfSignedTx CTransaction) :=
  (factory.buildSetup ((feeServer factory.tradeFee).client 8)
    (depositConfig factory.tradeFee) freeCoins rpc).result.toOption

/-- What the server registers of it. -/
def registeredSetup
    (factory : MicrotransferFactory CTransaction)
    (setup : HalfSignedTx CTransaction) :
    Option (SetupDetails CTransaction) :=
  ((validateSetupTx (feeServer factory.tradeFee).toMicrotransferEnv namedEcdsa
    (depositConfig factory.tradeFee) setup.txHex "seller1" "seller2"
    (some setup.firstSig) (some setup.secondSig) (some "sig:encrypted") none
    0).toOption.bind Except.toOption)

theorem built_of_builtSetup
    {factory : MicrotransferFactory CTransaction}
    {rpc : CoinRpc}
    {setup : HalfSignedTx CTransaction}
    (isBuilt : builtSetup factory rpc = some setup) :
    (factory.buildSetup ((feeServer factory.tradeFee).client 8)
      (depositConfig factory.tradeFee) freeCoins rpc).result = .ok setup :=
  Except.ok_of_toOption isBuilt

theorem registered_of_registeredSetup
    {factory : MicrotransferFactory CTransaction}
    {setup : HalfSignedTx CTransaction}
    {details : SetupDetails CTransaction}
    (isRegistered : registeredSetup factory setup = some details) :
    validateSetupTx (feeServer factory.tradeFee).toMicrotransferEnv namedEcdsa
      (depositConfig factory.tradeFee) setup.txHex "seller1" "seller2"
      (some setup.firstSig) (some setup.secondSig) (some "sig:encrypted") none
      0 = .ok (.ok details) := by
  obtain ⟨checked, isChecked, isDetails⟩ :=
    Option.bind_eq_some_iff.mp isRegistered
  rw [Except.ok_of_toOption isChecked, Except.ok_of_toOption isDetails]

/-- The seller's instance records the chunks of its only contract. -/
theorem sellerInstance_records
    {contracts : List (MicrotransferContract CTransaction)}
    {chunks : ChunkSizes}
    (details : SetupDetails CTransaction)
    (agreed : contracts.map MicrotransferContract.agreedChunk =
      [chunks.seller]) :
    (sellerInstance details chunks).Records .seller contracts := by
  obtain ⟨contract, rfl, isAgreed⟩ := List.map_eq_singleton_iff.mp agreed
  intro index other stored
  rw [List.getElem?_singleton] at stored
  split at stored
  next isFirst =>
    cases stored
    subst isFirst
    exact ⟨chunks, rfl, isAgreed.symm⟩
  · cases stored

/-- The buyer's info is the correct one of the seller's only contract. -/
theorem buyerInfo_correct
    {contracts : List (MicrotransferContract CTransaction)}
    {chunkSize : C}
    (agreed : contracts.map MicrotransferContract.agreedChunk = [chunkSize])
    (script : contracts.map (MicrotransferContract.bondScript packingLib) =
      [p2shScript packingLib (bondRedeemScript sellerKeys .us)]) :
    CorrectInfos packingLib namedEcdsa "seller1" "seller2" contracts
      (buyerInfo chunkSize) := by
  obtain ⟨contract, rfl, isAgreed⟩ := List.map_eq_singleton_iff.mp agreed
  rw [List.map_singleton, List.singleton_inj] at script
  obtain ⟨entry, entries⟩ : ∃ entry, (buyerInfo chunkSize).entries = [entry] :=
    ⟨_, rfl⟩
  have isInfo : CollateralOf packingLib namedEcdsa "seller1" "seller2" contract
      entry := by
    cases entries
    refine ⟨?_, isAgreed.symm, ?_⟩
    · simp [signaturesValid, namedEcdsa, CollateralInfo.signedText]
    · rw [script]
      rfl
  refine ⟨by simp [buyerInfo, Dict.keys], ?_, ?_⟩
  · rw [entries, List.forall_mem_singleton]
    exact ⟨contract, List.mem_singleton_self _, isInfo⟩
  · rw [List.forall_mem_singleton, entries]
    exact ⟨entry, List.mem_singleton_self _, isInfo.script⟩

end Sample

namespace MicrotransferFactory

/-- Half of eight coins are the fee, which everybody accepts. -/
theorem buildSetup_fee_accepted_sample :
    ∃ setup details,
      Sample.builtSetup Sample.filledFactory Sample.depositRpc = some setup ∧
      Sample.registeredSetup Sample.filledFactory setup = some details ∧
      FeeAccepted (Sample.feeServer Sample.filledFactory.tradeFee) 8
        Sample.filledFactory setup "sig:encrypted"
        (Sample.sellerInstance details Sample.chunkSizes) .seller
        (Sample.buyerInfo Sample.chunkSizes.seller) := by
  have agreed : Sample.filledFactory.contracts.values.map
      MicrotransferContract.agreedChunk = [Sample.chunkSizes.seller] := by
    decide +kernel
  have script : Sample.filledFactory.contracts.values.map
      (MicrotransferContract.bondScript Sample.packingLib) =
        [p2shScript Sample.packingLib
          (bondRedeemScript Sample.sellerKeys .us)] := by
    decide +kernel
  have runs : ((Sample.builtSetup Sample.filledFactory Sample.depositRpc).bind
      (Sample.registeredSetup Sample.filledFactory)).isSome := by
    decide +kernel
  have sums : Sample.filledFactory.outputSums 0 =
      [5 * decBase, 3 * decBase] := by
    decide +kernel
  have contract_sums : Sample.filledFactory.contractSums 0 =
      [3 * decBase] := by
    decide +kernel
  obtain ⟨details, runs⟩ := Option.isSome_iff_exists.mp runs
  obtain ⟨setup, built, registered⟩ := Option.bind_eq_some_iff.mp runs
  refine ⟨setup, details, built, registered, ?_⟩
  refine (buildSetup_fee_accepted
    (Sample.feeServer Sample.filledFactory.tradeFee) 8 Sample.freeCoins
    Sample.depositRpc Sample.filledFactory ⟨0, 0⟩ setup "sig:encrypted"
    (Sample.sellerInstance details Sample.chunkSizes) .seller
    (Sample.buyerInfo Sample.chunkSizes.seller) rfl rfl
    (Sample.built_of_builtSetup built)
    (Sample.registered_of_registeredSetup registered)
    (Sample.sellerInstance_records details agreed)
    (Sample.buyerInfo_correct agreed script)).1
      ⟨⟨?_, ?_, ?_⟩, ⟨?_, ?_⟩, rateFits_of_exact ?_ ?_⟩
  · rw [sums]
    decide +kernel
  · rw [contract_sums]
    decide +kernel
  · rw [sums]
    decide +kernel
  all_goals decide +kernel

/-- At a fee of a thousandth on 0.12345678 coins the honest setup is rejected
by the server and by its own client. -/
theorem small_fee_rejected :
    MicrotransferFactory.new Sample.tradeContext
        (Sample.depositConfig Sample.thousandth) Sample.smallAddress =
          .ok Sample.smallFactory ∧
      ∃ setup details,
        Sample.builtSetup Sample.filledSmall Sample.smallRpc = some setup ∧
        Sample.registeredSetup Sample.filledSmall setup = some details ∧
        (Sample.sellerInstance details Sample.smallChunks).Records .seller
          Sample.filledSmall.contracts.values ∧
        CorrectInfos Sample.packingLib Sample.namedEcdsa "seller1" "seller2"
          Sample.filledSmall.contracts.values
          (Sample.buyerInfo Sample.smallChunks.seller) ∧
        ContractServer.feeIsCorrect (Sample.feeServer Sample.thousandth)
          (Sample.sellerInstance details Sample.smallChunks) .seller =
            .ok false := by
  refine ⟨by decide +kernel, ?_⟩
  have agreed : Sample.filledSmall.contracts.values.map
      MicrotransferContract.agreedChunk = [Sample.smallChunks.seller] := by
    decide +kernel
  have script : Sample.filledSmall.contracts.values.map
      (MicrotransferContract.bondScript Sample.packingLib) =
        [p2shScript Sample.packingLib
          (bondRedeemScript Sample.sellerKeys .us)] := by
    decide +kernel
  have runs : ((Sample.builtSetup Sample.filledSmall Sample.smallRpc).bind
      (Sample.registeredSetup Sample.filledSmall)).map (fun details =>
        ContractServer.feeIsCorrect (Sample.feeServer Sample.thousandth)
          (Sample.sellerInstance details Sample.smallChunks) .seller) =
            some (.ok false) := by
    decide +kernel
  obtain ⟨details, runs, rejected⟩ := Option.map_eq_some_iff.mp runs
  obtain ⟨setup, built, registered⟩ := Option.bind_eq_some_iff.mp runs
  exact ⟨setup, details, built, registered,
    Sample.sellerInstance_records details agreed,
    Sample.buyerInfo_correct agreed script, rejected⟩

end MicrotransferFactory
end Coinbend
