import Coinbend.Microtransfer.SetupTx
import Mathlib.Algebra.Order.BigOperators.Group.List

/-!
# What a validated setup transaction is

A result dictionary of `validate_setup_tx` stands for a transaction with one
final input, a fee output and contract outputs.  Its collateral is checked only
when every collateral info was found; the conditions under which the result
means what its callers take it for are stated and shown to be exact.
-/

namespace Coinbend

variable {Hex : Type}

/-! ## Collateral infos -/

/-- The text a collateral info is signed for. -/
def CollateralInfo.signedText (info : CollateralInfo) : String :=
  info.chunkSize.str ++ " " ++ info.pubArbiter

/-- Both signatures of a collateral info verify. -/
def signaturesValid
    (ecdsa : Ecdsa)
    (pubKey1 : String)
    (info : CollateralInfo) : Bool :=
  match ecdsa.load pubKey1, ecdsa.load info.pub2 with
  | some pair1, some pair2 =>
      ecdsa.validSignature pair1 info.sig1 info.signedText &&
        ecdsa.validSignature pair2 info.sig2 info.signedText
  | _, _ => false

/-- The output script of the contract an info is for. -/
def collateralScript
    (lib : BitcoinLib Hex)
    (ecdsa : Ecdsa)
    (ecdsa1 ecdsa2 : PubKey)
    (pubKey1 : String)
    (info : CollateralInfo) : Option Script := do
  let pair1 ← ecdsa.load pubKey1
  let pair2 ← ecdsa.load info.pub2
  let arbiter ← ecdsa.load info.pubArbiter
  return p2shScript lib
    (bondRedeemScript ⟨(ecdsa1, ecdsa2), (pair1, pair2), arbiter⟩ .us)

/-- The contract outputs an info is for. -/
def outputsOf
    (lib : BitcoinLib Hex)
    (ecdsa : Ecdsa)
    (ecdsa1 ecdsa2 : PubKey)
    (contractVouts : List CTxOut)
    (entry : String × CollateralInfo) : List CTxOut :=
  contractVouts.filter fun vout =>
    collateralScript lib ecdsa ecdsa1 ecdsa2 entry.1 entry.2 =
      some vout.scriptPubKey

/-- The contract outputs the collateral loop counts for an info. -/
def counted
    (lib : BitcoinLib Hex)
    (ecdsa : Ecdsa)
    (ecdsa1 ecdsa2 : PubKey)
    (contractVouts : List CTxOut)
    (entry : String × CollateralInfo) : List CTxOut :=
  if signaturesValid ecdsa entry.1 entry.2 then
    outputsOf lib ecdsa ecdsa1 ecdsa2 contractVouts entry
  else []

theorem val_addRepeatedly
    (chunk : C)
    {outputs : List CTxOut}
    {start total : C}
    (summed : outputs.foldlM (fun total _ => total.add chunk) start =
      (.ok total : Except PyError C)) :
    total.val = start.val + chunk.val * outputs.length := by
  induction outputs generalizing start with
  | nil =>
      cases summed
      simp
  | cons output outputs inductionHypothesis =>
      rw [List.foldlM_cons, Except.bind_eq_ok_iff] at summed
      obtain ⟨next, added, rest⟩ := summed
      rw [inductionHypothesis rest, C.val_add added, List.length_cons, Nat.mul_succ]
      omega

/-- Such a sum exists when it stays within some amount. -/
theorem addRepeatedly_of_le
    (chunk limit : C)
    {outputs : List CTxOut}
    {start : C}
    (fits : start.val + chunk.val * outputs.length ≤ limit.val) :
    ∃ total, outputs.foldlM (fun total _ => total.add chunk) start =
      (.ok total : Except PyError C) := by
  induction outputs generalizing start with
  | nil => exact ⟨start, rfl⟩
  | cons output outputs inductionHypothesis =>
      rw [List.length_cons, Nat.mul_succ] at fits
      obtain ⟨next, added, next_val⟩ := C.add_of_le (a := start) (b := chunk)
        (c := limit) (by omega)
      rw [List.foldlM_cons, added, Except.ok_bind]
      exact inductionHypothesis (by omega)

/-- A script of a collateral info is built from three keys. -/
theorem loaded_of_collateralScript
    {lib : BitcoinLib Hex}
    {ecdsa : Ecdsa}
    {ecdsa1 ecdsa2 : PubKey}
    {pubKey1 : String}
    {info : CollateralInfo}
    {script : Script}
    (isScript : collateralScript lib ecdsa ecdsa1 ecdsa2 pubKey1 info =
      some script) :
    ∃ pair1 pair2 arbiter, ecdsa.load pubKey1 = some pair1 ∧
      ecdsa.load info.pub2 = some pair2 ∧
      ecdsa.load info.pubArbiter = some arbiter := by
  simp only [collateralScript, Option.bind_eq_bind, Option.bind_eq_some_iff]
    at isScript
  obtain ⟨pair1, loaded1, pair2, loaded2, arbiter, loaded3, _⟩ := isScript
  exact ⟨pair1, pair2, arbiter, loaded1, loaded2, loaded3⟩

/-- The outputs counted for a signed info have the script of its keys. -/
theorem counted_of_loaded
    {lib : BitcoinLib Hex}
    {ecdsa : Ecdsa}
    {ecdsa1 ecdsa2 pair1 pair2 arbiter : PubKey}
    {contractVouts : List CTxOut}
    {pubKey1 : String}
    {info : CollateralInfo}
    (isValid : signaturesValid ecdsa pubKey1 info = true)
    (loaded1 : ecdsa.load pubKey1 = some pair1)
    (loaded2 : ecdsa.load info.pub2 = some pair2)
    (loaded3 : ecdsa.load info.pubArbiter = some arbiter) :
    counted lib ecdsa ecdsa1 ecdsa2 contractVouts (pubKey1, info) =
      contractVouts.filter fun vout => vout.scriptPubKey =
        p2shScript lib (bondRedeemScript
          ⟨(ecdsa1, ecdsa2), (pair1, pair2), arbiter⟩ .us) := by
  rw [counted, if_pos isValid, outputsOf]
  congr 1
  funext vout
  simp [collateralScript, loaded1, loaded2, loaded3, eq_comm]

/-- One round of the collateral loop. -/
theorem validateCollateral_spec
    {env : MicrotransferEnv Hex}
    {ecdsa : Ecdsa}
    {ecdsa1 ecdsa2 : PubKey}
    {contractVouts : List CTxOut}
    {remaining after : Dict String CollateralInfo}
    {start total : C}
    {pubKey1 : String}
    {info : CollateralInfo}
    (round : validateCollateral env ecdsa ecdsa1 ecdsa2 contractVouts remaining
      start pubKey1 info = .ok (after, total)) :
    let found :=
      counted env.lib ecdsa ecdsa1 ecdsa2 contractVouts (pubKey1, info)
    after = (if found = [] then remaining else remaining.erase pubKey1) ∧
      total.val = start.val + info.chunkSize.val * found.length := by
  unfold validateCollateral at round
  simp only [Except.bind_eq_ok_iff, Except.ofOption_eq_ok_iff] at round
  obtain ⟨pair1, loaded1, round⟩ := round
  split at round
  next invalid =>
    cases round
    have none_counted : counted env.lib ecdsa ecdsa1 ecdsa2 contractVouts
        (pubKey1, info) = [] := by
      rw [counted, if_neg]
      simp only [signaturesValid, loaded1]
      split
      next same _ =>
        cases same
        simp [CollateralInfo.signedText, invalid]
      · simp
    simp [none_counted]
  next valid1 =>
  simp only [Except.bind_eq_ok_iff, Except.ofOption_eq_ok_iff] at round
  obtain ⟨pair2, loaded2, round⟩ := round
  split at round
  next invalid =>
    cases round
    have none_counted : counted env.lib ecdsa ecdsa1 ecdsa2 contractVouts
        (pubKey1, info) = [] := by
      rw [counted, if_neg]
      simp [signaturesValid, loaded1, loaded2, CollateralInfo.signedText,
        invalid]
    simp [none_counted]
  next valid2 =>
  split at round
  next empty =>
    cases round
    simp [counted, outputsOf, empty]
  next nonempty =>
  simp only [Except.bind_eq_ok_iff, Except.ofOption_eq_ok_iff] at round
  obtain ⟨arbiter, loaded3, summed, sum, returned⟩ := round
  cases returned
  have valid : signaturesValid ecdsa pubKey1 info = true := by
    simp only [signaturesValid, loaded1, loaded2, CollateralInfo.signedText]
    simp_all
  rw [counted_of_loaded valid loaded1 loaded2 loaded3]
  exact ⟨rfl, val_addRepeatedly info.chunkSize sum⟩

section Loop

variable {env : MicrotransferEnv Hex} {ecdsa : Ecdsa}
variable {ecdsa1 ecdsa2 : PubKey} {contractVouts : List CTxOut}

/-- The collateral loop counts the chunk of every counted output, and what
remains are the entries under keys for which nothing was counted. -/
theorem collateralLoop_spec
    {entries : List (String × CollateralInfo)}
    {remaining : Dict String CollateralInfo}
    {start : C}
    {done : Dict String CollateralInfo × C}
    (looped : entries.foldlM
      (fun ((remaining, total) : Dict String CollateralInfo × C)
          ((pubKey1, info) : String × CollateralInfo) =>
        validateCollateral env ecdsa ecdsa1 ecdsa2 contractVouts remaining
          total pubKey1 info)
      (remaining, start) = .ok done) :
    (∀ entry, entry ∈ done.1.entries ↔
      entry ∈ remaining.entries ∧ ∀ other ∈ entries, other.1 = entry.1 →
        counted env.lib ecdsa ecdsa1 ecdsa2 contractVouts other = []) ∧
      done.2.val = start.val + (entries.map fun entry =>
        entry.2.chunkSize.val *
          (counted env.lib ecdsa ecdsa1 ecdsa2 contractVouts entry).length).sum
    := by
  induction entries generalizing remaining start with
  | nil =>
      cases looped
      simp
  | cons first entries inductionHypothesis =>
      obtain ⟨pubKey1, info⟩ := first
      simp only [List.foldlM_cons, Except.bind_eq_ok_iff] at looped
      obtain ⟨⟨after, total⟩, round, rest⟩ := looped
      obtain ⟨erased, added⟩ := validateCollateral_spec round
      obtain ⟨left, sum⟩ := inductionHypothesis rest
      constructor
      · intro entry
        rw [left, erased, List.forall_mem_cons]
        by_cases none_counted : counted env.lib ecdsa ecdsa1 ecdsa2
            contractVouts (pubKey1, info) = []
        · simp [none_counted]
        · simp only [none_counted, if_false, Dict.erase, List.mem_filter,
            decide_eq_true_eq, imp_false]
          constructor
          · rintro ⟨⟨stored, different⟩, others⟩
            exact ⟨stored, Ne.symm different, others⟩
          · rintro ⟨stored, different, others⟩
            exact ⟨⟨stored, Ne.symm different⟩, others⟩
      · rw [sum, added, List.map_cons, List.sum_cons, Nat.add_assoc]

/-- Nothing remains exactly when something was counted for every entry. -/
theorem remaining_eq_nil_iff
    {infos remaining : Dict String CollateralInfo}
    (distinct : infos.keys.Nodup)
    (left : ∀ entry, entry ∈ remaining.entries ↔
      entry ∈ infos.entries ∧ ∀ other ∈ infos.entries, other.1 = entry.1 →
        counted env.lib ecdsa ecdsa1 ecdsa2 contractVouts other = []) :
    remaining.entries = [] ↔ ∀ entry ∈ infos.entries,
      counted env.lib ecdsa ecdsa1 ecdsa2 contractVouts entry ≠ [] := by
  rw [List.eq_nil_iff_forall_not_mem]
  constructor
  · intro empty entry stored none_counted
    apply empty entry
    rw [left]
    refine ⟨stored, ?_⟩
    intro other isStored sameKey
    rw [List.inj_on_of_nodup_map distinct isStored stored sameKey]
    exact none_counted
  · intro all_counted entry isLeft
    obtain ⟨stored, others⟩ := (left entry).mp isLeft
    exact all_counted entry stored (others entry stored rfl)

end Loop

/-! ## The fee -/

/-- The trade fee on the coins of a transaction, as the code computes it from
the totals of its outputs. -/
def tradeFeeDue
    (prec : Nat)
    (feeTotal contractTotal changeTotal : ℚ)
    (tradeFee : C) : Except PyError C := do
  let totalCoins ← C.ofDecimal
    (DecimalRounding.roundDigits prec (feeTotal + contractTotal))
  let changeCoins ← C.ofDecimal changeTotal
  let charged ← totalCoins.sub changeCoins
  charged.mul tradeFee

/-- The fee output is the sum of some collateral and the trade fee. -/
def FeeCovers
    (prec : Nat)
    (feeTotal contractTotal changeTotal : ℚ)
    (tradeFee : C)
    (collateral : Nat) : Prop :=
  ∃ due feeCoins,
    tradeFeeDue prec feeTotal contractTotal changeTotal tradeFee = .ok due ∧
    C.ofDecimal feeTotal = .ok feeCoins ∧
    feeCoins.val = collateral + due.val

/-- A fee that passed, when something was counted for every info, is the
counted collateral and the trade fee. -/
theorem feeIsValid_spec
    {env : MicrotransferEnv Hex}
    {ecdsa : Ecdsa}
    {ecdsa1 ecdsa2 : PubKey}
    {contractVouts : List CTxOut}
    {feeTotal contractTotal changeTotal : ℚ}
    {infos : Dict String CollateralInfo}
    {tradeFee : C}
    (distinct : infos.keys.Nodup)
    (valid : feeIsValid env ecdsa ecdsa1 ecdsa2 contractVouts feeTotal
      contractTotal changeTotal infos tradeFee = .ok true)
    (all_counted : ∀ entry ∈ infos.entries,
      counted env.lib ecdsa ecdsa1 ecdsa2 contractVouts entry ≠ []) :
    FeeCovers env.prec feeTotal contractTotal changeTotal tradeFee
      (infos.entries.map fun entry => entry.2.chunkSize.val *
        (counted env.lib ecdsa ecdsa1 ecdsa2 contractVouts entry).length).sum
    := by
  unfold feeIsValid at valid
  rw [Except.bind_eq_ok_iff] at valid
  obtain ⟨⟨remaining, collateralTotal⟩, looped, valid⟩ := valid
  obtain ⟨left, sum⟩ := collateralLoop_spec looped
  have nothing_left := (remaining_eq_nil_iff distinct left).mpr all_counted
  dsimp only at valid left sum nothing_left
  split at valid
  next some_left => exact absurd nothing_left some_left
  simp only [Except.bind_eq_ok_iff] at valid
  obtain ⟨totalCoins, total, changeCoins, change, charged, difference, fees,
    product, expectedFee, expected, feeCoins, fee, equal⟩ := valid
  rw [Except.pure_eq_ok_iff, decide_eq_true_eq] at equal
  refine ⟨fees, feeCoins, ?_, fee, ?_⟩
  · simp only [tradeFeeDue, Except.bind_eq_ok_iff]
    exact ⟨totalCoins, total, changeCoins, change, charged, difference, product⟩
  · rw [← equal, C.val_add expected, sum, C.val_zero, Nat.zero_add]

/-! ## The outputs -/

/-- The script of the owner's change. -/
def changeScript (lib : BitcoinLib Hex) (ecdsa1 : PubKey) : Script :=
  .p2pkh (lib.keyHash ecdsa1)

/-- Everything but a last output that is change. -/
theorem splitChange_spec
    (outputs : List CTxOut)
    (script : Script) :
    outputs = (splitChange outputs script).1 ++
        (splitChange outputs script).2.toList ∧
      ∀ output ∈ (splitChange outputs script).2,
        output.scriptPubKey = script := by
  unfold splitChange
  split
  next last isLast =>
    split
    next pays =>
      constructor
      · exact (List.dropLast_append_getLast? last isLast).symm
      · rintro output ⟨⟩
        exact pays
    · simp
  · simp

/-- The contract outputs hold no change exactly when no output before the last
one is change. -/
theorem splitChange_noChange_iff
    (outputs : List CTxOut)
    (script : Script) :
    (∀ vout ∈ (splitChange outputs script).1, vout.scriptPubKey ≠ script) ↔
      ∀ vout ∈ outputs.dropLast, vout.scriptPubKey ≠ script := by
  unfold splitChange
  split
  next last isLast =>
    split
    · exact Iff.rfl
    next other =>
      have split_last := List.dropLast_append_getLast? last isLast
      conv_lhs => rw [← split_last]
      simp only [List.forall_mem_append, List.forall_mem_singleton]
      exact and_iff_left other
  next none_last =>
    rw [List.getLast?_eq_none_iff] at none_last
    simp [none_last]

/-- Change is no contract output. -/
theorem outputsOf_splitChange
    (lib : BitcoinLib Hex)
    (ecdsa : Ecdsa)
    (ecdsa1 ecdsa2 : PubKey)
    (outputs : List CTxOut)
    (entry : String × CollateralInfo) :
    outputsOf lib ecdsa ecdsa1 ecdsa2
        (splitChange outputs (changeScript lib ecdsa1)).1 entry =
      outputsOf lib ecdsa ecdsa1 ecdsa2 outputs entry := by
  obtain ⟨joined, pays⟩ :=
    splitChange_spec outputs (changeScript lib ecdsa1)
  conv_rhs => rw [joined]
  unfold outputsOf
  rw [List.filter_append, List.self_eq_append_right, List.filter_eq_nil_iff]
  intro change isChange
  rw [Option.mem_toList] at isChange
  rw [pays change isChange]
  simp only [collateralScript, changeScript]
  intro same
  simp [Option.bind_eq_some_iff, p2shScript] at same

/-! ## Soundness -/

/-- What collateral infos are taken for: both signatures of each verify, each is
for a contract output, and the fee is the sum of their chunks and the trade
fee. -/
structure CollateralSound
    (env : MicrotransferEnv Hex)
    (ecdsa : Ecdsa)
    (ecdsa1 ecdsa2 : PubKey)
    (details : SetupDetails Hex)
    (infos : Dict String CollateralInfo)
    (tradeFee : C) : Prop where
  signed : ∀ entry ∈ infos.entries,
    signaturesValid ecdsa entry.1 entry.2
  found : ∀ entry ∈ infos.entries,
    outputsOf env.lib ecdsa ecdsa1 ecdsa2 details.contractVouts entry ≠ []
  fee : FeeCovers env.prec details.feeTotal details.contractTotal
    details.changeTotal tradeFee
    (infos.entries.map fun entry => entry.2.chunkSize.val).sum

/-- What every result dictionary of `validate_setup_tx` guarantees. -/
structure SetupChecked
    (env : MicrotransferEnv Hex)
    (config : Config)
    (ecdsa1 ecdsa2 : PubKey)
    (sig1 sig2 sig3 : Option Sig)
    (details : SetupDetails Hex) : Prop where
  one_final_input : ∃ input, details.tx.vin = [input] ∧
    input.nSequence = finalSequence
  final : details.tx.nLockTime = 0
  outputs : details.tx.vout =
    details.feeVout :: (details.contractVouts ++ details.changeVout.toList)
  pays_fee : details.feeVout.scriptPubKey =
    .p2pkh (env.lib.keyHash config.ecdsaFee)
  change : ∀ vout ∈ details.changeVout,
    vout.scriptPubKey = changeScript env.lib ecdsa1
  verified : (sig3.isSome ∨ sig1 = none ∧ sig2 = none ∧ sig3 = none) →
    ∃ signed ∈ details.signed, ∃ tx input,
      env.lib.deserialize signed.txHex = some tx ∧
      tx.vout = details.tx.vout ∧
      tx.vin.head? = some input ∧
      env.lib.verifyScript input.scriptSig
        (p2shScript env.lib (greenRedeemScript ecdsa1 ecdsa2
          config.ecdsaEncrypted config.ecdsaOffline)) tx

/-- What the callers of `validate_setup_tx` take a result dictionary for. -/
structure SetupSound
    (env : MicrotransferEnv Hex)
    (ecdsa : Ecdsa)
    (config : Config)
    (ecdsa1 ecdsa2 : PubKey)
    (sig1 sig2 sig3 : Option Sig)
    (collateralInfo : Option (Dict String CollateralInfo))
    (tradeFee : C)
    (details : SetupDetails Hex) : Prop
    extends SetupChecked env config ecdsa1 ecdsa2 sig1 sig2 sig3 details where
  no_change : ∀ vout ∈ details.contractVouts,
    vout.scriptPubKey ≠ changeScript env.lib ecdsa1
  collateral : ∀ infos ∈ collateralInfo,
    CollateralSound env ecdsa ecdsa1 ecdsa2 details infos tradeFee

/-- A signed transaction whose script verified is the one that is kept. -/
theorem keepVerified_spec
    {lib : BitcoinLib Hex}
    {redeemScript : RedeemScript}
    {tx : CTransaction}
    {signed : SignedTx Hex}
    (kept : (do
      let input ← tx.vin.head?
      if lib.verifyScript input.scriptSig (p2shScript lib redeemScript) tx then
        let signedTxHex ← lib.serialize tx
        return { txHex := signedTxHex, txid := lib.calculateTxid signedTxHex }
      else none) = some signed) :
    lib.deserialize signed.txHex = some tx ∧
      ∃ input, tx.vin.head? = some input ∧
        lib.verifyScript input.scriptSig (p2shScript lib redeemScript) tx := by
  simp only [Option.bind_eq_bind, Option.bind_eq_some_iff] at kept
  obtain ⟨input, isFirst, kept⟩ := kept
  split at kept
  next verified =>
    simp only [Option.bind_eq_some_iff, Option.pure_def, Option.some.injEq]
      at kept
    obtain ⟨signedTxHex, printed, rfl⟩ := kept
    exact ⟨lib.deserialize_of_serialize printed, input, isFirst, verified⟩
  · cases kept

/-- A setup that works has the outputs it was given and a first input that
verifies. -/
theorem trySetup_spec
    {lib : BitcoinLib Hex}
    {txHex : Hex}
    {redeemScript : RedeemScript}
    {sigs : Option (Sig × Sig × Sig)}
    {tx : CTransaction}
    {signed : SignedTx Hex}
    (parsed : lib.deserialize txHex = some tx)
    (works : trySetup lib txHex redeemScript sigs = some signed) :
    ∃ signedTx input,
      lib.deserialize signed.txHex = some signedTx ∧
      signedTx.vout = tx.vout ∧
      signedTx.vin.head? = some input ∧
      lib.verifyScript input.scriptSig (p2shScript lib redeemScript) signedTx
    := by
  simp only [trySetup, parsed, Option.bind_eq_bind, Option.bind_some] at works
  split at works
  next first second third =>
    rw [Option.bind_eq_some_iff] at works
    obtain ⟨signedTx, set, kept⟩ := works
    obtain ⟨parses, input, isFirst, verified⟩ := keepVerified_spec kept
    exact ⟨signedTx, input, parses, CTransaction.setScriptSig_vout set, isFirst,
      verified⟩
  · obtain ⟨parses, input, isFirst, verified⟩ := keepVerified_spec works
    exact ⟨tx, input, parses, rfl, isFirst, verified⟩

/-- The last part of `validate_setup_tx`: a check of the signatures, when there
are any or none are given, and the result dictionary. -/
theorem buildDetails_spec
    {lib : BitcoinLib Hex}
    {redeemScript : RedeemScript}
    {sig1 sig2 sig3 : Option Sig}
    {tx : CTransaction}
    {build : Hex → Option (SignedTx Hex) → SetupDetails Hex}
    {details : SetupDetails Hex}
    (built : (do
      let unsignedTxHex ← lib.print tx
      let signed ←
        match sig1, sig2, sig3 with
        | some first, some second, some third =>
            some <$> checkSetupWorks lib unsignedTxHex redeemScript
              (some (first, second, third))
        | none, none, none =>
            some <$> checkSetupWorks lib unsignedTxHex redeemScript none
        | _, _, some _ =>
            some <$> checkSetupWorks lib unsignedTxHex redeemScript none
        | _, _, none => pure none
      return .ok (build unsignedTxHex signed)) =
        (.ok (.ok details) : Except PyError (Except Int (SetupDetails Hex)))) :
    ∃ unsignedTxHex signed, details = build unsignedTxHex signed ∧
      ((sig3.isSome ∨ sig1 = none ∧ sig2 = none ∧ sig3 = none) →
        ∃ found ∈ signed, ∃ signedTx input,
          lib.deserialize found.txHex = some signedTx ∧
          signedTx.vout = tx.vout ∧
          signedTx.vin.head? = some input ∧
          lib.verifyScript input.scriptSig (p2shScript lib redeemScript)
            signedTx) := by
  rw [Except.bind_eq_ok_iff] at built
  obtain ⟨unsignedTxHex, printed, built⟩ := built
  have parsed := lib.deserialize_of_serialize
    ((lib.print_eq_ok_iff tx unsignedTxHex).mp printed)
  have checked : ∀ sigs, (do
      let signed ← some <$> checkSetupWorks lib unsignedTxHex redeemScript sigs
      return .ok (build unsignedTxHex signed)) =
        (.ok (.ok details) : Except PyError (Except Int (SetupDetails Hex))) →
      ∃ found, details = build unsignedTxHex (some found) ∧
        trySetup lib unsignedTxHex redeemScript sigs = some found := by
    intro sigs kept
    simp only [checkSetupWorks, map_eq_pure_bind, bind_assoc, pure_bind,
      Except.bind_eq_ok_iff, Except.ofOption_eq_ok_iff] at kept
    obtain ⟨found, works, returned⟩ := kept
    cases returned
    exact ⟨found, rfl, works⟩
  split at built
  case h_4 none_third not_all_none =>
    cases built
    refine ⟨unsignedTxHex, none, rfl, ?_⟩
    rintro (impossible | ⟨rfl, rfl, _⟩)
    · cases impossible
    · exact absurd rfl (not_all_none rfl)
  all_goals
    obtain ⟨found, isBuilt, works⟩ := checked _ built
    exact ⟨unsignedTxHex, some found, isBuilt, fun _ =>
      ⟨found, rfl, trySetup_spec parsed works⟩⟩

/-- What `validate_setup_tx` checked when it returns a result dictionary. -/
theorem validateSetupTx_spec
    {env : MicrotransferEnv Hex}
    {ecdsa : Ecdsa}
    {config : Config}
    {txHex : Hex}
    {ecdsa1 ecdsa2 : PubKey}
    {sig1 sig2 sig3 : Option Sig}
    {collateralInfo : Option (Dict String CollateralInfo)}
    {tradeFee : C}
    {details : SetupDetails Hex}
    (validated : validateSetupTx env ecdsa config txHex ecdsa1 ecdsa2 sig1 sig2
      sig3 collateralInfo tradeFee = .ok (.ok details)) :
    SetupChecked env config ecdsa1 ecdsa2 sig1 sig2 sig3 details ∧
      env.lib.deserialize txHex = some details.tx ∧
      details.contractVouts = (splitChange details.tx.vout.tail
        (changeScript env.lib ecdsa1)).1 ∧
      ∀ infos ∈ collateralInfo,
        feeIsValid env ecdsa ecdsa1 ecdsa2 details.contractVouts
          details.feeTotal details.contractTotal details.changeTotal infos
          tradeFee = .ok true := by
  unfold validateSetupTx at validated
  rw [Except.bind_eq_ok_iff] at validated
  obtain ⟨tx, parsed, validated⟩ := validated
  rw [env.lib.parse_eq_ok_iff] at parsed
  split at validated
  case h_2 => cases validated
  next input one_input =>
  split at validated
  · cases validated
  next isFinal =>
  split at validated
  · cases validated
  next unlocked =>
  split at validated
  case h_2 => cases validated
  next feeVout rest has_outputs =>
  split at validated
  · cases validated
  obtain ⟨joined, pays⟩ := splitChange_spec rest (changeScript env.lib ecdsa1)
  dsimp only at validated
  split at validated
  · cases validated
  next pays_fee =>
  split at validated
  next infos =>
    rw [Except.bind_eq_ok_iff] at validated
    obtain ⟨feeValid, fee_checked, validated⟩ := validated
    split at validated
    · cases validated
    next valid =>
    rw [Bool.not_eq_false] at valid
    subst valid
    obtain ⟨unsignedTxHex, signed, rfl, verified⟩ :=
      buildDetails_spec validated
    refine ⟨?_, parsed, ?_, ?_⟩
    · exact {
        one_final_input := ⟨input, one_input, not_not.mp isFinal⟩
        final := not_not.mp unlocked
        outputs := by
          rw [has_outputs, List.cons.injEq]
          exact ⟨rfl, joined⟩
        pays_fee := not_not.mp pays_fee
        change := pays
        verified := verified }
    · rw [has_outputs]
      rfl
    · rintro _ ⟨⟩
      exact fee_checked
  next =>
    rw [pure_bind, if_neg (by decide)] at validated
    obtain ⟨unsignedTxHex, signed, rfl, verified⟩ :=
      buildDetails_spec validated
    refine ⟨?_, parsed, ?_, ?_⟩
    · exact {
        one_final_input := ⟨input, one_input, not_not.mp isFinal⟩
        final := not_not.mp unlocked
        outputs := by
          rw [has_outputs, List.cons.injEq]
          exact ⟨rfl, joined⟩
        pays_fee := not_not.mp pays_fee
        change := pays
        verified := verified }
    · rw [has_outputs]
      rfl
    · intro infos impossible
      cases impossible

/-- The inputs for which a result dictionary is what it is taken for: only the
last output may be the owner's change, both signatures of every collateral
info verify, and every info is for a contract output, and for one only unless
its chunk is zero. -/
structure SoundInput
    (lib : BitcoinLib Hex)
    (ecdsa : Ecdsa)
    (ecdsa1 ecdsa2 : PubKey)
    (collateralInfo : Option (Dict String CollateralInfo))
    (tx : CTransaction) : Prop where
  change_last : ∀ vout ∈ tx.vout.tail.dropLast,
    vout.scriptPubKey ≠ changeScript lib ecdsa1
  signed : ∀ infos ∈ collateralInfo, ∀ entry ∈ infos.entries,
    signaturesValid ecdsa entry.1 entry.2
  found : ∀ infos ∈ collateralInfo, ∀ entry ∈ infos.entries,
    outputsOf lib ecdsa ecdsa1 ecdsa2 tx.vout.tail entry ≠ []
  found_once : ∀ infos ∈ collateralInfo, ∀ entry ∈ infos.entries,
    entry.2.chunkSize.val = 0 ∨
      (outputsOf lib ecdsa ecdsa1 ecdsa2 tx.vout.tail entry).length = 1

theorem FeeCovers.collateral_unique
    {prec : Nat}
    {feeTotal contractTotal changeTotal : ℚ}
    {tradeFee : C}
    {first second : Nat}
    (covers : FeeCovers prec feeTotal contractTotal changeTotal tradeFee first)
    (covers_too : FeeCovers prec feeTotal contractTotal changeTotal tradeFee
      second) :
    first = second := by
  obtain ⟨due, fee, isDue, isFee, split⟩ := covers
  obtain ⟨due', fee', isDue', isFee', split'⟩ := covers_too
  rw [isDue, Except.ok.injEq] at isDue'
  rw [isFee, Except.ok.injEq] at isFee'
  subst isDue' isFee'
  omega

/-- Chunks counted at least once sum to the chunks exactly when none is
counted twice, zeros aside. -/
theorem sum_timesEach_eq_iff
    {α : Type}
    (entries : List α)
    (chunk times : α → Nat)
    (atLeastOnce : ∀ entry ∈ entries, 0 < times entry) :
    (entries.map fun entry => chunk entry * times entry).sum =
        (entries.map chunk).sum ↔
      ∀ entry ∈ entries, chunk entry = 0 ∨ times entry = 1 := by
  induction entries with
  | nil => simp
  | cons first entries inductionHypothesis =>
      rw [List.forall_mem_cons] at atLeastOnce
      obtain ⟨first_once, once⟩ := atLeastOnce
      have least : (entries.map chunk).sum ≤
          (entries.map fun entry => chunk entry * times entry).sum := by
        apply List.sum_le_sum
        intro entry stored
        exact Nat.le_mul_of_pos_right _ (once entry stored)
      have least_first : chunk first ≤ chunk first * times first :=
        Nat.le_mul_of_pos_right _ first_once
      rw [List.forall_mem_cons, ← inductionHypothesis once, List.map_cons,
        List.sum_cons, List.map_cons, List.sum_cons]
      have first_iff : chunk first * times first = chunk first ↔
          chunk first = 0 ∨ times first = 1 := by
        rw [mul_right_eq_self₀, or_comm]
      rw [← first_iff]
      omega

/-- The exact inputs for which a result dictionary of `validate_setup_tx` may
be treated as validated. -/
theorem validateSetupTx_sound_iff
    (env : MicrotransferEnv Hex)
    (ecdsa : Ecdsa)
    (config : Config)
    (txHex : Hex)
    (ecdsa1 ecdsa2 : PubKey)
    (sig1 sig2 sig3 : Option Sig)
    (collateralInfo : Option (Dict String CollateralInfo))
    (tradeFee : C)
    (details : SetupDetails Hex)
    (distinct : ∀ infos ∈ collateralInfo, infos.keys.Nodup)
    (validated : validateSetupTx env ecdsa config txHex ecdsa1 ecdsa2 sig1 sig2
      sig3 collateralInfo tradeFee = .ok (.ok details)) :
    SetupSound env ecdsa config ecdsa1 ecdsa2 sig1 sig2 sig3 collateralInfo
        tradeFee details ↔
      ∃ tx, env.lib.deserialize txHex = some tx ∧
        SoundInput env.lib ecdsa ecdsa1 ecdsa2 collateralInfo tx := by
  obtain ⟨checked, parsed, contractVouts, fee_checked⟩ :=
    validateSetupTx_spec validated
  have outputs_eq : ∀ entry,
      outputsOf env.lib ecdsa ecdsa1 ecdsa2 details.contractVouts entry =
        outputsOf env.lib ecdsa ecdsa1 ecdsa2 details.tx.vout.tail entry := by
    intro entry
    rw [contractVouts, outputsOf_splitChange]
  have counted_eq : ∀ entry : String × CollateralInfo,
      signaturesValid ecdsa entry.1 entry.2 →
      counted env.lib ecdsa ecdsa1 ecdsa2 details.contractVouts entry =
        outputsOf env.lib ecdsa ecdsa1 ecdsa2 details.tx.vout.tail entry := by
    intro entry valid
    rw [counted, if_pos valid, outputs_eq]
  -- When every info is signed and found, the fee check was made.
  have covers : ∀ infos ∈ collateralInfo,
      (∀ entry ∈ infos.entries, signaturesValid ecdsa entry.1 entry.2) →
      (∀ entry ∈ infos.entries,
        outputsOf env.lib ecdsa ecdsa1 ecdsa2 details.tx.vout.tail entry ≠ []) →
      FeeCovers env.prec details.feeTotal details.contractTotal
        details.changeTotal tradeFee
        (infos.entries.map fun entry => entry.2.chunkSize.val *
          (outputsOf env.lib ecdsa ecdsa1 ecdsa2 details.tx.vout.tail
            entry).length).sum := by
    intro infos given signed found
    have all_counted : ∀ entry ∈ infos.entries,
        counted env.lib ecdsa ecdsa1 ecdsa2 details.contractVouts entry ≠ [] := by
      intro entry stored
      rw [counted_eq entry (signed entry stored)]
      exact found entry stored
    have fee := feeIsValid_spec (distinct infos given) (fee_checked infos given)
      all_counted
    rw [List.map_congr_left fun entry stored => by
      rw [counted_eq entry (signed entry stored)]] at fee
    exact fee
  constructor
  · intro sound
    have found : ∀ infos ∈ collateralInfo, ∀ entry ∈ infos.entries,
        outputsOf env.lib ecdsa ecdsa1 ecdsa2 details.tx.vout.tail entry ≠ [] := by
      intro infos given entry stored
      rw [← outputs_eq]
      exact (sound.collateral infos given).found entry stored
    have signed : ∀ infos ∈ collateralInfo, ∀ entry ∈ infos.entries,
        signaturesValid ecdsa entry.1 entry.2 := by
      intro infos given
      exact (sound.collateral infos given).signed
    refine ⟨details.tx, parsed, ?_, signed, found, ?_⟩
    · rw [← splitChange_noChange_iff, ← contractVouts]
      exact sound.no_change
    · intro infos given
      rw [← sum_timesEach_eq_iff infos.entries
        (fun entry => entry.2.chunkSize.val) _ fun entry stored =>
          List.length_pos_iff.mpr (found infos given entry stored)]
      exact (covers infos given (signed infos given)
        (found infos given)).collateral_unique (sound.collateral infos given).fee
  · rintro ⟨tx, parses, input⟩
    rw [parsed, Option.some.injEq] at parses
    subst parses
    refine { checked with no_change := ?_, collateral := ?_ }
    · rw [contractVouts, splitChange_noChange_iff]
      exact input.change_last
    · intro infos given
      have once := (sum_timesEach_eq_iff infos.entries
        (fun entry => entry.2.chunkSize.val) _ fun entry stored =>
          List.length_pos_iff.mpr (input.found infos given entry stored)).mpr
        (input.found_once infos given)
      have fee := covers infos given (input.signed infos given)
        (input.found infos given)
      rw [once] at fee
      exact {
        signed := input.signed infos given
        found := by
          intro entry stored
          rw [outputs_eq]
          exact input.found infos given entry stored
        fee := fee }

/-! ## A sample setup

One contract of the buyer, whose fee output holds the seller's collateral. -/

namespace Sample

/-- Signatures name the key and the text. -/
def namedEcdsa : Ecdsa where
  load := some
  sign := fun key text => key ++ ":" ++ text
  validSignature := fun key sig text => sig = key ++ ":" ++ text

def feeConfig : Config where
  ecdsaEncrypted := "encrypted"
  ecdsaOffline := "offline"
  ecdsaFee := "fee"
  ecdsaArbiter := "arbiter"
  tradeFee := 0
  confirmations := 1

/-- The seller's collateral for its contract with the buyer, with some first
signature. -/
def sellerCollateral (sig1 : String) : Dict String CollateralInfo :=
  ⟨[("seller1", {
    msg := ""
    chunkSize := C.coins 2
    sig1 := sig1
    sig2 := "seller2:" ++ (C.coins 2).str ++ " arbiter"
    pub1 := "seller1"
    pub2 := "seller2"
    pubArbiter := "arbiter" })]⟩

def sellerSig : String := "seller1:" ++ (C.coins 2).str ++ " arbiter"

/-- A setup transaction of the buyer that pays some fee. -/
def collateralSetupTx (feeValue : Int) : CTransaction where
  nVersion := 1
  vin := [⟨⟨"buyerDeposit", 0⟩, .raw [], finalSequence⟩]
  vout := [
    ⟨feeValue, .p2pkh (textBytes "fee")⟩,
    ⟨600000000, p2shScript BitcoinLib.transparent
      (bondRedeemScript
        ⟨("buyer1", "buyer2"), ("seller1", "seller2"), "arbiter"⟩ .us)⟩]
  nLockTime := 0

/-- The buyer's half signed setup as its counterparty validates it. -/
def validateCollateralSetup
    (feeValue : Int)
    (sig1 : String) : Except PyError (Except Int (SetupDetails CTransaction)) :=
  validateSetupTx env namedEcdsa feeConfig (collateralSetupTx feeValue)
    "buyer1" "buyer2" (some "first") (some "second") none
    (some (sellerCollateral sig1)) 0

end Sample

/-- The sample setup with the signed collateral is sound. -/
theorem validateSetupTx_sound_sample :
    ∃ details,
      Sample.validateCollateralSetup 200000000 Sample.sellerSig =
        .ok (.ok details) ∧
      SetupSound Sample.env Sample.namedEcdsa Sample.feeConfig "buyer1"
        "buyer2" (some "first") (some "second") none
        (some (Sample.sellerCollateral Sample.sellerSig)) 0 details := by
  have passes : ((Sample.validateCollateralSetup 200000000
      Sample.sellerSig).toOption.bind Except.toOption).isSome := by
    decide +kernel
  obtain ⟨details, validated⟩ : ∃ details,
      Sample.validateCollateralSetup 200000000 Sample.sellerSig =
        .ok (.ok details) := by
    cases result :
      Sample.validateCollateralSetup 200000000 Sample.sellerSig with
    | error error => simp [result, Except.toOption] at passes
    | ok returned =>
        cases returned with
        | error code => simp [result, Except.toOption] at passes
        | ok details => exact ⟨details, rfl⟩
  refine ⟨details, validated, ?_⟩
  refine (validateSetupTx_sound_iff Sample.env Sample.namedEcdsa
    Sample.feeConfig (Sample.collateralSetupTx 200000000) "buyer1" "buyer2"
    (some "first") (some "second") none
    (some (Sample.sellerCollateral Sample.sellerSig)) 0 details ?_
    validated).mpr ⟨Sample.collateralSetupTx 200000000, rfl, ?_⟩
  · rintro infos ⟨⟩
    decide +kernel
  · constructor
    · decide +kernel
    · rintro infos ⟨⟩
      decide +kernel
    · rintro infos ⟨⟩
      decide +kernel
    · rintro infos ⟨⟩
      decide +kernel

/-- An info that is not signed makes the validator skip the fee: a setup that
pays none is returned as validated. -/
theorem unsigned_collateral_validates :
    ∃ details,
      Sample.validateCollateralSetup 0 "forged" = .ok (.ok details) ∧
      ¬SetupSound Sample.env Sample.namedEcdsa Sample.feeConfig "buyer1"
        "buyer2" (some "first") (some "second") none
        (some (Sample.sellerCollateral "forged")) 0 details := by
  obtain ⟨details, validated⟩ : ∃ details,
      Sample.validateCollateralSetup 0 "forged" = .ok (.ok details) := by
    exact ⟨_, rfl⟩
  refine ⟨details, validated, ?_⟩
  intro sound
  have signed := (sound.collateral _ rfl).signed
  revert signed
  decide +kernel

end Coinbend
