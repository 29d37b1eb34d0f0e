import Coinbend.Microtransfer.Validation

/-!
# Setup transactions that are valid but for their collateral

What `validate_setup_tx` checks of a transaction besides its fee, once for
every precision and with or without collateral infos.  A valid setup stays
valid when it is signed.
-/

namespace Coinbend

variable {Hex : Type}
variable {env : MicrotransferEnv Hex} {ecdsa : Ecdsa} {config : Config}
variable {txHex : Hex} {ecdsa1 ecdsa2 : PubKey}
variable {sig1 sig2 sig3 : Option Sig}

/-- The check of the signatures, when all or none are given or the third is. -/
def keepSigned
    (lib : BitcoinLib Hex)
    (redeemScript : RedeemScript)
    (unsignedTxHex : Hex)
    (sig1 sig2 sig3 : Option Sig) : Except PyError (Option (SignedTx Hex)) :=
  match sig1, sig2, sig3 with
  | some first, some second, some third =>
      some <$> checkSetupWorks lib unsignedTxHex redeemScript
        (some (first, second, third))
  | none, none, none =>
      some <$> checkSetupWorks lib unsignedTxHex redeemScript none
  | _, _, some _ =>
      some <$> checkSetupWorks lib unsignedTxHex redeemScript none
  | _, _, none => pure none

/-- A setup transaction that passes every check but that of its collateral. -/
structure ValidSetup
    (lib : BitcoinLib Hex)
    (config : Config)
    (ecdsa1 ecdsa2 : PubKey)
    (sig1 sig2 sig3 : Option Sig)
    (txHex : Hex) where
  tx : CTransaction
  input : CTxIn
  feeVout : CTxOut
  outputs : List CTxOut
  unsignedTxHex : Hex
  signed : Option (SignedTx Hex)
  parsed : lib.parse txHex = .ok tx
  one_input : tx.vin = [input]
  final : input.nSequence = finalSequence
  unlocked : tx.nLockTime = 0
  has_outputs : tx.vout = feeVout :: outputs
  nonempty : outputs ≠ []
  pays_fee : feeVout.scriptPubKey = .p2pkh (lib.keyHash config.ecdsaFee)
  printed : lib.print tx = .ok unsignedTxHex
  works : keepSigned lib
    (greenRedeemScript ecdsa1 ecdsa2 config.ecdsaEncrypted config.ecdsaOffline)
    unsignedTxHex sig1 sig2 sig3 = .ok signed

/-- The result dictionary of a valid setup. -/
def ValidSetup.details
    {lib : BitcoinLib Hex}
    (prec : Nat)
    (valid : ValidSetup lib config ecdsa1 ecdsa2 sig1 sig2 sig3 txHex) :
    SetupDetails Hex :=
  let split := splitChange valid.outputs (changeScript lib ecdsa1)
  { depositTxid := valid.input.prevout.hash
    tx := valid.tx
    txid := lib.calculateTxid valid.unsignedTxHex
    signed := valid.signed
    contractVouts := split.1
    contractTotal := totalMoney prec split.1
    feeVout := valid.feeVout
    feeTotal := strMoneyValue valid.feeVout.nValue
    changeVout := split.2
    changeTotal :=
      match split.2 with
      | some output => strMoneyValue output.nValue
      | none => 0 }

/-- On a valid setup the validator only looks at the fee. -/
theorem ValidSetup.validateSetupTx
    (valid : ValidSetup env.lib config ecdsa1 ecdsa2 sig1 sig2 sig3 txHex)
    (ecdsa : Ecdsa)
    (collateralInfo : Option (Dict String CollateralInfo))
    (tradeFee : C) :
    validateSetupTx env ecdsa config txHex ecdsa1 ecdsa2 sig1 sig2 sig3
        collateralInfo tradeFee =
      (do
        let feeValid ←
          match collateralInfo with
          | some infos =>
              feeIsValid env ecdsa ecdsa1 ecdsa2
                (valid.details env.prec).contractVouts
                (valid.details env.prec).feeTotal
                (valid.details env.prec).contractTotal
                (valid.details env.prec).changeTotal infos tradeFee
          | none => pure true
        if feeValid = false then return .error (-40)
        return .ok (valid.details env.prec)) := by
  have works := valid.works
  unfold Coinbend.validateSetupTx
  rw [valid.parsed, Except.ok_bind]
  simp only [valid.one_input, valid.has_outputs,
    if_neg (not_not.mpr valid.final), if_neg (not_not.mpr valid.unlocked),
    if_neg valid.nonempty, if_neg (not_not.mpr valid.pays_fee), valid.printed,
    Except.ok_bind]
  rcases sig1 with _ | first <;> rcases sig2 with _ | second <;>
    rcases sig3 with _ | third <;> simp only [keepSigned] at works
  all_goals
    simp only [works, Except.ok_bind]
    cases collateralInfo <;> rfl

/-- A result dictionary is that of a valid setup. -/
theorem exists_validSetup
    {details : SetupDetails Hex}
    {noFee : C}
    (validated : validateSetupTx env ecdsa config txHex ecdsa1 ecdsa2 sig1 sig2
      sig3 none noFee = .ok (.ok details)) :
    ∃ valid : ValidSetup env.lib config ecdsa1 ecdsa2 sig1 sig2 sig3 txHex,
      details = valid.details env.prec := by
  have result := validated
  unfold validateSetupTx at validated
  rw [Except.bind_eq_ok_iff] at validated
  obtain ⟨tx, parsed, validated⟩ := validated
  split at validated
  case h_2 => cases validated
  next input one_input =>
  split at validated
  · cases validated
  next final =>
  split at validated
  · cases validated
  next unlocked =>
  split at validated
  case h_2 => cases validated
  next feeVout outputs has_outputs =>
  split at validated
  · cases validated
  next nonempty =>
  dsimp only at validated
  split at validated
  · cases validated
  next pays_fee =>
  rw [pure_bind, if_neg (by decide), Except.bind_eq_ok_iff] at validated
  obtain ⟨unsignedTxHex, printed, validated⟩ := validated
  have kept : ∃ signed, keepSigned env.lib (greenRedeemScript ecdsa1 ecdsa2
      config.ecdsaEncrypted config.ecdsaOffline) unsignedTxHex sig1 sig2 sig3 =
        .ok signed := by
    rcases sig1 with _ | first <;> rcases sig2 with _ | second <;>
      rcases sig3 with _ | third
    all_goals
      rw [Except.bind_eq_ok_iff] at validated
      obtain ⟨signed, works, _⟩ := validated
      exact ⟨signed, works⟩
  obtain ⟨signed, works⟩ := kept
  let valid : ValidSetup env.lib config ecdsa1 ecdsa2 sig1 sig2 sig3 txHex := {
    tx, input, feeVout, outputs, unsignedTxHex, signed, parsed, one_input
    final := not_not.mp final
    unlocked := not_not.mp unlocked
    has_outputs, nonempty
    pays_fee := not_not.mp pays_fee
    printed, works }
  have returned := valid.validateSetupTx ecdsa none noFee
  rw [result] at returned
  cases returned
  exact ⟨valid, rfl⟩

/-- A setup that works once its signatures are put in works as it is. -/
theorem trySetup_again
    {lib : BitcoinLib Hex}
    {redeemScript : RedeemScript}
    {first second third : Sig}
    {tx : CTransaction}
    {signed : SignedTx Hex}
    (parsed : lib.deserialize txHex = some tx)
    (works : trySetup lib txHex redeemScript (some (first, second, third)) =
      some signed) :
    ∃ signedTx,
      tx.setScriptSig (.spend first second third redeemScript) =
        some signedTx ∧
      lib.deserialize signed.txHex = some signedTx ∧
      lib.serialize signedTx = some signed.txHex ∧
      trySetup lib signed.txHex redeemScript none = some signed := by
  simp only [trySetup, parsed, Option.bind_eq_bind, Option.bind_some,
    Option.bind_eq_some_iff] at works
  obtain ⟨signedTx, isSet, input, isFirst, works⟩ := works
  have kept := works
  split at works
  case isFalse => cases works
  simp only [Option.bind_eq_some_iff, Option.pure_def, Option.some.injEq]
    at works
  obtain ⟨signedTxHex, serialized, rfl⟩ := works
  have reparsed := lib.deserialize_of_serialize serialized
  refine ⟨signedTx, isSet, reparsed, serialized, ?_⟩
  simp only [trySetup, reparsed, Option.bind_eq_bind, Option.bind_some,
    isFirst]
  exact kept

/-- The signed transaction of a valid setup is valid without more
signatures. -/
theorem ValidSetup.again
    {first second third : Sig}
    (valid : ValidSetup env.lib config ecdsa1 ecdsa2 (some first)
      (some second) (some third) txHex) :
    ∃ signed, valid.signed = some signed ∧
      ∃ again : ValidSetup env.lib config ecdsa1 ecdsa2 none none none
          signed.txHex,
        again.feeVout = valid.feeVout ∧ again.outputs = valid.outputs := by
  have works := valid.works
  simp only [keepSigned, map_eq_pure_bind, Except.bind_eq_ok_iff,
    Except.pure_eq_ok_iff] at works
  obtain ⟨signed, works, isSigned⟩ := works
  rw [checkSetupWorks, Except.ofOption_eq_ok_iff] at works
  obtain ⟨signedTx, isSet, reparsed, serialized, still⟩ := trySetup_again
    (env.lib.deserialize_of_serialize
      ((env.lib.print_eq_ok_iff _ _).mp valid.printed)) works
  have outputs_kept := CTransaction.setScriptSig_vout isSet
  simp only [CTransaction.setScriptSig, valid.one_input, Option.some.injEq]
    at isSet
  refine ⟨signed, isSigned.symm, {
    tx := signedTx
    input := { valid.input with
      scriptSig := .spend first second third (greenRedeemScript ecdsa1 ecdsa2
        config.ecdsaEncrypted config.ecdsaOffline) }
    feeVout := valid.feeVout
    outputs := valid.outputs
    unsignedTxHex := signed.txHex
    signed := some signed
    parsed := (env.lib.parse_eq_ok_iff _ _).mpr reparsed
    one_input := by
      rw [← isSet]
    final := valid.final
    unlocked := by
      rw [← isSet]
      exact valid.unlocked
    has_outputs := outputs_kept.trans valid.has_outputs
    nonempty := valid.nonempty
    pays_fee := valid.pays_fee
    printed := (env.lib.print_eq_ok_iff _ _).mpr serialized
    works := by
      rw [keepSigned, checkSetupWorks, still]
      rfl }, rfl, rfl⟩

variable (env) in
/-- With infos a valid setup is accepted when its fee is. -/
theorem ValidSetup.accepted_iff
    (valid : ValidSetup env.lib config ecdsa1 ecdsa2 sig1 sig2 sig3 txHex)
    (ecdsa : Ecdsa)
    (infos : Dict String CollateralInfo)
    (tradeFee : C) :
    (∃ details, Coinbend.validateSetupTx env ecdsa config txHex ecdsa1 ecdsa2
        sig1 sig2 sig3 (some infos) tradeFee = .ok (.ok details)) ↔
      feeIsValid env ecdsa ecdsa1 ecdsa2
        (valid.details env.prec).contractVouts
        (valid.details env.prec).feeTotal
        (valid.details env.prec).contractTotal
        (valid.details env.prec).changeTotal infos tradeFee = .ok true := by
  rw [valid.validateSetupTx]
  simp only [Except.bind_eq_ok_iff]
  constructor
  · rintro ⟨details, feeValid, checked, kept⟩
    cases feeValid
    · cases kept
    · exact checked
  · intro checked
    exact ⟨valid.details env.prec, true, checked, rfl⟩

end Coinbend
