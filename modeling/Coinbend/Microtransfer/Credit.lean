import Coinbend.Microtransfer.AdjustRefund

/-!
# Credited payments

Which received transactions `adjust_refund_tx` credits, and when a credited
transaction really claims the output locked for the contract.  The function
looks at the transaction id of the first input only: neither the number of
inputs nor the output index is checked, and amounts are compared after eight
decimals.
-/

namespace Coinbend
namespace MicrotransferContract

variable {Hex : Type}

/-- What we should have received once the next chunk has arrived. -/
def expectedRecv (contract : MicrotransferContract Hex) : Except PyError C := do
  let recvChunkSize ←
    chunkSize contract.downloadAmount contract.trade.recv
      contract.theirChunkSize
  contract.trade.recv.add recvChunkSize

/-- An output that pays our address. -/
def PaysOurAddress
    (env : MicrotransferEnv Hex)
    (contract : MicrotransferContract Hex)
    (output : CTxOut) : Prop :=
  addressScript env.lib contract.ourAddress = .ok output.scriptPubKey

/-- An output worth at least an amount, both counted in the sixteenth
decimal. -/
def WorthAtLeast (output : CTxOut) (amount : C) : Prop :=
  (amount.val : Int) ≤ output.nValue * satoshiUnit

/-- An input that spends an output of their setup transaction with this
contract's multi-signature script. -/
def SpendsContractOutput
    (env : MicrotransferEnv Hex)
    (contract : MicrotransferContract Hex)
    (theirSetupTxHex : Hex)
    (input : CTxIn) : Prop :=
  ∃ setupTx output,
    env.lib.deserialize theirSetupTxHex = some setupTx ∧
    setupTx.vout[input.prevout.n]? = some output ∧
    output.scriptPubKey =
      p2shScript env.lib (bondRedeemScript contract.keys .them)

/-- The arguments of a call with a received payment. -/
structure PaymentCall (Hex : Type) where
  ourSetupTxid : Option Txid
  theirSetupTxHex : Hex
  theirRefundTxHex : Hex
  received : ReceivedTx Hex

def PaymentCall.apply
    (env : MicrotransferEnv Hex)
    (contract : MicrotransferContract Hex)
    (call : PaymentCall Hex) :
    Outcome (MicrotransferContract Hex) PyError (AdjustResult Hex) :=
  contract.adjustRefundTx env call.ourSetupTxid call.theirSetupTxHex
    call.theirRefundTxHex (some call.received)

/-- The call returned something other than `None`. -/
def Credited
    (env : MicrotransferEnv Hex)
    (contract : MicrotransferContract Hex)
    (call : PaymentCall Hex) : Prop :=
  ∃ result, (call.apply env contract).result = .ok result ∧
    result ≠ .rejected

/-- A payment from the output locked for the contract: a final transaction
with one input, which spends that output, and an output that pays us what we
should have received; it is stored with signatures that satisfy the contract's
script. -/
def ContractPayment
    (env : MicrotransferEnv Hex)
    (contract : MicrotransferContract Hex)
    (call : PaymentCall Hex) : Prop :=
  ∃ tx input expected,
    env.lib.deserialize call.received.txHex = some tx ∧
    contract.expectedRecv = .ok expected ∧
    tx.vin = [input] ∧
    input.prevout.hash = env.lib.calculateTxid call.theirSetupTxHex ∧
    SpendsContractOutput env contract call.theirSetupTxHex input ∧
    input.nSequence = finalSequence ∧
    tx.nLockTime = 0 ∧
    (∃ output ∈ tx.vout,
      PaysOurAddress env contract output ∧ WorthAtLeast output expected) ∧
    ∃ download signedTx scriptSig,
      (call.apply env contract).state.ourDownload = some download ∧
      env.lib.deserialize download.txHex = some signedTx ∧
      tx.setScriptSig scriptSig = some signedTx ∧
      env.lib.verifyScript scriptSig
        (p2shScript env.lib (bondRedeemScript contract.keys .them))
        signedTx = true

/-- What the checks leave open: the transaction has one input, its output
index is the contract's, and the expected amount has no digit past the eighth
decimal or some output of ours pays more satoshi than it has. -/
def FromContractOutput
    (env : MicrotransferEnv Hex)
    (contract : MicrotransferContract Hex)
    (call : PaymentCall Hex) : Prop :=
  ∃ tx expected,
    env.lib.deserialize call.received.txHex = some tx ∧
    contract.expectedRecv = .ok expected ∧
    tx.vin.length = 1 ∧
    (∀ input ∈ tx.vin,
      SpendsContractOutput env contract call.theirSetupTxHex input) ∧
    (expected.val % satoshiUnit = 0 ∨
      ∃ output ∈ tx.vout, PaysOurAddress env contract output ∧
        (expected.satoshi : Int) < output.nValue)

/-! ## When a credited payment is one from the contract's output -/

/-- Advancing keeps the stored payment. -/
theorem advance_ourDownload
    (env : MicrotransferEnv Hex)
    (contract : MicrotransferContract Hex)
    (ourSetupTxid : Option Txid)
    (sendChunkSize recvChunkSize : C) :
    (advance env contract ourSetupTxid sendChunkSize
      recvChunkSize).state.ourDownload = contract.ourDownload := by
  let kept (reached : MicrotransferContract Hex) : Prop :=
    reached.ourDownload = contract.ourDownload
  apply Outcome.attempt_state (motive := kept)
  · rfl
  intro sent _
  apply Outcome.attempt_state (motive := kept)
  · rfl
  intro refund _
  apply Outcome.attempt_state (motive := kept)
  · rfl
  intro recv _
  split
  · rfl
  apply Outcome.attempt_state (motive := kept)
  · rfl
  intro firstSig _
  apply Outcome.attempt_state (motive := kept)
  · rfl
  intro secondSig _
  rfl

/-- A credited payment passed the checks and was stored. -/
theorem Credited.checked
    {env : MicrotransferEnv Hex}
    {contract : MicrotransferContract Hex}
    {call : PaymentCall Hex}
    (credited : Credited env contract call) :
    ∃ recvChunkSize download,
      chunkSize contract.downloadAmount contract.trade.recv
        contract.theirChunkSize = .ok recvChunkSize ∧
      checkReceived env contract recvChunkSize call.theirSetupTxHex
        call.theirRefundTxHex call.received = .ok (some download) ∧
      (call.apply env contract).state.ourDownload = some download := by
  obtain ⟨result, returned, accepted⟩ := credited
  unfold PaymentCall.apply adjustRefundTx at *
  cases sendFound : chunkSize contract.uploadAmount contract.trade.sent
      contract.ourChunkSize with
  | error error =>
      rw [sendFound] at returned
      cases returned
  | ok sendChunkSize =>
  cases recvFound : chunkSize contract.downloadAmount contract.trade.recv
      contract.theirChunkSize with
  | error error =>
      rw [sendFound, recvFound] at returned
      cases returned
  | ok recvChunkSize =>
  simp only [sendFound, recvFound, Outcome.attempt_ok] at returned
  cases checked : checkReceived env contract recvChunkSize
      call.theirSetupTxHex call.theirRefundTxHex call.received with
  | error error =>
      rw [checked] at returned
      cases returned
  | ok outcome =>
  cases outcome with
  | none =>
      rw [checked] at returned
      cases returned
      exact absurd rfl accepted
  | some download =>
      refine ⟨recvChunkSize, download, rfl, checked, ?_⟩
      simp only [Outcome.attempt_ok, checked, advance_ourDownload]
      rfl

/-- The eight compared decimals decide the full amount exactly when nothing
was cut off or the output pays more. -/
theorem worthAtLeast_iff
    {output : CTxOut}
    {amount : C}
    (enough : (amount.satoshi : Int) ≤ output.nValue) :
    WorthAtLeast output amount ↔
      amount.val % satoshiUnit = 0 ∨ (amount.satoshi : Int) < output.nValue := by
  have split := Nat.div_add_mod amount.val satoshiUnit
  have rest := Nat.mod_lt amount.val satoshiUnit_pos
  unfold WorthAtLeast
  unfold C.satoshi at enough ⊢
  unfold satoshiUnit at *
  omega

/-- A credited payment is one from the output locked for the contract exactly
when it has what the checks leave open. -/
theorem contractPayment_iff_of_credited
    (env : MicrotransferEnv Hex)
    (contract : MicrotransferContract Hex)
    (call : PaymentCall Hex)
    (credited : Credited env contract call) :
    ContractPayment env contract call ↔
      FromContractOutput env contract call := by
  obtain ⟨recvChunkSize, download, chunkFound, checked, stored⟩ :=
    credited.checked
  obtain ⟨_, tx, expected, input, ourPubKey, ourFirstSig, parsed, sum, first,
    sameSetup, script, found, enough, unlocked, final, _, works⟩ :=
      (checkReceived_eq_some_iff _ _ _ _ _ _ _).mp checked
  have expected_eq : contract.expectedRecv = .ok expected := by
    rw [expectedRecv, chunkFound, Except.ok_bind, sum]
  constructor
  · rintro ⟨tx', input', expected', parsed', expectedAgain, vin, _, spends, _,
      _, ⟨output, isOutput, ours, worth⟩, _⟩
    refine ⟨tx', expected', parsed', expectedAgain, by rw [vin]; rfl, ?_, ?_⟩
    · intro other member
      rw [vin, List.mem_singleton] at member
      rw [member]
      exact spends
    · rcases Nat.eq_zero_or_pos (expected'.val % satoshiUnit) with
        exact_eight | cut
      · exact Or.inl exact_eight
      · refine Or.inr ⟨output, isOutput, ours, ?_⟩
        unfold WorthAtLeast at worth
        unfold C.satoshi
        unfold satoshiUnit at *
        omega
  · rintro ⟨tx', expected', parsed', expectedAgain, single, spends, full⟩
    have tx_eq : tx' = tx := by
      rw [parsed] at parsed'
      exact (Option.some.inj parsed').symm
    have amount_eq : expected' = expected := by
      rw [expected_eq] at expectedAgain
      exact (Except.ok.inj expectedAgain).symm
    subst tx_eq amount_eq
    obtain ⟨only, vin⟩ := List.length_eq_one_iff.mp single
    have only_eq : only = input := by
      rw [vin, List.head?_cons] at first
      exact Option.some.inj first
    subst only_eq
    have member : only ∈ tx'.vin := by
      rw [vin]
      exact List.mem_singleton_self only
    obtain ⟨unsigned, signedTx, parsedAgain, set, verified, printed, _⟩ :=
      (tryRefund_eq_some_iff _ _ _ _ _ _ _ _).mp works
    have unsigned_eq : unsigned = tx' := by
      rw [parsed] at parsedAgain
      exact (Option.some.inj parsedAgain).symm
    rw [unsigned_eq] at set
    refine ⟨tx', only, expected', parsed, expected_eq, vin, sameSetup,
      spends only member, final only member, unlocked, ?_, download, signedTx,
      _, stored, env.lib.deserialize_of_serialize printed, set, verified⟩
    rcases full with exact_eight | ⟨output, isOutput, ours, more⟩
    · obtain ⟨output, isOutput, isOurs, pays⟩ :=
        exists_output_of_amountFound found enough
      refine ⟨output, isOutput, ?_, ?_⟩
      · rw [PaysOurAddress, script, isOurs]
      · exact (worthAtLeast_iff pays).mpr (Or.inl exact_eight)
    · exact ⟨output, isOutput, ours,
        (worthAtLeast_iff more.le).mpr (Or.inr more)⟩

/-! ## Sample payments -/

/-- The buyer's setup transaction of the sample contract: a fee output and the
contract output. -/
def sampleSetupTx : CTransaction where
  nVersion := 1
  vin := [⟨⟨"deposit", 0⟩, .raw [], finalSequence⟩]
  vout := [
    ⟨1, .p2pkh (textBytes "fee")⟩,
    ⟨600000000,
      p2shScript Sample.env.lib (bondRedeemScript Sample.sellerKeys .them)⟩]
  nLockTime := 0

/-- The buyer's first payment of two coins, spending an output index. -/
def samplePayment (index : Nat) : CTransaction where
  nVersion := 1
  vin := [⟨⟨"tx:deposit", index⟩, .raw [], finalSequence⟩]
  vout := [
    ⟨400000000, .p2pkh (textBytes "buyerChange")⟩,
    ⟨200000000, .p2pkh (textBytes "sellerAddress")⟩]
  nLockTime := 0

def samplePaymentCall (index : Nat) : PaymentCall CTransaction where
  ourSetupTxid := some "tx:deposit"
  theirSetupTxHex := sampleSetupTx
  theirRefundTxHex := samplePayment 1
  received := {
    txHex := samplePayment index
    firstSig := "sig:buyer1"
    secondSig := "sig:buyer2" }

/-- The seller's next payment of two coins. -/
def sampleReply : CTransaction where
  nVersion := 1
  vin := [⟨⟨"tx:deposit", 1⟩, .raw [], finalSequence⟩]
  vout := [
    ⟨100000000, .p2pkh (textBytes "sellerChange")⟩,
    ⟨200000000, .p2pkh (textBytes "buyerAddress")⟩]
  nLockTime := 0

/-- The sample contract after the initiating call. -/
def sampleInitiated : MicrotransferContract CTransaction :=
  Sample.sellerContract.progress (C.coins 1) 0 none

theorem contractPayment_iff_sample :
    Credited Sample.env sampleInitiated (samplePaymentCall 1) ∧
    (ContractPayment Sample.env sampleInitiated (samplePaymentCall 1) ↔
      FromContractOutput Sample.env sampleInitiated (samplePaymentCall 1)) := by
  have credited :
      Credited Sample.env sampleInitiated (samplePaymentCall 1) := by
    refine ⟨.payment sampleReply "sig:seller1" "sig:seller2", ?_, nofun⟩
    decide +kernel
  exact ⟨credited, contractPayment_iff_of_credited _ _ _ credited⟩

/-- A payment that spends the fee output of the setup transaction is
credited. -/
theorem credited_fee_output :
    Credited Sample.env sampleInitiated (samplePaymentCall 0) ∧
    ¬ContractPayment Sample.env sampleInitiated (samplePaymentCall 0) := by
  constructor
  · refine ⟨.payment sampleReply "sig:seller1" "sig:seller2", ?_, nofun⟩
    decide +kernel
  · rintro ⟨tx, input, expected, parsed, _, vin, _,
      ⟨setupTx, output, parsedSetup, found, script⟩, _⟩
    cases parsed
    cases vin
    cases parsedSetup
    cases found
    cases script

end MicrotransferContract
end Coinbend
