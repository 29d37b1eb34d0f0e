import Coinbend.Library.Outcome
import Coinbend.Library.Saturation
import Coinbend.Microtransfer.Contract

/-!
# Adjusting the refund

`MicrotransferContract.adjust_refund_tx`: check a received payment, count it,
and pay the next chunk by building a refund that returns one chunk less to us.
-/

namespace Coinbend

/-- A received payment with the two signatures of its owner. -/
structure ReceivedTx (Hex : Type) where
  txHex : Hex
  firstSig : Sig
  secondSig : Sig
  deriving DecidableEq

/-- What `adjust_refund_tx` returns. -/
inductive AdjustResult (Hex : Type)
  /-- `None`. -/
  | rejected
  /-- `1`: nothing is left to move. -/
  | complete
  /-- The next payment. -/
  | payment (txHex : Hex) (firstSig secondSig : Sig)
  deriving DecidableEq

namespace MicrotransferContract

variable {Hex : Type}

/-- The next chunk of an amount of which `moved` has been transferred. -/
def chunkSize (amount moved chunk : C) : Except PyError C := do
  let remaining ← amount.sub moved
  return if remaining < chunk then remaining else chunk

/-- The worth of the first output with a script, zero without one. -/
def amountFound (outputs : List CTxOut) (pubKey : Script) : ℚ :=
  match outputs.find? fun output => output.scriptPubKey = pubKey with
  | some output => strMoneyValue output.nValue
  | none => 0

/-- "Validate transactions": the checks on a received payment that should
bring what we received to `expected`; `none` where the function returns
`None`. -/
def checkReceived
    (env : MicrotransferEnv Hex)
    (contract : MicrotransferContract Hex)
    (recvChunkSize : C)
    (theirSetupTxHex theirRefundTxHex : Hex)
    (received : ReceivedTx Hex) : Except PyError (Option (SignedTx Hex)) := do
  let theirRefundTx ← env.lib.parse theirRefundTxHex
  let theirSetupTxid := env.lib.calculateTxid theirSetupTxHex
  let refundInput ← Except.ofOption .indexError theirRefundTx.vin.head?
  if refundInput.prevout.hash ≠ theirSetupTxid then return none
  let unsignedTx ← env.lib.parse received.txHex
  let expected ← contract.trade.recv.add recvChunkSize
  let input ← Except.ofOption .indexError unsignedTx.vin.head?
  -- The malleability fallback reads `recv_coin_rpc`, which is not bound.
  Except.raiseIf (input.prevout.hash ≠ theirSetupTxid)
    (.nameError "recv_coin_rpc")
  let ourPubKey ← addressScript env.lib contract.ourAddress
  let found := amountFound unsignedTx.vout ourPubKey
  if found = 0 then return none
  if found < expected.asDecimal then return none
  if unsignedTx.nLockTime ≠ 0 then return none
  if ∃ input ∈ unsignedTx.vin, input.nSequence ≠ finalSequence then
    return none
  let ourFirstSig ← signRefundTx env contract.keys received.txHex 1 .them
  let signed ← checkRefundWorks env contract.keys received.txHex
    received.firstSig received.secondSig ourFirstSig .them
  return some signed

/-- `self.trade.sent = sent`. -/
def setSent (contract : MicrotransferContract Hex) (sent : C) :
    MicrotransferContract Hex :=
  { contract with trade := { contract.trade with sent } }

/-- `self.trade.recv = recv`. -/
def setRecv (contract : MicrotransferContract Hex) (recv : C) :
    MicrotransferContract Hex :=
  { contract with trade := { contract.trade with recv } }

/-- `self.details["our_download"] = ret`. -/
def setDownload
    (contract : MicrotransferContract Hex)
    (download : SignedTx Hex) : MicrotransferContract Hex :=
  { contract with ourDownload := some download }

/-- "Adjust refund": build the next payment and move both counters. -/
def advance
    (env : MicrotransferEnv Hex)
    (contract : MicrotransferContract Hex)
    (ourSetupTxid : Option Txid)
    (sendChunkSize recvChunkSize : C) :
    Outcome (MicrotransferContract Hex) PyError (AdjustResult Hex) :=
  Outcome.attempt contract (contract.trade.sent.add sendChunkSize)
    fun refundAmount =>
  Outcome.attempt contract
    (buildRefundTx env contract ourSetupTxid (some refundAmount))
    fun refund =>
  let contract := contract.setSent refundAmount
  Outcome.attempt contract (contract.trade.recv.add recvChunkSize)
    fun recv =>
  let contract := contract.setRecv recv
  if sendChunkSize = 0 ∧ recvChunkSize = 0 then
    Outcome.pure contract .complete
  else
    Outcome.attempt contract (signRefundTx env contract.keys refund.txHex 1 .us)
      fun firstSig =>
    Outcome.attempt contract (signRefundTx env contract.keys refund.txHex 2 .us)
      fun secondSig =>
    Outcome.pure contract (.payment refund.txHex firstSig secondSig)

/-- `adjust_refund_tx`.  The first call of the initiator has no received
payment. -/
def adjustRefundTx
    (env : MicrotransferEnv Hex)
    (contract : MicrotransferContract Hex)
    (ourSetupTxid : Option Txid)
    (theirSetupTxHex theirRefundTxHex : Hex)
    (received : Option (ReceivedTx Hex)) :
    Outcome (MicrotransferContract Hex) PyError (AdjustResult Hex) :=
  Outcome.attempt contract
    (chunkSize contract.uploadAmount contract.trade.sent
      contract.ourChunkSize) fun sendChunkSize =>
  Outcome.attempt contract
    (chunkSize contract.downloadAmount contract.trade.recv
      contract.theirChunkSize) fun recvChunkSize =>
  match received with
  | none => advance env contract ourSetupTxid sendChunkSize 0
  | some received =>
      Outcome.attempt contract
        (checkReceived env contract recvChunkSize theirSetupTxHex
          theirRefundTxHex received) fun checked =>
      match checked with
      | none => Outcome.pure contract .rejected
      | some download =>
          advance env (contract.setDownload download) ourSetupTxid
            sendChunkSize recvChunkSize

/-! ## Chunks -/

/-- The chunk of an amount that is not exceeded is a saturating growth. -/
theorem chunkSize_of_le
    {amount moved : C}
    (chunk : C)
    (le : moved.val ≤ amount.val) :
    ∃ size, chunkSize amount moved chunk = .ok size ∧
      size.val = Saturation.growth amount.val chunk.val moved.val := by
  obtain ⟨remaining, found, value⟩ := C.sub_of_le le
  rw [chunkSize, found, Except.ok_bind]
  refine ⟨_, rfl, ?_⟩
  rw [Saturation.growth, ← value]
  split
  next less =>
    rw [C.lt_iff] at less
    exact (min_eq_right less.le).symm
  next notLess =>
    rw [C.lt_iff] at notLess
    exact (min_eq_left (not_lt.mp notLess)).symm

/-! ## Accepted payments -/

/-- When the checks on a received payment succeed. -/
theorem checkReceived_eq_some_iff
    (env : MicrotransferEnv Hex)
    (contract : MicrotransferContract Hex)
    (recvChunkSize : C)
    (theirSetupTxHex theirRefundTxHex : Hex)
    (received : ReceivedTx Hex)
    (download : SignedTx Hex) :
    checkReceived env contract recvChunkSize theirSetupTxHex theirRefundTxHex
        received = .ok (some download) ↔
      (∃ theirRefundTx refundInput,
        env.lib.deserialize theirRefundTxHex = some theirRefundTx ∧
        theirRefundTx.vin.head? = some refundInput ∧
        refundInput.prevout.hash = env.lib.calculateTxid theirSetupTxHex) ∧
      ∃ unsignedTx expected input ourPubKey ourFirstSig,
        env.lib.deserialize received.txHex = some unsignedTx ∧
        contract.trade.recv.add recvChunkSize = .ok expected ∧
        unsignedTx.vin.head? = some input ∧
        input.prevout.hash = env.lib.calculateTxid theirSetupTxHex ∧
        addressScript env.lib contract.ourAddress = .ok ourPubKey ∧
        amountFound unsignedTx.vout ourPubKey ≠ 0 ∧
        ¬amountFound unsignedTx.vout ourPubKey < expected.asDecimal ∧
        unsignedTx.nLockTime = 0 ∧
        (∀ input ∈ unsignedTx.vin, input.nSequence = finalSequence) ∧
        signRefundTx env contract.keys received.txHex 1 .them =
          .ok ourFirstSig ∧
        tryRefund env.lib contract.keys received.txHex received.firstSig
          received.secondSig ourFirstSig .them = some download := by
  simp only [checkReceived, Except.bind_eq_ok_iff, BitcoinLib.parse_eq_ok_iff,
    Except.ofOption_eq_ok_iff, Except.ite_none_eq_ok_some_iff,
    Except.raiseIf_eq_ok_iff, Except.pure_eq_ok_iff, Option.some.injEq,
    checkRefundWorks_eq_ok_iff, not_not, not_exists, not_and, ne_eq]
  constructor
  · rintro ⟨refundTx, parsedRefund, refundInput, head, sameSetup, tx, parsed,
      expected, sum, input, first, _, sameInput, pubKey, script, found, enough,
      unlocked, final, sig, signed, _, works, rfl⟩
    exact ⟨⟨refundTx, refundInput, parsedRefund, head, sameSetup⟩, tx,
      expected, input, pubKey, sig, parsed, sum, first, sameInput, script,
      found, enough, unlocked, final, signed, works⟩
  · rintro ⟨⟨refundTx, refundInput, parsedRefund, head, sameSetup⟩, tx,
      expected, input, pubKey, sig, parsed, sum, first, sameInput, script,
      found, enough, unlocked, final, signed, works⟩
    exact ⟨refundTx, parsedRefund, refundInput, head, sameSetup, tx, parsed,
      expected, sum, input, first, (), sameInput, pubKey, script, found,
      enough, unlocked, final, sig, signed, download, works, rfl⟩

/-- The first output with a script is worth what `amountFound` says. -/
theorem exists_output_of_amountFound
    {outputs : List CTxOut}
    {pubKey : Script}
    {amount : C}
    (found : amountFound outputs pubKey ≠ 0)
    (enough : ¬amountFound outputs pubKey < amount.asDecimal) :
    ∃ output ∈ outputs, output.scriptPubKey = pubKey ∧
      (amount.satoshi : Int) ≤ output.nValue := by
  unfold amountFound at found enough
  cases first : outputs.find? fun output => output.scriptPubKey = pubKey with
  | none =>
      rw [first] at found
      exact absurd rfl found
  | some output =>
      rw [first] at enough
      refine ⟨output, List.mem_of_find?_eq_some first, ?_, ?_⟩
      · simpa using List.find?_some first
      · exact (satoshi_le_iff amount output.nValue).mp enough

/-- A stored transaction pays our address at least a number of satoshi. -/
def PaysUs
    (env : MicrotransferEnv Hex)
    (contract : MicrotransferContract Hex)
    (download : SignedTx Hex)
    (satoshi : Nat) : Prop :=
  ∃ tx, env.lib.deserialize download.txHex = some tx ∧
    ∃ output ∈ tx.vout,
      addressScript env.lib contract.ourAddress = .ok output.scriptPubKey ∧
      (satoshi : Int) ≤ output.nValue

/-- A payment that passes the checks pays us what we should have received by
then, cut to satoshi. -/
theorem paysUs_of_checkReceived
    {env : MicrotransferEnv Hex}
    {contract : MicrotransferContract Hex}
    {recvChunkSize : C}
    {theirSetupTxHex theirRefundTxHex : Hex}
    {received : ReceivedTx Hex}
    {download : SignedTx Hex}
    (checked : checkReceived env contract recvChunkSize theirSetupTxHex
      theirRefundTxHex received = .ok (some download)) :
    ∃ expected, contract.trade.recv.add recvChunkSize = .ok expected ∧
      PaysUs env contract download expected.satoshi := by
  obtain ⟨_, tx, expected, _, ourPubKey, _, parsed, sum, _, _, script, found,
    enough, _, _, _, works⟩ :=
      (checkReceived_eq_some_iff _ _ _ _ _ _ _).mp checked
  obtain ⟨output, isOutput, isOurs, pays⟩ :=
    exists_output_of_amountFound found enough
  obtain ⟨unsigned, signed, parsedAgain, set, _, printed, _⟩ :=
    (tryRefund_eq_some_iff _ _ _ _ _ _ _ _).mp works
  have same : unsigned = tx := by
    rw [parsed] at parsedAgain
    exact (Option.some.inj parsedAgain).symm
  refine ⟨expected, sum, signed, ?_, output, ?_, ?_, pays⟩
  · exact env.lib.deserialize_of_serialize printed
  · rw [CTransaction.setScriptSig_vout set, same]
    exact isOutput
  · rw [script, isOurs]

/-! ## What one call can do -/

/-- The contract with other counters and another stored payment. -/
def progress
    (contract : MicrotransferContract Hex)
    (sent recv : C)
    (ourDownload : Option (SignedTx Hex)) : MicrotransferContract Hex :=
  { contract with
    trade := { contract.trade with sent, recv }
    ourDownload }

/-- Advancing changes the counters only. -/
theorem advance_progress
    (env : MicrotransferEnv Hex)
    (contract : MicrotransferContract Hex)
    (ourSetupTxid : Option Txid)
    (sendChunkSize recvChunkSize : C) :
    ∃ sent recv,
      (advance env contract ourSetupTxid sendChunkSize recvChunkSize).state =
        contract.progress sent recv contract.ourDownload := by
  let kept (after : MicrotransferContract Hex) : Prop :=
    ∃ sent recv, after = contract.progress sent recv contract.ourDownload
  have same : kept contract := ⟨_, _, rfl⟩
  apply Outcome.attempt_state (motive := kept) same
  intro refundAmount _
  apply Outcome.attempt_state (motive := kept) same
  intro refund _
  apply Outcome.attempt_state (motive := kept) ⟨_, _, rfl⟩
  intro recv _
  split
  · exact ⟨_, _, rfl⟩
  apply Outcome.attempt_state (motive := kept) ⟨_, _, rfl⟩
  intro firstSig _
  apply Outcome.attempt_state (motive := kept) ⟨_, _, rfl⟩
  intro secondSig _
  exact ⟨_, _, rfl⟩

/-- A call changes the counters and the stored payment only. -/
theorem adjustRefundTx_progress
    (env : MicrotransferEnv Hex)
    (contract : MicrotransferContract Hex)
    (ourSetupTxid : Option Txid)
    (theirSetupTxHex theirRefundTxHex : Hex)
    (received : Option (ReceivedTx Hex)) :
    ∃ sent recv ourDownload,
      (adjustRefundTx env contract ourSetupTxid theirSetupTxHex
        theirRefundTxHex received).state =
          contract.progress sent recv ourDownload := by
  let kept (after : MicrotransferContract Hex) : Prop :=
    ∃ sent recv ourDownload, after = contract.progress sent recv ourDownload
  have same : kept contract := ⟨_, _, _, rfl⟩
  apply Outcome.attempt_state (motive := kept) same
  intro sendChunkSize _
  apply Outcome.attempt_state (motive := kept) same
  intro recvChunkSize _
  cases received with
  | none =>
      obtain ⟨sent, recv, advanced⟩ :=
        advance_progress env contract ourSetupTxid sendChunkSize 0
      exact ⟨sent, recv, _, advanced⟩
  | some received =>
      apply Outcome.attempt_state (motive := kept) same
      intro checked _
      cases checked with
      | none => exact same
      | some download =>
          obtain ⟨sent, recv, advanced⟩ :=
            advance_progress env (contract.setDownload download) ourSetupTxid
              sendChunkSize recvChunkSize
          exact ⟨sent, recv, some download, advanced⟩

/-! ## Rejected payments -/

/-- Advancing never answers `None`. -/
theorem advance_ne_rejected
    (env : MicrotransferEnv Hex)
    (contract : MicrotransferContract Hex)
    (ourSetupTxid : Option Txid)
    (sendChunkSize recvChunkSize : C) :
    (advance env contract ourSetupTxid sendChunkSize recvChunkSize).result ≠
      .ok .rejected := by
  let answered (result : Except PyError (AdjustResult Hex)) : Prop :=
    result ≠ .ok .rejected
  have raised : ∀ error, answered (.error error) := by
    intro error impossible
    cases impossible
  refine Outcome.attempt_result (motive := answered) raised ?_
  intro refundAmount _
  refine Outcome.attempt_result (motive := answered) raised ?_
  intro refund _
  refine Outcome.attempt_result (motive := answered) raised ?_
  intro recv _
  simp only
  split
  · exact nofun
  refine Outcome.attempt_result (motive := answered) raised ?_
  intro firstSig _
  refine Outcome.attempt_result (motive := answered) raised ?_
  intro secondSig _
  exact nofun

/-- The stored payment plays no part in advancing. -/
theorem advance_setDownload_result
    (env : MicrotransferEnv Hex)
    (contract : MicrotransferContract Hex)
    (ourSetupTxid : Option Txid)
    (sendChunkSize recvChunkSize : C)
    (download : SignedTx Hex) :
    (advance env (contract.setDownload download) ourSetupTxid sendChunkSize
        recvChunkSize).result =
      (advance env contract ourSetupTxid sendChunkSize
        recvChunkSize).result := by
  have sameRefund (amount : C) :
      buildRefundTx env (contract.setDownload download) ourSetupTxid
          (some amount) =
        buildRefundTx env contract ourSetupTxid (some amount) := rfl
  have sameSent :
      (contract.setDownload download).trade.sent = contract.trade.sent := rfl
  unfold advance
  rw [sameSent]
  cases contract.trade.sent.add sendChunkSize with
  | error error => rfl
  | ok refundAmount =>
      simp only [Outcome.attempt_ok]
      rw [sameRefund]
      cases buildRefundTx env contract ourSetupTxid (some refundAmount) with
      | error error => rfl
      | ok refund =>
          simp only [Outcome.attempt_ok]
          have sameRecv :
              (((contract.setDownload download).setSent
                refundAmount)).trade.recv.add recvChunkSize =
              (contract.setSent refundAmount).trade.recv.add recvChunkSize :=
            rfl
          rw [sameRecv]
          cases (contract.setSent refundAmount).trade.recv.add
            recvChunkSize with
          | error error => rfl
          | ok recv =>
              simp only [Outcome.attempt_ok]
              split
              · rfl
              have sameKeys :
                  (((contract.setDownload download).setSent
                    refundAmount).setRecv recv).keys =
                  ((contract.setSent refundAmount).setRecv recv).keys := rfl
              rw [sameKeys]
              cases signRefundTx env
                ((contract.setSent refundAmount).setRecv recv).keys
                refund.txHex 1 .us with
              | error error => rfl
              | ok firstSig =>
                  cases signRefundTx env
                    ((contract.setSent refundAmount).setRecv recv).keys
                    refund.txHex 2 .us <;> rfl

section Received

variable {env : MicrotransferEnv Hex}
variable {contract : MicrotransferContract Hex} {ourSetupTxid : Option Txid}
variable {theirSetupTxHex theirRefundTxHex : Hex}
variable {received : ReceivedTx Hex}

/-- A call that answers `None` changes nothing. -/
theorem adjustRefundTx_rejected_state
    (rejected : (adjustRefundTx env contract ourSetupTxid theirSetupTxHex
      theirRefundTxHex (some received)).result = .ok .rejected) :
    (adjustRefundTx env contract ourSetupTxid theirSetupTxHex theirRefundTxHex
      (some received)).state = contract := by
  revert rejected
  unfold adjustRefundTx
  cases chunkSize contract.uploadAmount contract.trade.sent
    contract.ourChunkSize with
  | error error => exact fun _ => rfl
  | ok sendChunkSize =>
      cases chunkSize contract.downloadAmount contract.trade.recv
        contract.theirChunkSize with
      | error error => exact fun _ => rfl
      | ok recvChunkSize =>
          simp only [Outcome.attempt_ok]
          cases checkReceived env contract recvChunkSize theirSetupTxHex
            theirRefundTxHex received with
          | error error => exact fun _ => rfl
          | ok checked =>
              cases checked with
              | none => exact fun _ => rfl
              | some download =>
                  intro rejected
                  exact absurd rejected (advance_ne_rejected _ _ _ _ _)

/-- When one payment is answered, a call with another one that raises changes
nothing: only the checks can have raised. -/
theorem adjustRefundTx_raised_state
    {other : ReceivedTx Hex}
    {result : AdjustResult Hex}
    {error : PyError}
    (answered : (adjustRefundTx env contract ourSetupTxid theirSetupTxHex
      theirRefundTxHex (some other)).result = .ok result)
    (notRejected : result ≠ .rejected)
    (raised : (adjustRefundTx env contract ourSetupTxid theirSetupTxHex
      theirRefundTxHex (some received)).result = .error error) :
    (adjustRefundTx env contract ourSetupTxid theirSetupTxHex theirRefundTxHex
      (some received)).state = contract := by
  revert answered raised
  unfold adjustRefundTx
  cases chunkSize contract.uploadAmount contract.trade.sent
    contract.ourChunkSize with
  | error error => exact fun _ _ => rfl
  | ok sendChunkSize =>
      cases chunkSize contract.downloadAmount contract.trade.recv
        contract.theirChunkSize with
      | error error => exact fun _ _ => rfl
      | ok recvChunkSize =>
          simp only [Outcome.attempt_ok]
          cases checkReceived env contract recvChunkSize theirSetupTxHex
            theirRefundTxHex received with
          | error error => exact fun _ _ => rfl
          | ok checked =>
              cases checked with
              | none => exact fun _ _ => rfl
              | some download =>
                  intro answered raised
                  simp only [Outcome.attempt_ok,
                    advance_setDownload_result] at raised
                  cases otherChecked : checkReceived env contract recvChunkSize
                    theirSetupTxHex theirRefundTxHex other with
                  | error error =>
                      rw [otherChecked] at answered
                      cases answered
                  | ok otherTx =>
                      rw [otherChecked] at answered
                      cases otherTx with
                      | none =>
                          cases answered
                          exact absurd rfl notRejected
                      | some otherDownload =>
                          simp only [Outcome.attempt_ok,
                            advance_setDownload_result] at answered
                          rw [answered] at raised
                          cases raised

end Received

/-- The effect of one call of `adjust_refund_tx` on a contract that is within
its amounts. -/
inductive AdjustStep
    (env : MicrotransferEnv Hex)
    (contract : MicrotransferContract Hex) :
    Option (ReceivedTx Hex) → MicrotransferContract Hex → Prop
  /-- Rejected, or raised before anything was stored. -/
  | unchanged (received : Option (ReceivedTx Hex)) :
      AdjustStep env contract received contract
  /-- The payment was stored, but building the reply raised. -/
  | stored
      (received : ReceivedTx Hex)
      (download : SignedTx Hex)
      (pays : PaysUs env contract download contract.trade.recv.satoshi) :
      AdjustStep env contract (some received)
        (contract.progress contract.trade.sent contract.trade.recv
          (some download))
  /-- The initiating call paid a chunk. -/
  | initiated
      (sent : C)
      (sent_val : sent.val = contract.trade.sent.val +
        Saturation.growth contract.uploadAmount.val
          contract.ourChunkSize.val contract.trade.sent.val) :
      AdjustStep env contract none
        (contract.progress sent contract.trade.recv contract.ourDownload)
  /-- A payment was counted and the next chunk paid. -/
  | exchanged
      (received : ReceivedTx Hex)
      (sent recv : C)
      (download : SignedTx Hex)
      (sent_val : sent.val = contract.trade.sent.val +
        Saturation.growth contract.uploadAmount.val
          contract.ourChunkSize.val contract.trade.sent.val)
      (recv_val : recv.val = contract.trade.recv.val +
        Saturation.growth contract.downloadAmount.val
          contract.theirChunkSize.val contract.trade.recv.val)
      (pays : PaysUs env contract download recv.satoshi) :
      AdjustStep env contract (some received)
        (contract.progress sent recv (some download))

/-- Advancing moves both counters or neither. -/
theorem advance_state
    (env : MicrotransferEnv Hex)
    (contract : MicrotransferContract Hex)
    (ourSetupTxid : Option Txid)
    {sendChunkSize recvChunkSize sent recv : C}
    (sent_sum : contract.trade.sent.add sendChunkSize = .ok sent)
    (recv_sum : contract.trade.recv.add recvChunkSize = .ok recv) :
    (advance env contract ourSetupTxid sendChunkSize recvChunkSize).state =
        contract ∨
      (advance env contract ourSetupTxid sendChunkSize recvChunkSize).state =
        contract.progress sent recv contract.ourDownload := by
  rw [advance, sent_sum, Outcome.attempt_ok]
  cases buildRefundTx env contract ourSetupTxid (some sent) with
  | error error => exact Or.inl rfl
  | ok refund =>
      right
      have recv_sum' :
          (contract.setSent sent).trade.recv.add recvChunkSize = .ok recv :=
        recv_sum
      simp only [Outcome.attempt_ok, recv_sum']
      split
      · rfl
      · cases signRefundTx env ((contract.setSent sent).setRecv recv).keys
          refund.txHex 1 .us with
        | error error => rfl
        | ok firstSig =>
            cases signRefundTx env ((contract.setSent sent).setRecv recv).keys
              refund.txHex 2 .us <;> rfl

section NegativeError

variable (env : MicrotransferEnv Hex)

theorem checkReceived_ne_negativeError
    (contract : MicrotransferContract Hex)
    (recvChunkSize : C)
    (theirSetupTxHex theirRefundTxHex : Hex)
    (received : ReceivedTx Hex) :
    checkReceived env contract recvChunkSize theirSetupTxHex theirRefundTxHex
      received ≠ .error C.negativeError := by
  apply Except.bind_ne_error (Except.ofOption_ne_error _ (by decide))
  intro _ _
  apply Except.bind_ne_error (Except.ofOption_ne_error _ (by decide))
  intro _ _
  apply Except.ite_pure_ne_error
  apply Except.bind_ne_error (Except.ofOption_ne_error _ (by decide))
  intro _ _
  apply Except.bind_ne_error (C.add_ne_negativeError _ _)
  intro _ _
  apply Except.bind_ne_error (Except.ofOption_ne_error _ (by decide))
  intro _ _
  apply Except.bind_ne_error (Except.raiseIf_ne_error _ (by decide))
  intro _ _
  apply Except.bind_ne_error (addressScript_ne_negativeError env _)
  intro _ _
  apply Except.ite_pure_ne_error
  apply Except.ite_pure_ne_error
  apply Except.ite_pure_ne_error
  apply Except.ite_pure_ne_error
  apply Except.bind_ne_error (signRefundTx_ne_negativeError env _ _ _ _)
  intro _ _
  apply Except.bind_ne_error
    (checkRefundWorks_ne_negativeError env _ _ _ _ _ _)
  intro _ _
  exact Except.ok_ne_error

theorem advance_ne_negativeError
    {contract : MicrotransferContract Hex}
    {sendChunkSize : C}
    (ourSetupTxid : Option Txid)
    (recvChunkSize : C)
    (bounded : contract.trade.sent.val + sendChunkSize.val ≤
      contract.uploadAmount.val) :
    (advance env contract ourSetupTxid sendChunkSize recvChunkSize).result ≠
      .error C.negativeError := by
  apply Outcome.attempt_result_ne (C.add_ne_negativeError _ _)
  intro refundAmount sum
  apply Outcome.attempt_result_ne
  · apply buildRefundTx_ne_negativeError
    rintro amount ⟨⟩
    rw [C.val_add sum]
    exact bounded
  intro refund _
  apply Outcome.attempt_result_ne (C.add_ne_negativeError _ _)
  intro recv _
  split
  · exact Except.ok_ne_error
  apply Outcome.attempt_result_ne (signRefundTx_ne_negativeError env _ _ _ _)
  intro _ _
  apply Outcome.attempt_result_ne (signRefundTx_ne_negativeError env _ _ _ _)
  intro _ _
  exact Except.ok_ne_error

/-- On a contract within its amounts no subtraction goes below zero. -/
theorem adjustRefundTx_ne_negativeError
    {contract : MicrotransferContract Hex}
    (ourSetupTxid : Option Txid)
    (theirSetupTxHex theirRefundTxHex : Hex)
    (received : Option (ReceivedTx Hex))
    (sent_le : contract.trade.sent.val ≤ contract.uploadAmount.val)
    (recv_le : contract.trade.recv.val ≤ contract.downloadAmount.val) :
    (adjustRefundTx env contract ourSetupTxid theirSetupTxHex
      theirRefundTxHex received).result ≠ .error C.negativeError := by
  obtain ⟨sendChunk, sendFound, sendValue⟩ :=
    chunkSize_of_le contract.ourChunkSize sent_le
  obtain ⟨recvChunk, recvFound, _⟩ :=
    chunkSize_of_le contract.theirChunkSize recv_le
  have sent_bound := Saturation.add_growth_le_cap
    contract.ourChunkSize.val sent_le
  rw [← sendValue] at sent_bound
  rw [adjustRefundTx, sendFound, recvFound, Outcome.attempt_ok,
    Outcome.attempt_ok]
  cases received with
  | none => exact advance_ne_negativeError env _ _ sent_bound
  | some received =>
      apply Outcome.attempt_result_ne
        (checkReceived_ne_negativeError env _ _ _ _ _)
      intro checked _
      cases checked with
      | none => exact Except.ok_ne_error
      | some download => exact advance_ne_negativeError env _ _ sent_bound

end NegativeError

/-- Every call on a contract within its amounts is one of the four steps. -/
theorem adjustRefundTx_step
    (env : MicrotransferEnv Hex)
    {contract : MicrotransferContract Hex}
    (ourSetupTxid : Option Txid)
    (theirSetupTxHex theirRefundTxHex : Hex)
    (received : Option (ReceivedTx Hex))
    (sent_le : contract.trade.sent.val ≤ contract.uploadAmount.val)
    (recv_le : contract.trade.recv.val ≤ contract.downloadAmount.val) :
    AdjustStep env contract received
      (adjustRefundTx env contract ourSetupTxid theirSetupTxHex
        theirRefundTxHex received).state := by
  obtain ⟨sendChunk, sendFound, sendValue⟩ :=
    chunkSize_of_le contract.ourChunkSize sent_le
  obtain ⟨recvChunk, recvFound, recvValue⟩ :=
    chunkSize_of_le contract.theirChunkSize recv_le
  have sent_bound := Saturation.add_growth_le_cap
    contract.ourChunkSize.val sent_le
  have recv_bound := Saturation.add_growth_le_cap
    contract.theirChunkSize.val recv_le
  rw [← sendValue] at sent_bound
  rw [← recvValue] at recv_bound
  obtain ⟨sent, sentSum, sentValue⟩ := C.add_of_le sent_bound
  obtain ⟨recv, recvSum, recvNext⟩ := C.add_of_le recv_bound
  rw [sendValue] at sentValue
  rw [recvValue] at recvNext
  rw [adjustRefundTx, sendFound, recvFound, Outcome.attempt_ok,
    Outcome.attempt_ok]
  cases received with
  | none =>
      rcases advance_state env contract ourSetupTxid sentSum
        (C.add_zero contract.trade.recv) with failed | moved
      · simp only [failed]
        exact AdjustStep.unchanged none
      · simp only [moved]
        exact AdjustStep.initiated sent sentValue
  | some received =>
      simp only
      cases checked : checkReceived env contract recvChunk theirSetupTxHex
        theirRefundTxHex received with
      | error error => exact AdjustStep.unchanged _
      | ok outcome =>
          cases outcome with
          | none => exact AdjustStep.unchanged _
          | some download =>
              obtain ⟨expected, sum, pays⟩ := paysUs_of_checkReceived checked
              have expected_eq : expected = recv := by
                rw [recvSum] at sum
                exact (Except.ok.inj sum).symm
              rw [expected_eq] at pays
              rcases advance_state env (contract.setDownload download)
                ourSetupTxid sentSum recvSum with failed | moved
              · simp only [Outcome.attempt_ok, failed]
                apply AdjustStep.stored received download
                obtain ⟨tx, parsed, output, isOutput, isOurs, enough⟩ := pays
                have le : contract.trade.recv.satoshi ≤ recv.satoshi :=
                  C.satoshi_mono (by omega)
                exact ⟨tx, parsed, output, isOutput, isOurs, by omega⟩
              · simp only [Outcome.attempt_ok, moved]
                exact AdjustStep.exchanged received sent recv download
                  sentValue recvNext pays

end MicrotransferContract
end Coinbend
