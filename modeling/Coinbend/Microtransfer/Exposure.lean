import Coinbend.Library.Machine
import Coinbend.Microtransfer.Credit

/-!
# Bounded exposure

Over any sequence of calls of `adjust_refund_tx`, sent and received amounts
are saturating counters, a chunk is paid only for a chunk received or for an
initiating call, and the stored payment covers what was counted as received.
-/

namespace Coinbend

/-- The arguments of one call of `adjust_refund_tx`. -/
structure AdjustCall (Hex : Type) where
  ourSetupTxid : Option Txid
  theirSetupTxHex : Hex
  theirRefundTxHex : Hex
  received : Option (ReceivedTx Hex)

namespace AdjustCall

variable {Hex : Type}

def apply
    (env : MicrotransferEnv Hex)
    (contract : MicrotransferContract Hex)
    (call : AdjustCall Hex) :
    Outcome (MicrotransferContract Hex) PyError (AdjustResult Hex) :=
  contract.adjustRefundTx env call.ourSetupTxid call.theirSetupTxHex
    call.theirRefundTxHex call.received

/-- The contract after a sequence of calls. -/
def applyAll
    (env : MicrotransferEnv Hex)
    (contract : MicrotransferContract Hex)
    (calls : List (AdjustCall Hex)) : MicrotransferContract Hex :=
  Machine.run (fun contract call => (call.apply env contract).state) contract
    calls

/-- Number of calls without a received payment: one for the initiator of the
exchange, none for the other side. -/
def initiations (calls : List (AdjustCall Hex)) : Nat :=
  calls.countP fun call => call.received.isNone

end AdjustCall

namespace MicrotransferContract

variable {Hex : Type}

/-- What holds of a contract reached from `start` with a number of initiating
calls. -/
structure Exposure
    (env : MicrotransferEnv Hex)
    (start : MicrotransferContract Hex)
    (initiations : Nat)
    (reached : MicrotransferContract Hex) : Prop where
  progressed : reached =
    start.progress reached.trade.sent reached.trade.recv reached.ourDownload
  /-- Both counters are at a level, and every chunk sent but the initiating
  ones answers a chunk received. -/
  levels : ∃ k j,
    reached.trade.sent.val =
      Saturation.level start.uploadAmount.val start.ourChunkSize.val k ∧
    reached.trade.recv.val =
      Saturation.level start.downloadAmount.val start.theirChunkSize.val j ∧
    k ≤ j + initiations
  paid : 0 < reached.trade.recv.val →
    ∃ download, reached.ourDownload = some download ∧
      PaysUs env start download reached.trade.recv.satoshi

namespace Exposure

variable
  {env : MicrotransferEnv Hex}
  {start reached : MicrotransferContract Hex}
  {initiations : Nat}

theorem initial
    (sent_zero : start.trade.sent = 0)
    (recv_zero : start.trade.recv = 0) :
    Exposure env start 0 start where
  progressed := rfl
  levels := by
    refine ⟨0, 0, ?_, ?_, le_rfl⟩
    · rw [sent_zero, C.val_zero, Saturation.level_zero]
    · rw [recv_zero, C.val_zero, Saturation.level_zero]
  paid := by
    intro positive
    rw [recv_zero, C.val_zero] at positive
    exact absurd positive (lt_irrefl 0)

theorem sent_le (exposure : Exposure env start initiations reached) :
    reached.trade.sent.val ≤ start.uploadAmount.val := by
  obtain ⟨k, j, sent, _, _⟩ := exposure.levels
  rw [sent]
  exact Saturation.level_le_cap _ _ _

theorem recv_le (exposure : Exposure env start initiations reached) :
    reached.trade.recv.val ≤ start.downloadAmount.val := by
  obtain ⟨k, j, _, recv, _⟩ := exposure.levels
  rw [recv]
  exact Saturation.level_le_cap _ _ _

theorem mono
    {more : Nat}
    (exposure : Exposure env start initiations reached)
    (le : initiations ≤ more) :
    Exposure env start more reached where
  progressed := exposure.progressed
  levels := by
    obtain ⟨k, j, sent, recv, bound⟩ := exposure.levels
    exact ⟨k, j, sent, recv, by omega⟩
  paid := exposure.paid

/-- A call keeps the bounds; one without a received payment counts as an
initiation. -/
theorem step
    {received : Option (ReceivedTx Hex)}
    {next : MicrotransferContract Hex}
    (exposure : Exposure env start initiations reached)
    (call : AdjustStep env reached received next) :
    Exposure env start
      (initiations + if received.isNone then 1 else 0) next := by
  have shape := exposure.progressed
  have upload : reached.uploadAmount = start.uploadAmount := by rw [shape]; rfl
  have download : reached.downloadAmount = start.downloadAmount := by
    rw [shape]; rfl
  have ourChunk : reached.ourChunkSize = start.ourChunkSize := by
    rw [shape]; rfl
  have theirChunk : reached.theirChunkSize = start.theirChunkSize := by
    rw [shape]; rfl
  have ourAddress : reached.ourAddress = start.ourAddress := by rw [shape]; rfl
  obtain ⟨k, j, sent, recv, bound⟩ := exposure.levels
  cases call with
  | unchanged received => exact exposure.mono (Nat.le_add_right _ _)
  | stored received payment pays =>
      rw [PaysUs, ourAddress] at pays
      exact {
        progressed := by rw [shape]; rfl
        levels := ⟨k, j, sent, recv, bound⟩
        paid := fun _ => ⟨payment, rfl, pays⟩ }
  | initiated next sent_val =>
      rw [upload, ourChunk, sent, Saturation.level_add_growth] at sent_val
      exact {
        progressed := by rw [shape]; rfl
        levels := ⟨k + 1, j, sent_val, recv, by simp; omega⟩
        paid := exposure.paid }
  | exchanged received nextSent nextRecv payment sent_val recv_val pays =>
      rw [upload, ourChunk, sent, Saturation.level_add_growth] at sent_val
      rw [download, theirChunk, recv, Saturation.level_add_growth] at recv_val
      rw [PaysUs, ourAddress] at pays
      exact {
        progressed := by rw [shape]; rfl
        levels := ⟨k + 1, j + 1, sent_val, recv_val, by simp; omega⟩
        paid := fun _ => ⟨payment, rfl, pays⟩ }

/-- A sequence of calls keeps the bounds. -/
theorem applyAll
    (exposure : Exposure env start initiations reached)
    (calls : List (AdjustCall Hex)) :
    Exposure env start (initiations + AdjustCall.initiations calls)
      (AdjustCall.applyAll env reached calls) := by
  induction calls generalizing reached initiations with
  | nil => exact exposure
  | cons call calls inductionHypothesis =>
      have upload : start.uploadAmount = reached.uploadAmount := by
        rw [exposure.progressed]; rfl
      have download : start.downloadAmount = reached.downloadAmount := by
        rw [exposure.progressed]; rfl
      have sent_le := exposure.sent_le
      have recv_le := exposure.recv_le
      rw [upload] at sent_le
      rw [download] at recv_le
      have next := exposure.step
        (adjustRefundTx_step env call.ourSetupTxid call.theirSetupTxHex
          call.theirRefundTxHex call.received sent_le recv_le)
      have rest := inductionHypothesis next
      rw [AdjustCall.initiations, List.countP_cons]
      rw [AdjustCall.initiations, Nat.add_assoc, Nat.add_comm (ite _ _ _)]
        at rest
      exact rest

end Exposure

/-- The initiating call of the sample contract. -/
def sampleInitiate : AdjustCall CTransaction where
  ourSetupTxid := some "tx:deposit"
  theirSetupTxHex := ⟨1, [], [], 0⟩
  theirRefundTxHex := ⟨1, [], [], 0⟩
  received := none

/-- The next call, which answers the buyer's first payment. -/
def sampleExchange : AdjustCall CTransaction where
  ourSetupTxid := some "tx:deposit"
  theirSetupTxHex := sampleSetupTx
  theirRefundTxHex := samplePayment 1
  received := some (samplePaymentCall 1).received

end MicrotransferContract
end Coinbend
