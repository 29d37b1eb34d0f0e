import Mathlib.Logic.Basic

/-!
# Match states

The states of a match and the transitions between them: `state_machine` of
`match_state.py`.  A new match has no state.
-/

namespace Coinbend

inductive ProtocolState
  | pendingCalibration
  | pendingHandshake
  | pendingContract
  | pendingBuyerSetupTxConfirm
  | pendingBuyerReturnRefundSig
  | pendingSellerGetRefundSig
  | sellerSentGetRefundSig
  | pendingBuyerGetRefundSig
  | buyerSentGetRefundSig
  | pendingSellerReturnRefundSig
  | pendingSellerGetSetupTx
  | sellerSentGetSetupTx
  | pendingBuyerReturnSetupTx
  | pendingBuyerGetSetupTx
  | buyerSentGetSetupTx
  | pendingSellerReturnSetupTx
  | sellerInitiateMicrotransfer
  | buyerAcceptMicrotransfer
  | sellerAcceptMicrotransfer
  | pendingMicrotransferComplete
  | pendingMicrotransferConfirm
  | microtransferComplete
  deriving DecidableEq, Repr

namespace ProtocolState

/-- The states `state_machine` enters a state from, `none` standing for a new
match. -/
def sources : ProtocolState → List (Option ProtocolState)
  | pendingCalibration => [none]
  | pendingHandshake => [none, some pendingCalibration]
  | pendingContract => [some pendingHandshake]
  | pendingBuyerSetupTxConfirm => [some pendingContract]
  | pendingBuyerReturnRefundSig =>
      [some pendingContract, some pendingBuyerSetupTxConfirm]
  | pendingSellerGetRefundSig => [some pendingContract]
  | sellerSentGetRefundSig => [some pendingSellerGetRefundSig]
  | pendingBuyerGetRefundSig => [some pendingBuyerReturnRefundSig]
  | buyerSentGetRefundSig => [some pendingBuyerGetRefundSig]
  | pendingSellerReturnRefundSig => [some sellerSentGetRefundSig]
  | pendingSellerGetSetupTx => [some pendingSellerReturnRefundSig]
  | sellerSentGetSetupTx => [some pendingSellerGetSetupTx]
  | pendingBuyerReturnSetupTx => [some buyerSentGetRefundSig]
  | pendingBuyerGetSetupTx => [some pendingBuyerReturnSetupTx]
  | buyerSentGetSetupTx => [some pendingBuyerGetSetupTx]
  | pendingSellerReturnSetupTx => [some sellerSentGetSetupTx]
  | sellerInitiateMicrotransfer => [some pendingSellerReturnSetupTx]
  | buyerAcceptMicrotransfer => [some buyerSentGetSetupTx]
  | sellerAcceptMicrotransfer => [some sellerInitiateMicrotransfer]
  | pendingMicrotransferComplete =>
      [some buyerAcceptMicrotransfer, some sellerAcceptMicrotransfer]
  | pendingMicrotransferConfirm => [some pendingMicrotransferComplete]
  | microtransferComplete =>
      [some pendingMicrotransferConfirm, some pendingMicrotransferComplete]

end ProtocolState

/-- `state_machine`: a match may stay in its state or enter the next one. -/
def stateMachine (current : Option ProtocolState) (state : ProtocolState) :
    Bool :=
  current = some state ∨ current ∈ state.sources

theorem stateMachine_iff
    (current : Option ProtocolState)
    (state : ProtocolState) :
    stateMachine current state = true ↔
      current = some state ∨ current ∈ state.sources := by
  simp [stateMachine]

end Coinbend
