import Coinbend.Protocol.MainLoop

/-!
# Forged messages

What a message does whose signature does not verify under the counterparty's
first public key.  Four handlers check it before they change anything;
`parse_get_setup_tx` moves the match first and `parse_shake_on_it` stores the
connection first.  A line that the expression of its handler does not find
changes nothing.
-/

namespace Coinbend

variable {Hex : Type}

namespace Node

/-- A change that writes what is there already does nothing. -/
theorem modifyMatch_eq_self
    {node : Node Hex}
    {matched : MatchRef}
    {change : MatchState Hex → MatchState Hex}
    (same : change (node.matchState matched) = node.matchState matched) :
    node.modifyMatch matched change = node := by
  rw [modifyMatch, same, Function.update_eq_self]

/-- Two nodes agree on the protocol state: matches, contracts and what the
contract factories hold. -/
structure ProtocolUnchanged (before after : Node Hex) : Prop where
  state : ∀ matched,
    (after.matchState matched).state = (before.matchState matched).state
  stateUpdated : ∀ matched, (after.matchState matched).stateUpdated =
    (before.matchState matched).stateUpdated
  con : ∀ matched,
    (after.matchState matched).con = (before.matchState matched).con
  contracts : ∀ trade,
    (after.factory trade).contracts = (before.factory trade).contracts
  setup : ∀ trade, (after.factory trade).setup = (before.factory trade).setup
  refund : ∀ trade, (after.factory trade).refund = (before.factory trade).refund
  setups : ∀ trade, (after.factory trade).setups = (before.factory trade).setups
  refunds : ∀ trade,
    (after.factory trade).refunds = (before.factory trade).refunds
  setupTxids : ∀ trade,
    (after.factory trade).setupTxids = (before.factory trade).setupTxids

theorem ProtocolUnchanged.refl (node : Node Hex) :
    node.ProtocolUnchanged node := by
  constructor <;> exact fun _ => rfl

end Node

namespace Protocol

variable (env : ProtocolEnv Hex)

/-- The signature of a message does not verify under the first public key of
the counterparty of its contract. -/
def Forged (node : Node Hex) (msg : Message Hex) : Prop :=
  match msg.payload with
  | .shakeOnIt contractHash =>
      ∀ found ∈ node.findMatchState contractHash,
      ∀ reply ∈ (node.matchState found.2).matchReply,
        env.ecdsa.validSignature reply.ecdsa1 msg.sig msg.text = false
  | payload =>
      ∀ found ∈ node.findContract payload.contractHash,
        sentByThem env found.2 msg = false

/-- A forged message that does not reach a change: one that the expression of
its handler does not find, a `shake_on_it` whose match does not wait for its
contract or has the connection already, or a `get_setup_tx` the state machine
refuses or whose state was entered at the same time. -/
def ForgeryInert
    (node : Node Hex)
    (arrival : Arrival)
    (msg : Message Hex) : Prop :=
  isRead env arrival msg = true →
  match msg.payload with
  | .shakeOnIt contractHash =>
      ∀ found ∈ node.findMatchState contractHash,
        stateMachine (node.matchState found.2).state .pendingContract = true →
        (node.matchState found.2).con = some arrival.con
  | .getSetupTx contractHash _ =>
      ∀ found ∈ node.findContract contractHash,
        let matched := node.matchState found.2.matched
        let state := getSetupTxState (node.actor found.1)
        stateMachine matched.state state = true →
        matched.state = some state ∧ matched.stateUpdated = some arrival.now
  | _ => True

variable {env} {node : Node Hex} {arrival : Arrival} {msg : Message Hex}

@[simp] theorem understand_silent (con : Con) (node : Node Hex) :
    understand con (Outcome.pure node []) = node := rfl

/-! ## Handlers that check first -/

theorem parseGetRefundSig_forged
    {contractHash : ContractHash}
    {refundTxHex : Hex}
    (forged : ∀ found ∈ node.findContract contractHash,
      sentByThem env found.2 msg = false) :
    parseGetRefundSig env node arrival msg contractHash refundTxHex =
      Outcome.pure node [] := by
  unfold parseGetRefundSig
  split
  · rfl
  next trade contract found =>
    rw [if_pos (forged (trade, contract) found)]

theorem parseReturnRefundSig_forged
    {contractHash : ContractHash}
    {theirSig : Option Sig}
    (forged : ∀ found ∈ node.findContract contractHash,
      sentByThem env found.2 msg = false) :
    understand arrival.con
        (parseReturnRefundSig env node arrival msg contractHash theirSig) =
      node := by
  unfold parseReturnRefundSig
  cases theirSig with
  | none => rfl
  | some theirSig =>
      rw [Except.ofOption, Outcome.attempt_ok]
      split
      · rfl
      next trade contract found =>
        rw [if_pos (forged (trade, contract) found)]
        rfl

theorem parseReturnSetupTx_forged
    {contractHash : ContractHash}
    {setupTxHex : Option Hex}
    {collateralInfo : List (Option CollateralInfo)}
    (forged : ∀ found ∈ node.findContract contractHash,
      sentByThem env found.2 msg = false) :
    parseReturnSetupTx env node arrival msg contractHash setupTxHex
        collateralInfo =
      Outcome.pure node [] := by
  unfold parseReturnSetupTx
  split
  · rfl
  next trade contract found =>
    rw [if_pos (forged (trade, contract) found)]

theorem parseReturnAdjustedRefund_forged
    {contractHash : ContractHash}
    {refundTx : Hex}
    {refundSig1 refundSig2 : Option Sig}
    (forged : ∀ found ∈ node.findContract contractHash,
      sentByThem env found.2 msg = false) :
    understand arrival.con
        (parseReturnAdjustedRefund env node arrival msg contractHash refundTx
          refundSig1 refundSig2) =
      node := by
  unfold parseReturnAdjustedRefund
  cases refundSig1 with
  | none => rfl
  | some refundSig1 =>
      cases refundSig2 with
      | none => rfl
      | some refundSig2 =>
          simp only [Except.ofOption, Outcome.attempt_ok]
          split
          · rfl
          next trade contract found =>
            split
            · rfl
            · rw [if_pos (forged (trade, contract) found)]
              rfl

/-! ## Handlers that check late -/

/-- A forged `get_setup_tx` moves the match when the state machine allows
it. -/
theorem parseGetSetupTx_forged
    {contractHash : ContractHash}
    (forged : ∀ found ∈ node.findContract contractHash,
      sentByThem env found.2 msg = false) :
    parseGetSetupTx env node arrival msg contractHash =
      match node.findContract contractHash with
      | none => Outcome.pure node []
      | some (trade, contract) =>
          Outcome.pure
            (node.updateState contract.matched
              (getSetupTxState (node.actor trade)) arrival.now).1 [] := by
  unfold parseGetSetupTx
  cases found : node.findContract contractHash with
  | none => rfl
  | some pair =>
      obtain ⟨trade, contract⟩ := pair
      simp only
      split
      next after updated => rw [updated]
      next after updated =>
        rw [if_pos (forged (trade, contract) found), updated]

/-- A forged `shake_on_it` goes no further than the stored connection. -/
theorem shakeOnMatch_forged
    {matched : MatchRef}
    (forged : ∀ reply ∈ (node.matchState matched).matchReply,
      env.ecdsa.validSignature reply.ecdsa1 msg.sig msg.text = false)
    (rpc : CoinRpc)
    (instanceId : String)
    (trade : TradeRef) :
    understand arrival.con
        (shakeOnMatch env rpc instanceId node arrival msg trade matched) =
      node := by
  simp only [shakeOnMatch]
  cases replied : (node.matchState matched).matchReply with
  | none => rfl
  | some reply =>
      simp only [Except.ofOption, Outcome.attempt_ok]
      rw [if_pos (forged reply replied)]
      rfl

/-- What a forged `shake_on_it` does. -/
theorem parseShakeOnIt_forged
    {contractHash : ContractHash}
    (forged : ∀ found ∈ node.findMatchState contractHash,
      ∀ reply ∈ (node.matchState found.2).matchReply,
        env.ecdsa.validSignature reply.ecdsa1 msg.sig msg.text = false)
    (rpc : CoinRpc)
    (instanceId : String) :
    understand arrival.con
        (parseShakeOnIt env rpc instanceId node arrival msg contractHash) =
      match node.findMatchState contractHash with
      | none => node
      | some (_, matched) =>
          if stateMachine (node.matchState matched).state .pendingContract then
            node.modifyMatch matched fun found =>
              { found with con := some arrival.con }
          else node := by
  unfold parseShakeOnIt
  cases found : node.findMatchState contractHash with
  | none => rfl
  | some pair =>
      obtain ⟨trade, matched⟩ := pair
      simp only
      by_cases allowed : stateMachine (node.matchState matched).state
          .pendingContract = true
      · simp only [allowed, Bool.true_eq_false, if_false, if_true]
        apply shakeOnMatch_forged
        rw [Node.modifyMatch_same]
        exact forged (trade, matched) found
      · simp only [Bool.not_eq_true] at allowed
        simp only [allowed, if_true, Bool.false_eq_true, if_false,
          understand_silent]

/-! ## Unchanged exactly when inert -/

/-- An inert forged message leaves the whole node as it is. -/
theorem handleMsg_inert
    (forged : Forged env node msg)
    (inert : ForgeryInert env node arrival msg)
    (rpc : CoinRpc)
    (instanceId : String) :
    handleMsg env rpc instanceId node arrival msg = node := by
  by_cases read : isRead env arrival msg = true
  swap
  · rw [handleMsg_of_unread read]
  rw [handleMsg_of_read read]
  replace inert := inert read
  unfold Forged at forged
  unfold handlePayload
  cases payload : msg.payload with
  | shakeOnIt contractHash =>
      rw [payload] at forged inert
      simp only
      rw [parseShakeOnIt_forged forged]
      split
      · rfl
      next trade matched found =>
        split
        next allowed =>
          apply Node.modifyMatch_eq_self
          rw [← inert (trade, matched) found allowed]
        · rfl
  | getRefundSig contractHash refundTxHex =>
      rw [payload] at forged
      simp only [Payload.contractHash] at forged ⊢
      rw [parseGetRefundSig_forged forged, understand_silent]
  | returnRefundSig contractHash refundSig =>
      rw [payload] at forged
      simp only [Payload.contractHash] at forged
      exact parseReturnRefundSig_forged forged
  | getSetupTx contractHash setupTxid =>
      rw [payload] at forged inert
      simp only [Payload.contractHash] at forged ⊢
      rw [parseGetSetupTx_forged forged]
      split
      · rfl
      next trade contract found =>
        by_cases allowed : stateMachine
            (node.matchState contract.matched).state
            (getSetupTxState (node.actor trade)) = true
        · obtain ⟨state, updated⟩ := inert (trade, contract) found allowed
          rw [Node.updateState_of_allowed _ allowed, understand_silent]
          simp only at state updated ⊢
          rw [Node.modifyMatch_eq_self]
          rw [Node.MatchState.enter, ← state, ← updated]
        · rw [Node.updateState_of_not_allowed _ allowed, understand_silent]
  | returnSetupTx contractHash setupTxHex collateralInfo =>
      rw [payload] at forged
      simp only [Payload.contractHash] at forged ⊢
      rw [parseReturnSetupTx_forged forged, understand_silent]
  | returnAdjustedRefund contractHash refundTx refundSig1 refundSig2 =>
      rw [payload] at forged
      simp only [Payload.contractHash] at forged
      exact parseReturnAdjustedRefund_forged forged

/-- A forged message that leaves the protocol state as it is was inert. -/
theorem inert_of_unchanged
    (forged : Forged env node msg)
    {rpc : CoinRpc}
    {instanceId : String}
    (unchanged : node.ProtocolUnchanged
      (handleMsg env rpc instanceId node arrival msg)) :
    ForgeryInert env node arrival msg := by
  intro read
  rw [handleMsg_of_read read] at unchanged
  unfold Forged at forged
  unfold handlePayload at unchanged
  cases payload : msg.payload with
  | shakeOnIt contractHash =>
      rw [payload] at forged unchanged
      simp only at unchanged
      rw [parseShakeOnIt_forged forged] at unchanged
      rintro ⟨trade, matched⟩ found allowed
      rw [show node.findMatchState contractHash = some (trade, matched) from
        found] at unchanged
      simp only [allowed, if_true] at unchanged
      have sameCon := unchanged.con matched
      rw [Node.modifyMatch_same] at sameCon
      exact sameCon.symm
  | getSetupTx contractHash setupTxid =>
      rw [payload] at forged unchanged
      simp only [Payload.contractHash] at forged unchanged
      rw [parseGetSetupTx_forged forged] at unchanged
      rintro ⟨trade, contract⟩ found
      rw [show node.findContract contractHash = some (trade, contract) from
        found] at unchanged
      simp only at unchanged ⊢
      intro allowed
      rw [Node.updateState_of_allowed _ allowed, understand_silent]
        at unchanged
      have sameState := unchanged.state contract.matched
      have sameUpdated := unchanged.stateUpdated contract.matched
      rw [Node.modifyMatch_same] at sameState sameUpdated
      exact ⟨sameState.symm, sameUpdated.symm⟩
  | getRefundSig contractHash refundTxHex => trivial
  | returnRefundSig contractHash refundSig => trivial
  | returnSetupTx contractHash setupTxHex collateralInfo => trivial
  | returnAdjustedRefund contractHash refundTx refundSig1 refundSig2 => trivial

/-- An event that brings an inert forged message. -/
def InertForgery
    (env : ProtocolEnv Hex)
    (node : Node Hex)
    (event : Event Hex) : Prop :=
  match event with
  | .message arrival msg _ _ =>
      Forged env node msg ∧ ForgeryInert env node arrival msg
  | _ => False

theorem step_inertForgery
    (node : Node Hex)
    (event : Event Hex)
    (inert : InertForgery env node event) :
    step env node event = node := by
  unfold step
  split
  · rfl
  · cases event with
    | message arrival msg rpc instanceId =>
        exact handleMsg_inert inert.1 inert.2 rpc instanceId
    | ready => exact inert.elim
    | setupConfirmed => exact inert.elim
    | redeemConfirmed => exact inert.elim
    | contractStep => exact inert.elim
    | routeReplies => exact inert.elim

/-- A forged message leaves the protocol state as it is exactly when it is
inert, and runs that differ in inserted inert forgeries end in the same node,
with the same lines sent. -/
theorem forged_unchanged_iff
    (env : ProtocolEnv Hex)
    (node : Node Hex) :
    (∀ arrival msg rpc instanceId, Forged env node msg →
      (node.ProtocolUnchanged
          (handleMsg env rpc instanceId node arrival msg) ↔
        ForgeryInert env node arrival msg)) ∧
    (∀ events longer,
      Machine.Inserted (step env) (InertForgery env) node events longer →
      run env node longer = run env node events) := by
  constructor
  · intro arrival msg rpc instanceId forged
    constructor
    · exact inert_of_unchanged forged
    · intro inert
      rw [handleMsg_inert forged inert]
      exact Node.ProtocolUnchanged.refl node
  · intro events longer inserted
    exact Machine.run_inserted (step env) step_inertForgery inserted

/-- The sample buyer when it waits for `get_setup_tx`. -/
def sampleReturningSetup : Node CTransaction :=
  run Sample.protocolEnv (Sample.buyerNode .pendingContract)
    ((samplePaymentRun "sig:seller1").take 4)

/-- A `get_setup_tx` that somebody else signed. -/
def forgedGetSetupTx : Message CTransaction :=
  Sample.signedBy "mallory" (.getSetupTx Sample.contractHash "tx:buyerDeposit")

theorem forgedGetSetupTx_forged :
    Forged Sample.protocolEnv sampleReturningSetup forgedGetSetupTx := by
  show ∀ found ∈ sampleReturningSetup.findContract Sample.contractHash,
    sentByThem Sample.protocolEnv found.2 forgedGetSetupTx = false
  decide +kernel

/-- A forged `return_refund_sig` can be inserted before a main-loop step. -/
theorem forged_unchanged_sample :
    sampleReturningSetup.ProtocolUnchanged
      (handleMsg Sample.protocolEnv Sample.noRpc "instance"
        sampleReturningSetup ⟨1, 10, 0, 0⟩
        (Sample.signedBy "mallory" (.returnRefundSig Sample.contractHash
          (some "sig:seller1")))) ∧
    run Sample.protocolEnv sampleReturningSetup
        [sampleMessage (Sample.signedBy "mallory"
          (.returnRefundSig Sample.contractHash (some "sig:seller1"))),
          sampleStep] =
      run Sample.protocolEnv sampleReturningSetup [sampleStep] := by
  have forged : Forged Sample.protocolEnv sampleReturningSetup
      (Sample.signedBy "mallory" (.returnRefundSig Sample.contractHash
        (some "sig:seller1"))) := by
    show ∀ found ∈ sampleReturningSetup.findContract Sample.contractHash,
      sentByThem Sample.protocolEnv found.2 _ = false
    decide +kernel
  constructor
  · exact ((forged_unchanged_iff _ _).1 _ _ _ _ forged).mpr fun _ => trivial
  · exact (forged_unchanged_iff _ _).2 _ _
      (.insert ⟨forged, fun _ => trivial⟩ (.keep (.nil _)))

/-- A forged `get_setup_tx` moves the match of the buyer. -/
theorem forged_getSetupTx_moves :
    Forged Sample.protocolEnv sampleReturningSetup forgedGetSetupTx ∧
    ¬sampleReturningSetup.ProtocolUnchanged
      (handleMsg Sample.protocolEnv Sample.noRpc "instance"
        sampleReturningSetup ⟨1, 10, 0, 0⟩ forgedGetSetupTx) := by
  refine ⟨forgedGetSetupTx_forged, ?_⟩
  intro unchanged
  have sameState := unchanged.state 0
  revert sameState
  decide +kernel

end Protocol
end Coinbend
