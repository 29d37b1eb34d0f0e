import Coinbend.Protocol.RefundHandlers

/-!
# Refund before transfer, in every run

Callbacks and main-loop steps keep the invariant of `RefundKept` as well, so it
holds in every state of a run whose refund signatures and `READY` messages are
in order.
-/

namespace Coinbend

variable {Hex : Type} {env : ProtocolEnv Hex} {home : Home}
variable {contracts : Nat → String → Option (Nat × MicrotransferContract Hex)}
variable {node : Node Hex}

namespace Protocol

/-! ## Contract server and monitor -/

theorem setupCallback_kept
    (kept : RefundKept env home contracts node)
    (watch : SetupWatch)
    (now : Time) :
    RefundKept env home contracts (setupCallback node watch now) := by
  unfold setupCallback
  split
  · exact kept.updateState watch.matched .pendingSellerGetRefundSig now
      (Or.inr rfl)
  · exact kept.updateState watch.matched .pendingBuyerReturnRefundSig now
      (Or.inr rfl)

theorem recordSetupTxids_kept
    (kept : RefundKept env home contracts node)
    (trade : TradeRef)
    (details : List (Txid × ContractHash)) :
    RefundKept env home contracts
      (recordSetupTxids node trade details).state := by
  have loop : ∀ done : Outcome (Node Hex) PyError (Option MatchRef),
      RefundKept env home contracts done.state →
      RefundKept env home contracts (details.foldl
        (fun done detail =>
          done.bind fun node _ =>
            let node := node.modifyFactory trade fun factory =>
              { factory with
                setupTxids := factory.setupTxids.set detail.2 detail.1 }
            Outcome.attempt node
              (Except.ofOption .keyError
                ((node.factory trade).contracts.get? detail.2))
              fun contract => Outcome.pure node (some contract.matched))
        done).state := by
    induction details with
    | nil => exact fun _ doneKept => doneKept
    | cons detail details inductionHypothesis =>
        intro done doneKept
        apply inductionHypothesis
        refine Outcome.bind_state
          (motive := RefundKept env home contracts) doneKept ?_
        intro _ _
        have recorded := doneKept.modifyFactory trade
          (fun factory =>
            { factory with
              setupTxids := factory.setupTxids.set detail.2 detail.1 })
          (fun _ => rfl) rfl rfl
        refine Outcome.attempt_state
          (motive := RefundKept env home contracts) recorded ?_
        intro _ _
        exact recorded
  exact loop _ kept

theorem watchSetup_kept
    (kept : RefundKept env home contracts node)
    (now : Time)
    (watch : SetupWatch)
    (added : AddWatch)
    (collateralInfo : Dict String CollateralInfo) :
    RefundKept env home contracts
      (watchSetup node now watch added collateralInfo).state := by
  have stored : RefundKept env home contracts
      (if added.stored then
        { node with setupWatches := node.setupWatches ++ [watch] }
      else node) := by
    split
    · exact ⟨kept.homes, kept.details, kept.contracts_eq, kept.first⟩
    · exact kept
  have fired : RefundKept env home contracts
      (if added.fired then
        setupCallback
          (if added.stored then
            { node with setupWatches := node.setupWatches ++ [watch] }
          else node) watch now
      else
        (if added.stored then
          { node with setupWatches := node.setupWatches ++ [watch] }
        else node)) := by
    split
    · exact setupCallback_kept stored watch now
    · exact stored
  refine Outcome.attempt_state
    (motive := RefundKept env home contracts) fired ?_
  intro _ _
  exact fired.modifyFactory watch.trade
    (fun factory => { factory with collateralInfo })
    (fun _ => rfl) rfl rfl

/-- When a `READY` message keeps refunds before payments: the setup transaction
it completes has the recorded id, or no contract of its factory is behind its
gate. -/
def ReadyOk
    (env : ProtocolEnv Hex)
    (node : Node Hex)
    (ready : ReadyMsg) : Prop :=
  ∀ sig3 ∈ ready.sig3,
  ∀ collateralInfo,
    parseCollateralInfos ready.collateralInfo = .ok collateralInfo →
  ∀ trade ∈ node.trades.find? (fun trade =>
      (node.factory trade).instanceId = some ready.instanceId),
    let factory := node.factory trade
    ∀ signed, completeSetup env node.prec factory sig3 collateralInfo =
        .ok (some signed) →
      factory.setup.signed.map SignedTx.txid = some signed.txid ∨
      ∀ entry ∈ factory.contracts.entries,
        afterRefund (node.matchState entry.2.matched).state = false

theorem parseReadyMsg_kept
    {ready : ReadyMsg}
    (kept : RefundKept env home contracts node)
    (readyOk : ReadyOk env node ready)
    (now : Time)
    (broadcast : Broadcast) :
    RefundKept env home contracts
      (parseReadyMsg env node now ready broadcast).state := by
  let motive := RefundKept env home contracts
  unfold parseReadyMsg
  refine Outcome.attempt_state (motive := motive) kept ?_
  intro sig3 hasSig
  rw [Except.ofOption_eq_ok_iff] at hasSig
  refine Outcome.attempt_state (motive := motive) kept ?_
  intro collateralInfo parsed
  split
  · exact kept
  next trade found =>
  refine Outcome.attempt_state (motive := motive) kept ?_
  intro completed isCompleted
  cases completed with
  | none => exact kept
  | some signed =>
      have settled : node.refundView.setup trade = some signed.txid ∨
          node.refundView.Early trade := by
        rcases readyOk sig3 hasSig collateralInfo parsed trade found signed
          isCompleted with same | early
        · exact Or.inl same
        · right
          intro hash matched terms isStored
          obtain ⟨contract, registered, ⟨⟩⟩ :=
            Option.map_eq_some_iff.mp isStored
          exact early (hash, contract)
            (Dict.mem_of_get? (Node.registered_eq_some registered).2)
      have setUp := kept.recordSetup settled
      refine Outcome.attempt_state (motive := motive) setUp ?_
      intro _ _
      have recorded := recordSetupTxids_kept setUp trade ready.setupDetails
      refine Outcome.bind_state (motive := motive) recorded ?_
      intro matched _
      cases matched with
      | none => exact recorded
      | some matched =>
          exact watchSetup_kept recorded now ⟨trade, matched⟩
            broadcast.addWatch collateralInfo

/-! ## The contract step -/

theorem markChecked_kept
    {matched : MatchRef}
    {now : Time}
    {marked : Node Hex}
    (kept : RefundKept env home contracts node)
    (isMarked : markChecked node matched now = .ok (some marked)) :
    RefundKept env home contracts marked := by
  simp only [markChecked] at isMarked
  split at isMarked
  · split at isMarked
    · simp only [Except.bind_eq_ok_iff, Except.ite_none_eq_ok_some_iff,
        Except.pure_eq_ok_iff, Option.some.injEq] at isMarked
      obtain ⟨_, _, _, rfl⟩ := isMarked
      exact kept.modifyMatch matched _ rfl rfl rfl
    · cases isMarked
  · cases isMarked
    exact kept.modifyMatch matched _ rfl rfl rfl

theorem sendToMatch_kept
    (kept : RefundKept env home contracts node)
    (matched : MatchRef)
    (line : Line Hex)
    (paid : ∀ contractHash, line.paymentFor = some contractHash →
      node.refundView.Behind contractHash) :
    RefundKept env home contracts (sendToMatch node matched line).state := by
  refine Outcome.attempt_state
    (motive := RefundKept env home contracts) kept ?_
  intro con _
  exact kept.sendLine con line paid

/-- Only the next payment moves a match out of a state with a message to
send. -/
theorem sentGetRefundSigState_not_gate
    {current : Option ProtocolState}
    {state : ProtocolState}
    (sends : current.bind sentGetRefundSigState = some state) :
    state.isRefundGate = false := by
  rw [Option.bind_eq_some_iff] at sends
  obtain ⟨current, _, sends⟩ := sends
  cases current <;> cases sends <;> rfl

theorem sentGetSetupTxState_not_gate
    {current : Option ProtocolState}
    {state : ProtocolState}
    (sends : current.bind sentGetSetupTxState = some state) :
    state.isRefundGate = false := by
  rw [Option.bind_eq_some_iff] at sends
  obtain ⟨current, _, sends⟩ := sends
  cases current <;> cases sends <;> rfl

theorem sendGetRefundSig_kept
    (kept : RefundKept env home contracts node)
    (now : Time)
    (ntp : Nat)
    (trade : TradeRef)
    (contractHash : ContractHash)
    (contract : MicrotransferContract Hex) :
    RefundKept env home contracts
      (sendGetRefundSig env node now ntp trade contractHash contract).state := by
  let motive := RefundKept env home contracts
  unfold sendGetRefundSig
  split
  · exact kept
  next state sends =>
  refine Outcome.attempt_state (motive := motive) kept ?_
  intro refund _
  have built := kept.modifyFactory trade
    (fun factory =>
      { factory with
        refund :=
          { factory.refund with
            txHex := some refund.txHex
            txid := some (env.lib.calculateTxid refund.txHex) } })
    (fun _ => rfl) rfl rfl
  have sent := sendToMatch_kept built contract.matched
    (.message (env.newMessage ntp (.getRefundSig contractHash refund.txHex)
      (node.factory trade).greenAddress.ecdsa1))
    (by rintro _ ⟨⟩)
  refine Outcome.bind_state (motive := motive) sent ?_
  intro _ _
  exact sent.updateState contract.matched state now
    (Or.inr (sentGetRefundSigState_not_gate sends))

theorem sendGetSetupTx_kept
    (kept : RefundKept env home contracts node)
    (now : Time)
    (ntp : Nat)
    (trade : TradeRef)
    (contractHash : ContractHash)
    (contract : MicrotransferContract Hex) :
    RefundKept env home contracts
      (sendGetSetupTx env node now ntp trade contractHash contract).state := by
  let motive := RefundKept env home contracts
  unfold sendGetSetupTx
  split
  · exact kept
  next state sends =>
  refine Outcome.attempt_state (motive := motive) kept ?_
  intro setupTxid _
  have sent := sendToMatch_kept kept contract.matched
    (.message (env.newMessage ntp (.getSetupTx contractHash setupTxid)
      (node.factory trade).greenAddress.ecdsa1))
    (by rintro _ ⟨⟩)
  refine Outcome.bind_state (motive := motive) sent ?_
  intro _ _
  exact sent.updateState contract.matched state now
    (Or.inr (sentGetSetupTxState_not_gate sends))

/-- The first payment is sent from `seller_initiate_microtransfer`, behind the
gate. -/
theorem initiateMicrotransfer_kept
    {trade : TradeRef}
    {contractHash : ContractHash}
    {contract : MicrotransferContract Hex}
    (kept : RefundKept env home contracts node)
    (found : contracts trade contractHash =
      some (contract.matched, contract.terms))
    (now : Time)
    (ntp : Nat) :
    RefundKept env home contracts
      (initiateMicrotransfer env node now ntp trade contractHash
        contract).state := by
  let motive := RefundKept env home contracts
  unfold initiateMicrotransfer
  split
  · exact kept
  next initiating =>
  rw [not_not] at initiating
  obtain ⟨_, _, _, adjusted⟩ := adjustReceived_progress env node.prec
    (node.factory trade) contract contractHash none
  have stored := kept.storeContract (adjustReceived env node.prec
    (node.factory trade) contract contractHash none).state
    (by rw [adjusted]; exact found)
  have behind : (storeContract node trade contractHash
      (adjustReceived env node.prec (node.factory trade) contract contractHash
        none).state).refundView.Behind contractHash := by
    apply stored.behind found
    show afterRefund (node.matchState contract.matched).state = true
    rw [initiating]
    rfl
  refine Outcome.attempt_state (motive := motive) stored ?_
  intro result _
  split
  · exact stored
  next line _ lines =>
  apply sendToMatch_kept
  · exact stored.updateState contract.matched .sellerAcceptMicrotransfer now
      (Or.inr rfl)
  · intro hash isPayment
    have isLine : line ∈ paymentLines env ntp contractHash
        (node.factory trade).greenAddress.ecdsa1 result := by
      rw [lines]
      exact List.mem_cons_self
    rw [paymentLines_paymentFor isLine isPayment]
    exact RefundKept.behind_updateState behind _ _ _

theorem redeemCallback_kept
    (kept : RefundKept env home contracts node)
    (contractHash : ContractHash)
    (now : Time) :
    RefundKept env home contracts
      (redeemCallback node contractHash now).state := by
  let motive := RefundKept env home contracts
  unfold redeemCallback
  refine Outcome.attempt_state (motive := motive) kept ?_
  rintro ⟨trade, _⟩ _
  have completed : RefundKept env home contracts
      { node with
        heap := node.heap.modify trade fun found =>
          { found with status := .microtransferComplete } } :=
    ⟨kept.homes, kept.details, kept.contracts_eq, kept.first⟩
  refine Outcome.attempt_state (motive := motive) completed ?_
  intro matched _
  exact completed.updateState matched .microtransferComplete now (Or.inr rfl)

theorem broadcastFinal_kept
    (kept : RefundKept env home contracts node)
    (now : Time)
    (contractHash : ContractHash)
    (contract : MicrotransferContract Hex)
    (broadcast : Broadcast) :
    RefundKept env home contracts
      (broadcastFinal node now contractHash contract broadcast).state := by
  let motive := RefundKept env home contracts
  unfold broadcastFinal
  split
  · exact kept
  refine Outcome.attempt_state (motive := motive) kept ?_
  intro _ _
  have confirming := kept.updateState contract.matched
    .pendingMicrotransferConfirm now (Or.inr rfl)
  have watched : RefundKept env home contracts
      (if broadcast.addWatch.stored then
        { (node.updateState contract.matched
            .pendingMicrotransferConfirm now).1 with
          redeemWatches := (node.updateState contract.matched
            .pendingMicrotransferConfirm now).1.redeemWatches ++
              [contractHash] }
      else
        (node.updateState contract.matched
          .pendingMicrotransferConfirm now).1) := by
    split
    · exact ⟨confirming.homes, confirming.details, confirming.contracts_eq,
        confirming.first⟩
    · exact confirming
  simp only
  generalize (if broadcast.addWatch.stored then
    { (node.updateState contract.matched
        .pendingMicrotransferConfirm now).1 with
      redeemWatches := (node.updateState contract.matched
        .pendingMicrotransferConfirm now).1.redeemWatches ++
          [contractHash] }
    else
      (node.updateState contract.matched
        .pendingMicrotransferConfirm now).1) = watching at watched
  have fired : RefundKept env home contracts
      (if broadcast.addWatch.fired then redeemCallback watching contractHash now
        else Outcome.pure watching ()).state := by
    split
    · exact redeemCallback_kept watched contractHash now
    · exact watched
  refine Outcome.bind_state (motive := motive) fired ?_
  intro _ _
  refine Outcome.attempt_state (motive := motive) fired ?_
  intro _ _
  exact fired

theorem contractStep_kept
    (kept : RefundKept env home contracts node)
    (now : Time)
    (ntp : Nat)
    (trade : TradeRef)
    (contractHash : ContractHash)
    (broadcast : Broadcast) :
    RefundKept env home contracts
      (contractStep env node now ntp trade contractHash broadcast).state := by
  let motive := RefundKept env home contracts
  unfold contractStep
  split
  · exact kept
  next running =>
  rw [not_or, not_not] at running
  split
  · exact kept
  next contract stored =>
  have found : contracts trade contractHash =
      some (contract.matched, contract.terms) := by
    rw [← kept.contracts_eq]
    apply Node.contracts_of_registered
    rw [Node.registered, if_pos running.1]
    exact stored
  have looped : RefundKept env home contracts
      { node with loopMatched := some contract.matched } :=
    ⟨kept.homes, kept.details, kept.contracts_eq, kept.first⟩
  refine Outcome.attempt_state (motive := motive) looped ?_
  intro marked isMarked
  cases marked with
  | none => exact looped
  | some marked =>
      have checked := markChecked_kept looped isMarked
      have refunded := sendGetRefundSig_kept checked now ntp trade contractHash
        contract
      refine Outcome.bind_state (motive := motive) refunded ?_
      intro _ _
      have asked := sendGetSetupTx_kept refunded now ntp trade contractHash
        contract
      refine Outcome.bind_state (motive := motive) asked ?_
      intro _ _
      have initiated := initiateMicrotransfer_kept asked found now ntp
      refine Outcome.bind_state (motive := motive) initiated ?_
      intro _ _
      exact broadcastFinal_kept initiated now contractHash contract broadcast

/-! ## Routing replies -/

/-- A node with more replies in its queue. -/
def withQueued (node : Node Hex) (replies : List (HybridReply Hex)) :
    Node Hex :=
  { node with hybridReplies := node.hybridReplies ++ replies }

theorem sendLines_sent
    (con : Con)
    (lines : List (Line Hex))
    (node : Node Hex) :
    lines.foldl (fun node line => node.sendLine con line) node =
      { node with sent := node.sent ++ lines.map fun line => (con, line) } := by
  induction lines generalizing node with
  | nil => simp
  | cons line lines inductionHypothesis =>
      rw [List.foldl_cons, inductionHypothesis]
      simp [Node.sendLine]

/-- Routing a reply only moves its lines from the queue to the sent lines, or
leaves them in the queue. -/
theorem routeReply_kept
    {reply : HybridReply Hex}
    {replies : List (HybridReply Hex)}
    (kept : RefundKept env home contracts
      (withQueued node (reply :: replies)))
    (now : Time) :
    RefundKept env home contracts
      (withQueued (routeReply now node reply) replies) := by
  have checked : RefundKept env home contracts
      (withQueued (checkReply node reply now).1 (reply :: replies)) := by
    unfold checkReply
    split
    · exact kept
    next matched _ =>
      have moved := kept.updateState matched .pendingBuyerGetRefundSig now
        (Or.inr rfl)
      unfold Node.updateState at moved ⊢
      split
      next allowed =>
        rw [if_pos (show stateMachine ((withQueued node
          (reply :: replies)).matchState matched).state _ = true from
            allowed)] at moved
        exact moved
      · exact kept
  unfold routeReply
  generalize checkReply node reply now = result at checked
  obtain ⟨checkedNode, ready⟩ := result
  cases ready with
  | false =>
      have same : withQueued
          { checkedNode with
            hybridReplies := checkedNode.hybridReplies ++ [reply] } replies =
          withQueued checkedNode (reply :: replies) := by
        simp [withQueued]
      simp only
      rw [same]
      exact checked
  | true =>
      simp only
      rw [sendLines_sent]
      refine checked.pay _ ⟨rfl, rfl, fun _ => rfl, fun _ => rfl⟩ rfl rfl rfl rfl
        ?_
      intro line isOutgoing
      left
      simp only [Node.outgoing, withQueued, List.map_append, List.map_map,
        List.flatMap_append, List.flatMap_cons, List.mem_append, List.mem_map,
        Function.comp_apply, exists_eq_right] at isOutgoing ⊢
      rcases isOutgoing with (sent | replied) | queued | later
      · exact Or.inl sent
      · exact Or.inr (Or.inr (Or.inl replied))
      · exact Or.inr (Or.inl queued)
      · exact Or.inr (Or.inr (Or.inr later))

theorem routeReplies_kept
    (kept : RefundKept env home contracts node)
    (now : Time) :
    RefundKept env home contracts (routeReplies node now) := by
  have loop : ∀ (replies : List (HybridReply Hex)) (current : Node Hex),
      RefundKept env home contracts (withQueued current replies) →
      RefundKept env home contracts
        (replies.foldl (routeReply now) current) := by
    intro replies
    induction replies with
    | nil =>
        intro current currentKept
        rw [withQueued, List.append_nil] at currentKept
        exact currentKept
    | cons reply replies inductionHypothesis =>
        intro current currentKept
        apply inductionHypothesis
        exact routeReply_kept currentKept now
  apply loop
  exact kept

/-! ## Runs -/

/-- When an event keeps refunds before payments. -/
def EventRefundOk
    (env : ProtocolEnv Hex)
    (node : Node Hex)
    (event : Event Hex) : Prop :=
  match event with
  | .message arrival msg _ _ =>
      isRead env arrival msg = true → RefundSigOk env node msg
  | .ready _ ready _ => ReadyOk env node ready
  | _ => True

theorem step_kept
    (kept : RefundKept env home contracts node)
    {event : Event Hex}
    (refundOk : EventRefundOk env node event) :
    ∃ contracts, RefundKept env home contracts (step env node event) := by
  unfold step
  split
  · exact ⟨contracts, kept⟩
  cases event with
  | message arrival msg rpc instanceId =>
      exact understand_kept arrival.con
        (parseMsg_guarded kept rpc instanceId arrival msg refundOk)
  | ready now ready broadcast =>
      exact ⟨contracts, parseReadyMsg_kept kept refundOk now broadcast⟩
  | setupConfirmed now index =>
      refine ⟨contracts, ?_⟩
      simp only
      split
      · exact setupCallback_kept kept _ now
      · exact kept
  | redeemConfirmed now index =>
      refine ⟨contracts, ?_⟩
      simp only
      split
      · exact redeemCallback_kept kept _ now
      · exact kept
  | contractStep now ntp trade contractHash broadcast =>
      refine ⟨contracts, ?_⟩
      have stepped :=
        contractStep_kept kept now ntp trade contractHash broadcast
      simp only [runUncaught]
      split
      · exact stepped
      · exact ⟨stepped.homes, stepped.details, stepped.contracts_eq,
          stepped.first⟩
  | routeReplies now =>
      exact ⟨contracts, routeReplies_kept kept now⟩

/-- A node before any refund was exchanged: no match is behind its gate,
contracts are registered for the match their hash belongs to, and nothing was
paid. -/
structure RefundStart (env : ProtocolEnv Hex) (node : Node Hex) : Prop where
  early : ∀ matched, afterRefund (node.matchState matched).state = false
  homed : ∀ {trade contractHash contract},
    node.registered trade contractHash = some contract →
    node.findMatchState contractHash = some (trade, contract.matched)
  details : ∀ {matched contractHash contract},
    (node.matchState matched).contractHash = some contractHash →
    (node.matchState matched).contract = some contract →
    env.sha256 contract.msg = contractHash
  unpaid : ∀ line ∈ node.outgoing, line.paymentFor = none

theorem RefundStart.kept (start : RefundStart env node) :
    RefundKept env node.findMatchState node.refundView.contracts node where
  homes := fun _ => rfl
  details := start.details
  contracts_eq := rfl
  first := {
    homed := by
      intro trade contractHash matched keys found
      obtain ⟨contract, registered, ⟨⟩⟩ := Option.map_eq_some_iff.mp found
      exact start.homed registered
    held := by
      intro matched behind
      have early : afterRefund (node.refundView.state matched) = false :=
        start.early matched
      rw [early] at behind
      cases behind
    paid_behind := by
      rintro contractHash ⟨line, isOutgoing, isPayment⟩
      rw [start.unpaid line isOutgoing] at isPayment
      cases isPayment }

/-- A match takes payments. -/
def Accepting (node : Node Hex) (matched : MatchRef) : Prop :=
  (node.matchState matched).state = some .sellerAcceptMicrotransfer ∨
    (node.matchState matched).state = some .buyerAcceptMicrotransfer

/-- A payment for a contract was sent. -/
def HasPaid (node : Node Hex) (contractHash : ContractHash) : Prop :=
  ∃ sent ∈ node.sent, sent.2.paymentFor = some contractHash

/-- A match that takes payments and a contract that was paid for are those of a
registered contract, whose factory has the accepted refund of its setup
transaction to that contract. -/
structure RefundHeld (env : ProtocolEnv Hex) (node : Node Hex) : Prop where
  contract_of_accepting : ∀ {matched}, Accepting node matched →
    ∃ trade contractHash contract,
      node.registered trade contractHash = some contract ∧
      contract.matched = matched
  contract_of_paid : ∀ {contractHash}, HasPaid node contractHash →
    ∃ trade contract, node.registered trade contractHash = some contract
  held : ∀ {trade contractHash contract},
    node.registered trade contractHash = some contract →
    Accepting node contract.matched ∨ HasPaid node contractHash →
    ∃ setup signed, (node.factory trade).setup.signed = some setup ∧
      (node.factory trade).refund.signed = some signed ∧
      RefundAccepted env contract setup.txid signed

theorem refundHeld_of_kept (kept : RefundKept env home contracts node) :
    RefundHeld env node := by
  have behind_of_accepting {matched : MatchRef}
      (accepting : Accepting node matched) :
      afterRefund (node.refundView.state matched) = true := by
    show afterRefund (node.matchState matched).state = true
    rcases accepting with state | state <;> rw [state] <;> rfl
  have paid_of_hasPaid {contractHash : ContractHash}
      (hasPaid : HasPaid node contractHash) :
      node.refundView.paid contractHash := by
    obtain ⟨sent, isSent, isPayment⟩ := hasPaid
    exact ⟨sent.2, List.mem_append_left _ (List.mem_map_of_mem isSent),
      isPayment⟩
  exact {
    contract_of_accepting := by
      intro matched accepting
      obtain ⟨trade, contractHash, terms, _, _, found, _⟩ :=
        kept.first.held (behind_of_accepting accepting)
      obtain ⟨contract, registered, ⟨⟩⟩ := Option.map_eq_some_iff.mp found
      exact ⟨trade, contractHash, contract, registered, rfl⟩
    contract_of_paid := by
      intro contractHash hasPaid
      obtain ⟨trade, matched, terms, found, _⟩ :=
        kept.first.paid_behind (paid_of_hasPaid hasPaid)
      obtain ⟨contract, registered, _⟩ := Option.map_eq_some_iff.mp found
      exact ⟨trade, contract, registered⟩
    held := by
      intro trade contractHash contract registered active
      have found := Node.contracts_of_registered registered
      have behind : afterRefund
          (node.refundView.state contract.matched) = true := by
        rcases active with accepting | hasPaid
        · exact behind_of_accepting accepting
        · exact kept.first.behind_of_paid found (paid_of_hasPaid hasPaid)
      obtain ⟨setupTxid, signed, isSetup, isSigned, accepted⟩ :=
        kept.first.held_of_behind kept.injective found behind
      obtain ⟨setup, recorded, rfl⟩ := Option.map_eq_some_iff.mp isSetup
      exact ⟨setup, signed, recorded, isSigned, accepted⟩ }

/-- In every run whose refund signatures and `READY` messages are in order, a
match takes payments, and a contract is paid for, only once the factory has the
accepted refund of that contract. -/
theorem run_refundHeld
    (start : RefundStart env node)
    {events : List (Event Hex)}
    (refundOk : Machine.Allowed (step env) (EventRefundOk env) node events) :
    RefundHeld env (run env node events) := by
  have keeps : ∀ state event,
      (∃ contracts, RefundKept env node.findMatchState contracts state) →
      EventRefundOk env state event →
      ∃ contracts, RefundKept env node.findMatchState contracts
        (step env state event) := by
    rintro state event ⟨contracts, kept⟩ eventOk
    exact step_kept kept eventOk
  obtain ⟨contracts, kept⟩ :=
    Machine.invariant_run (step env) keeps ⟨_, start.kept⟩ refundOk
  exact refundHeld_of_kept kept

/-- The sample buyer before any message. -/
theorem refundStart_sample :
    RefundStart Sample.protocolEnv (Sample.buyerNode .pendingContract) where
  early := fun _ => rfl
  homed := by
    intro trade contractHash contract registered
    obtain ⟨listed, stored⟩ := Node.registered_eq_some registered
    obtain rfl : trade = 0 := List.mem_singleton.mp listed
    have isSample := Dict.mem_of_get? stored
    obtain ⟨rfl, rfl⟩ :=
      Prod.mk.inj (List.mem_singleton.mp isSample)
    rfl
  details := by
    intro _ _ _ _ impossible
    cases impossible
  unpaid := by
    intro line isOutgoing
    cases isOutgoing

/-- The sample buyer when its `get_refund_sig` is answered. -/
def sampleAskingRefund : Node CTransaction :=
  step Sample.protocolEnv
    (step Sample.protocolEnv
      (step Sample.protocolEnv (Sample.buyerNode .pendingContract)
        (.setupConfirmed 10 0))
      (sampleMessage (Sample.signedBy "seller1"
        (.getRefundSig Sample.contractHash Sample.sellerRefund))))
    sampleStep

/-- The factory stores the refund of the sample contract. -/
theorem sampleAskingRefund_stores :
    StoresRefundOf Sample.protocolEnv (sampleAskingRefund.factory 0)
      Sample.buyerContract := by
  have stored : ((MicrotransferContract.buildRefundTx
        (Sample.protocolEnv.micro 8) Sample.buyerContract
        ((sampleAskingRefund.factory 0).setup.signed.map SignedTx.txid)
        none).toOption.map HalfSignedTx.txHex =
          (sampleAskingRefund.factory 0).refund.txHex) ∧
      (sampleAskingRefund.factory 0).refund.txHex.isSome := by
    decide +kernel
  obtain ⟨same, isSome⟩ := stored
  obtain ⟨txHex, isStored⟩ := Option.isSome_iff_exists.mp isSome
  rw [isStored] at same
  obtain ⟨refund, built, rfl⟩ := Option.map_eq_some_iff.mp same
  exact ⟨8, refund, Except.ok_of_toOption built, isStored⟩

/-- The answer is in order. -/
theorem sampleAskingRefund_ok :
    EventRefundOk Sample.protocolEnv sampleAskingRefund
      (sampleMessage (Sample.signedBy "seller1"
        (.returnRefundSig Sample.contractHash (some "sig:seller1")))) := by
  rintro _ _ ⟨⟩ ⟨trade, contract⟩ found
  have isSample : sampleAskingRefund.findContract Sample.contractHash =
      some (0, Sample.buyerContract) := by
    decide +kernel
  cases isSample.symm.trans found
  dsimp only
  intro _ _
  have works : (checkReturnRefundSig Sample.protocolEnv sampleAskingRefund.prec
      (sampleAskingRefund.factory 0) Sample.buyerContract
      "sig:seller1").isOk = true := by
    decide +kernel
  rw [if_pos works]
  refine ⟨sampleAskingRefund_stores, ?_⟩
  decide +kernel

/-- A message that returns no refund signature is in order. -/
theorem eventRefundOk_of_none
    {msg : Message CTransaction}
    (none_returned : returnedSig msg.payload = none)
    (node : Node CTransaction) :
    EventRefundOk Sample.protocolEnv node (sampleMessage msg) := by
  intro _ returned isReturned
  rw [none_returned] at isReturned
  cases isReturned

theorem run_refundHeld_sample :
    RefundHeld Sample.protocolEnv
      (run Sample.protocolEnv (Sample.buyerNode .pendingContract)
        (samplePaymentRun "sig:seller1")) := by
  apply run_refundHeld refundStart_sample
  simp only [samplePaymentRun, Machine.Allowed]
  exact ⟨trivial, eventRefundOk_of_none rfl _, trivial, @sampleAskingRefund_ok,
    eventRefundOk_of_none rfl _, trivial, eventRefundOk_of_none rfl _,
    eventRefundOk_of_none rfl _, trivial, trivial⟩

/-- A garbage answer to `get_refund_sig` moves the buyer on, who then pays
without a refund. -/
theorem unrefunded_payment :
    RefundStart Sample.protocolEnv (Sample.buyerNode .pendingContract) ∧
    ¬RefundHeld Sample.protocolEnv
      (run Sample.protocolEnv (Sample.buyerNode .pendingContract)
        (samplePaymentRun "garbage")) := by
  refine ⟨refundStart_sample, ?_⟩
  generalize ended : run Sample.protocolEnv (Sample.buyerNode .pendingContract)
    (samplePaymentRun "garbage") = node
  have reached : (node.matchState 0).state = some .buyerAcceptMicrotransfer ∧
      (node.factory 0).refund.signed = none ∧
      (node.registered 0 Sample.contractHash).map
        MicrotransferContract.matched = some 0 := by
    rw [← ended]
    decide +kernel
  obtain ⟨accepting, unsigned, isRegistered⟩ := reached
  obtain ⟨contract, registered, matched⟩ :=
    Option.map_eq_some_iff.mp isRegistered
  intro refundHeld
  rw [← matched] at accepting
  obtain ⟨_, signed, _, isSigned, _⟩ :=
    refundHeld.held registered (Or.inl (Or.inr accepting))
  rw [unsigned] at isSigned
  cases isSigned

end Protocol
end Coinbend
