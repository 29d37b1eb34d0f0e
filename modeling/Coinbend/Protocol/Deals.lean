import Coinbend.Protocol.Trading

/-!
# The deals of a node

What a node has agreed to trade: its trades with their terms, and for each
match the two match orders and the contract.  The messages, callbacks and
steps of the microtransfer protocol leave all of it alone.
-/

namespace Coinbend

variable {Hex : Type}

/-- What a node has agreed to trade. -/
structure DealView (Hex : Type) where
  trades : List TradeRef
  nextTrade : TradeRef
  nextMatch : MatchRef
  matchTable : TradeRef → Dict MatchHash MatchRef
  terms : TradeRef → TradeTerms
  matchSent : MatchRef → Option (MatchType Hex)
  matchReply : MatchRef → Option (MatchType Hex)
  contract : MatchRef → Option ParsedContract

/-- What a match state says about a deal. -/
def MatchState.deal (matched : MatchState Hex) :
    Option (MatchType Hex) × Option (MatchType Hex) × Option ParsedContract :=
  (matched.matchSent, matched.matchReply, matched.contract)

namespace Node

/-- The deals of a node. -/
def deals (node : Node Hex) : DealView Hex where
  trades := node.trades
  nextTrade := node.nextTrade
  nextMatch := node.nextMatch
  matchTable := node.matchTable
  terms := node.heap.terms
  matchSent := fun matched => (node.matchState matched).matchSent
  matchReply := fun matched => (node.matchState matched).matchReply
  contract := fun matched => (node.matchState matched).contract

@[simp] theorem deals_modifyFactory
    (node : Node Hex)
    (trade : TradeRef)
    (change : MicrotransferFactory Hex → MicrotransferFactory Hex) :
    (node.modifyFactory trade change).deals = node.deals := rfl

@[simp] theorem deals_sendLine
    (node : Node Hex)
    (con : Con)
    (line : Line Hex) :
    (node.sendLine con line).deals = node.deals := rfl

/-- A change of a match that keeps its deal. -/
theorem deals_modifyMatch
    (node : Node Hex)
    (matched : MatchRef)
    {change : MatchState Hex → MatchState Hex}
    (same : (change (node.matchState matched)).deal =
      (node.matchState matched).deal) :
    (node.modifyMatch matched change).deals = node.deals := by
  simp only [MatchState.deal, Prod.mk.injEq] at same
  obtain ⟨sent, reply, contract⟩ := same
  have unchanged {α : Type}
      (field : MatchState Hex → α)
      (sameField : field (change (node.matchState matched)) =
        field (node.matchState matched)) :
      (fun other => field ((node.modifyMatch matched change).matchState other)) =
        fun other => field (node.matchState other) := by
    funext other
    by_cases equal : other = matched
    · subst equal
      rw [modifyMatch_same, sameField]
    · rw [modifyMatch_of_ne node change equal]
  simp only [deals, unchanged MatchState.matchSent sent,
    unchanged MatchState.matchReply reply,
    unchanged MatchState.contract contract]
  rfl

@[simp] theorem deals_updateState
    (node : Node Hex)
    (matched : MatchRef)
    (state : ProtocolState)
    (now : Time) :
    (node.updateState matched state now).1.deals = node.deals := by
  unfold updateState
  split
  · exact deals_modifyMatch node matched rfl
  · rfl

theorem deals_of_updateState
    {node after : Node Hex}
    {matched : MatchRef}
    {state : ProtocolState}
    {now : Time}
    {flag : Bool}
    (updated : node.updateState matched state now = (after, flag)) :
    after.deals = node.deals := by
  rw [← deals_updateState node matched state now, updated]

end Node

/-- A computation on a node keeps its deals. -/
def KeepsDeals {α : Type}
    (node : Node Hex)
    (outcome : Outcome (Node Hex) PyError α) : Prop :=
  outcome.state.deals = node.deals

namespace KeepsDeals

variable {α β : Type} {node start : Node Hex}

theorem attempt
    {value : Except PyError α}
    {next : α → Outcome (Node Hex) PyError β}
    (before : node.deals = start.deals)
    (after : ∀ found, KeepsDeals start (next found)) :
    KeepsDeals start (Outcome.attempt node value next) :=
  Outcome.attempt_state (motive := fun node : Node Hex =>
    node.deals = start.deals) before fun found _ => after found

theorem bind
    {first : Outcome (Node Hex) PyError α}
    {next : Node Hex → α → Outcome (Node Hex) PyError β}
    (before : KeepsDeals start first)
    (after : ∀ node found, node.deals = start.deals →
      KeepsDeals start (next node found)) :
    KeepsDeals start (first.bind next) :=
  Outcome.bind_state (motive := fun node : Node Hex =>
    node.deals = start.deals) before fun found _ =>
      after first.state found before

end KeepsDeals

namespace Protocol

variable (env : ProtocolEnv Hex) (node : Node Hex)

/-! ## Messages -/

theorem parseGetRefundSig_keepsDeals
    (arrival : Arrival)
    (msg : Message Hex)
    (contractHash : ContractHash)
    (refundTxHex : Hex) :
    KeepsDeals node
      (parseGetRefundSig env node arrival msg contractHash refundTxHex) := by
  unfold parseGetRefundSig
  split
  · rfl
  split
  · rfl
  split
  · rfl
  split
  next updated => exact Node.deals_of_updateState updated
  next updated =>
    have kept := Node.deals_of_updateState updated
    refine KeepsDeals.attempt kept fun checked => ?_
    cases checked with
    | none => exact kept
    | some refundSig => exact kept

theorem parseReturnRefundSig_keepsDeals
    (arrival : Arrival)
    (msg : Message Hex)
    (contractHash : ContractHash)
    (theirSig : Option Sig) :
    KeepsDeals node
      (parseReturnRefundSig env node arrival msg contractHash theirSig) := by
  unfold parseReturnRefundSig
  refine KeepsDeals.attempt rfl fun theirSig => ?_
  split
  · rfl
  split
  · rfl
  split
  next updated => exact Node.deals_of_updateState updated
  next updated =>
    have kept := Node.deals_of_updateState updated
    exact KeepsDeals.attempt kept fun refundWorks => kept

theorem parseGetSetupTx_keepsDeals
    (arrival : Arrival)
    (msg : Message Hex)
    (contractHash : ContractHash) :
    KeepsDeals node (parseGetSetupTx env node arrival msg contractHash) := by
  unfold parseGetSetupTx
  split
  · rfl
  split
  next updated => exact Node.deals_of_updateState updated
  next updated =>
    have kept := Node.deals_of_updateState updated
    split
    · exact kept
    · exact kept

theorem parseReturnSetupTx_keepsDeals
    (arrival : Arrival)
    (msg : Message Hex)
    (contractHash : ContractHash)
    (setupTxHex : Option Hex)
    (collateralInfo : List (Option CollateralInfo)) :
    KeepsDeals node (parseReturnSetupTx env node arrival msg contractHash
      setupTxHex collateralInfo) := by
  unfold parseReturnSetupTx
  split
  · rfl
  split
  · rfl
  refine KeepsDeals.attempt rfl fun checked => ?_
  cases checked with
  | none => rfl
  | some record =>
      simp only
      split
      next updated =>
        have kept := Node.deals_of_updateState updated
        exact kept
      next updated =>
        have kept := Node.deals_of_updateState updated
        exact kept

theorem parseReturnAdjustedRefund_keepsDeals
    (arrival : Arrival)
    (msg : Message Hex)
    (contractHash : ContractHash)
    (refundTx : Hex)
    (refundSig1 refundSig2 : Option Sig) :
    KeepsDeals node (parseReturnAdjustedRefund env node arrival msg contractHash
      refundTx refundSig1 refundSig2) := by
  unfold parseReturnAdjustedRefund
  refine KeepsDeals.attempt rfl fun firstSig => ?_
  refine KeepsDeals.attempt rfl fun secondSig => ?_
  split
  · rfl
  split
  · rfl
  split
  · rfl
  simp only
  refine KeepsDeals.attempt rfl fun result => ?_
  split
  · exact Node.deals_updateState _ _ _ _
  · rfl

theorem storeCalibrated_deal
    (matched : MatchState Hex)
    (toSend toRecv : Except PyError Trade) :
    (storeCalibrated matched toSend toRecv).state.deal = matched.deal := by
  cases toSend with
  | error error => rfl
  | ok toSend => cases toRecv <;> rfl

theorem calibrateTrades_deal
    (context : TradeContext)
    (matched : MatchState Hex) :
    (calibrateTrades context matched).state.deal = matched.deal := by
  unfold calibrateTrades
  split
  · exact storeCalibrated_deal matched _ _
  · rfl

theorem registerShake_keepsDeals
    (rpc : CoinRpc)
    (instanceId : String)
    (arrival : Arrival)
    (trade : TradeRef)
    (matched : MatchRef)
    (contract : ParsedContract) :
    KeepsDeals node (registerShake env rpc instanceId node arrival trade matched
      contract) := by
  unfold registerShake
  refine KeepsDeals.attempt rfl fun toSend => ?_
  refine KeepsDeals.attempt rfl fun sent => ?_
  simp only
  refine KeepsDeals.attempt rfl fun _ => ?_
  exact Node.deals_updateState _ _ _ _

theorem shakeOnMatch_keepsDeals
    (rpc : CoinRpc)
    (instanceId : String)
    (arrival : Arrival)
    (msg : Message Hex)
    (trade : TradeRef)
    (matched : MatchRef) :
    KeepsDeals node (shakeOnMatch env rpc instanceId node arrival msg trade
      matched) := by
  unfold shakeOnMatch
  refine KeepsDeals.attempt rfl fun reply => ?_
  split
  · rfl
  refine KeepsDeals.attempt rfl fun contract => ?_
  simp only
  have calibrated :
      (node.modifyMatch matched fun _ =>
        (calibrateTrades (env.tradeContext node.prec)
          (node.matchState matched)).state).deals = node.deals :=
    Node.deals_modifyMatch node matched (calibrateTrades_deal _ _)
  refine KeepsDeals.attempt calibrated fun done => ?_
  split
  · exact calibrated
  · refine (registerShake_keepsDeals env _ rpc instanceId arrival trade matched
      contract).trans ?_
    exact (Node.deals_modifyMatch _ matched rfl).trans calibrated

theorem parseShakeOnIt_keepsDeals
    (rpc : CoinRpc)
    (instanceId : String)
    (arrival : Arrival)
    (msg : Message Hex)
    (contractHash : ContractHash) :
    KeepsDeals node (parseShakeOnIt env rpc instanceId node arrival msg
      contractHash) := by
  unfold parseShakeOnIt
  split
  · rfl
  split
  · rfl
  · exact (shakeOnMatch_keepsDeals env _ rpc instanceId arrival msg _ _).trans
      (Node.deals_modifyMatch node _ rfl)

theorem parseMsg_keepsDeals
    (rpc : CoinRpc)
    (instanceId : String)
    (arrival : Arrival)
    (msg : Message Hex) :
    KeepsDeals node (parseMsg env rpc instanceId node arrival msg) := by
  unfold parseMsg
  split
  swap
  · rfl
  unfold handlePayload
  split
  · exact parseShakeOnIt_keepsDeals env node rpc instanceId arrival msg _
  · exact parseGetRefundSig_keepsDeals env node arrival msg _ _
  · exact parseReturnRefundSig_keepsDeals env node arrival msg _ _
  · exact parseGetSetupTx_keepsDeals env node arrival msg _
  · exact parseReturnSetupTx_keepsDeals env node arrival msg _ _ _
  · exact parseReturnAdjustedRefund_keepsDeals env node arrival msg _ _ _ _

theorem deals_deliver
    (con : Con)
    (replies : List (Reply Hex)) :
    (replies.foldl (deliver con) node).deals = node.deals := by
  induction replies generalizing node with
  | nil => rfl
  | cons reply replies inductionHypothesis =>
      rw [List.foldl_cons, inductionHypothesis]
      cases reply <;> rfl

theorem deals_understand
    (con : Con)
    (handled : Handled Hex) :
    (understand con handled).deals = handled.state.deals := by
  unfold understand
  split
  · exact deals_deliver _ con _
  · rfl

/-! ## Contract server, callbacks and the main loop -/

theorem setupCallback_deals (watch : SetupWatch) (now : Time) :
    (setupCallback node watch now).deals = node.deals := by
  unfold setupCallback
  split <;> exact Node.deals_updateState _ _ _ _

theorem recordSetupTxids_keepsDeals
    (trade : TradeRef)
    (details : List (Txid × ContractHash))
    {done : Outcome (Node Hex) PyError (Option MatchRef)}
    (kept : KeepsDeals node done) :
    KeepsDeals node (details.foldl
      (fun done (setupTxid, contractHash) =>
        done.bind fun node _ =>
          let node := node.modifyFactory trade fun factory =>
            { factory with
              setupTxids := factory.setupTxids.set contractHash setupTxid }
          Outcome.attempt node
            (Except.ofOption .keyError
              ((node.factory trade).contracts.get? contractHash))
            fun contract => Outcome.pure node (some contract.matched))
      done) := by
  induction details generalizing done with
  | nil => exact kept
  | cons detail details inductionHypothesis =>
      rw [List.foldl_cons]
      apply inductionHypothesis
      refine KeepsDeals.bind kept fun after _ same => ?_
      exact KeepsDeals.attempt same fun contract => same

theorem watchSetup_keepsDeals
    (now : Time)
    (watch : SetupWatch)
    (added : AddWatch)
    (collateralInfo : Dict String CollateralInfo) :
    KeepsDeals node (watchSetup node now watch added collateralInfo) := by
  unfold watchSetup
  have stored : (if added.stored then
      { node with setupWatches := node.setupWatches ++ [watch] }
      else node).deals = node.deals := by
    split <;> rfl
  have fired : (if added.fired then
      setupCallback (if added.stored then
        { node with setupWatches := node.setupWatches ++ [watch] }
        else node) watch now
      else if added.stored then
        { node with setupWatches := node.setupWatches ++ [watch] }
      else node).deals = node.deals := by
    split
    · exact (setupCallback_deals _ watch now).trans stored
    · exact stored
  exact KeepsDeals.attempt fired fun _ => fired

theorem parseReadyMsg_keepsDeals
    (now : Time)
    (ready : ReadyMsg)
    (broadcast : Broadcast) :
    KeepsDeals node (parseReadyMsg env node now ready broadcast) := by
  unfold parseReadyMsg
  refine KeepsDeals.attempt rfl fun sig3 => ?_
  refine KeepsDeals.attempt rfl fun collateralInfo => ?_
  split
  · rfl
  refine KeepsDeals.attempt rfl fun completed => ?_
  cases completed with
  | none => rfl
  | some signed =>
      refine KeepsDeals.attempt rfl fun _ => ?_
      refine KeepsDeals.bind (recordSetupTxids_keepsDeals node _ _ rfl)
        fun after matched same => ?_
      cases matched with
      | none => exact same
      | some matched =>
          exact (watchSetup_keepsDeals _ now _ _ _).trans same

theorem sendToMatch_keepsDeals
    (matched : MatchRef)
    (line : Line Hex) :
    KeepsDeals node (sendToMatch node matched line) := by
  unfold sendToMatch
  exact KeepsDeals.attempt rfl fun con => rfl

theorem markChecked_deals
    {node after : Node Hex}
    {matched : MatchRef}
    {now : Time}
    (marked : markChecked node matched now = .ok (some after)) :
    after.deals = node.deals := by
  unfold markChecked at marked
  simp only at marked
  split at marked
  · split at marked
    · cases updated : (node.matchState matched).stateUpdated with
      | none =>
          rw [updated] at marked
          cases marked
      | some time =>
          rw [updated] at marked
          simp only [Except.ofOption, bind, Except.bind, pure, Except.pure] at marked
          split at marked
          · cases marked
          · cases marked
            exact Node.deals_modifyMatch node matched rfl
    · cases marked
  · cases marked
    exact Node.deals_modifyMatch node matched rfl

theorem sendGetRefundSig_keepsDeals
    (now : Time)
    (ntp : Nat)
    (trade : TradeRef)
    (contractHash : ContractHash)
    (contract : MicrotransferContract Hex) :
    KeepsDeals node
      (sendGetRefundSig env node now ntp trade contractHash contract) := by
  unfold sendGetRefundSig
  split
  · rfl
  simp only
  refine KeepsDeals.attempt rfl fun refund => ?_
  refine KeepsDeals.bind (sendToMatch_keepsDeals _ _ _) fun after _ same => ?_
  exact (Node.deals_updateState _ _ _ _).trans same

theorem sendGetSetupTx_keepsDeals
    (now : Time)
    (ntp : Nat)
    (trade : TradeRef)
    (contractHash : ContractHash)
    (contract : MicrotransferContract Hex) :
    KeepsDeals node
      (sendGetSetupTx env node now ntp trade contractHash contract) := by
  unfold sendGetSetupTx
  split
  · rfl
  simp only
  refine KeepsDeals.attempt rfl fun setupTxid => ?_
  refine KeepsDeals.bind (sendToMatch_keepsDeals _ _ _) fun after _ same => ?_
  exact (Node.deals_updateState _ _ _ _).trans same

theorem initiateMicrotransfer_keepsDeals
    (now : Time)
    (ntp : Nat)
    (trade : TradeRef)
    (contractHash : ContractHash)
    (contract : MicrotransferContract Hex) :
    KeepsDeals node
      (initiateMicrotransfer env node now ntp trade contractHash contract) := by
  unfold initiateMicrotransfer
  split
  · rfl
  simp only
  refine KeepsDeals.attempt rfl fun result => ?_
  split
  · rfl
  · exact (sendToMatch_keepsDeals _ _ _).trans
      (Node.deals_updateState _ _ _ _)

theorem redeemCallback_keepsDeals
    (contractHash : ContractHash)
    (now : Time) :
    KeepsDeals node (redeemCallback node contractHash now) := by
  unfold redeemCallback
  refine KeepsDeals.attempt rfl fun (trade, _) => ?_
  have closed : ({ node with
      heap := node.heap.modify trade fun found =>
        { found with status := .microtransferComplete } } : Node Hex).deals =
      node.deals := by
    simp only [Node.deals, DealView.mk.injEq, and_true, true_and]
    exact TradeHeap.terms_modify _ _ fun _ => rfl
  refine KeepsDeals.attempt closed fun matched => ?_
  exact (Node.deals_updateState _ _ _ _).trans closed

theorem broadcastFinal_keepsDeals
    (now : Time)
    (contractHash : ContractHash)
    (contract : MicrotransferContract Hex)
    (broadcast : Broadcast) :
    KeepsDeals node
      (broadcastFinal node now contractHash contract broadcast) := by
  unfold broadcastFinal
  split
  · rfl
  refine KeepsDeals.attempt rfl fun _ => ?_
  simp only
  refine KeepsDeals.bind ?_ fun after _ same =>
    KeepsDeals.attempt same fun _ => same
  have stored (before : Node Hex) : (if broadcast.addWatch.stored then
      { before with redeemWatches := before.redeemWatches ++ [contractHash] }
      else before).deals = before.deals := by
    split <;> rfl
  have watched := (stored _).trans (Node.deals_updateState node
    contract.matched .pendingMicrotransferConfirm now)
  split
  · exact (redeemCallback_keepsDeals _ contractHash now).trans watched
  · exact watched

theorem contractStep_keepsDeals
    (now : Time)
    (ntp : Nat)
    (trade : TradeRef)
    (contractHash : ContractHash)
    (broadcast : Broadcast) :
    KeepsDeals node
      (contractStep env node now ntp trade contractHash broadcast) := by
  unfold contractStep
  split
  · rfl
  split
  · rfl
  next contract _ =>
  simp only
  refine Outcome.attempt_state (motive := fun after : Node Hex =>
    after.deals = node.deals) rfl fun marked found => ?_
  cases marked with
  | none => rfl
  | some marked =>
      have same := markChecked_deals found
      refine KeepsDeals.bind
        ((sendGetRefundSig_keepsDeals env marked now ntp trade contractHash
          contract).trans same) fun after _ same => ?_
      refine KeepsDeals.bind
        ((sendGetSetupTx_keepsDeals env after now ntp trade contractHash
          contract).trans same) fun after _ same => ?_
      refine KeepsDeals.bind
        ((initiateMicrotransfer_keepsDeals env after now ntp trade contractHash
          contract).trans same) fun after _ same => ?_
      exact (broadcastFinal_keepsDeals after now contractHash contract
        broadcast).trans same

theorem routeReply_deals
    (now : Time)
    (reply : HybridReply Hex) :
    (routeReply now node reply).deals = node.deals := by
  have checked {after : Node Hex} {flag : Bool}
      (checks : checkReply node reply now = (after, flag)) :
      after.deals = node.deals := by
    unfold checkReply at checks
    split at checks
    · cases checks
      rfl
    · exact Node.deals_of_updateState checks
  have sentAll (before : Node Hex) (lines : List (Line Hex)) :
      (lines.foldl (fun node line => node.sendLine reply.sourceCon line)
        before).deals = before.deals := by
    induction lines generalizing before with
    | nil => rfl
    | cons line lines inductionHypothesis =>
        rw [List.foldl_cons, inductionHypothesis, Node.deals_sendLine]
  unfold routeReply
  split
  next checks => exact (sentAll _ _).trans (checked checks)
  next checks =>
    have kept := checked checks
    exact kept

theorem routeReplies_deals (now : Time) :
    (routeReplies node now).deals = node.deals := by
  have routed (before : Node Hex) (replies : List (HybridReply Hex)) :
      (replies.foldl (routeReply now) before).deals = before.deals := by
    induction replies generalizing before with
    | nil => rfl
    | cons reply replies inductionHypothesis =>
        rw [List.foldl_cons, inductionHypothesis, routeReply_deals]
  exact routed _ _

theorem runUncaught_deals (outcome : Outcome (Node Hex) PyError Unit) :
    (runUncaught outcome).deals = outcome.state.deals := by
  unfold runUncaught
  split <;> rfl

/-- The microtransfer protocol leaves the deals of a node alone. -/
theorem step_deals (event : Event Hex) :
    (step env node event).deals = node.deals := by
  unfold step
  split
  · rfl
  cases event with
  | message arrival msg rpc instanceId =>
      exact (deals_understand _ _).trans
        (parseMsg_keepsDeals env node rpc instanceId arrival msg)
  | ready now ready broadcast =>
      exact parseReadyMsg_keepsDeals env node now ready broadcast
  | setupConfirmed now index =>
      simp only
      split
      · exact setupCallback_deals node _ now
      · rfl
  | redeemConfirmed now index =>
      simp only
      split
      · exact redeemCallback_keepsDeals node _ now
      · rfl
  | contractStep now ntp trade contractHash broadcast =>
      exact (runUncaught_deals _).trans
        (contractStep_keepsDeals env node now ntp trade contractHash broadcast)
  | routeReplies now => exact routeReplies_deals node now

/-- No run of the microtransfer protocol changes what the node has agreed to
trade. -/
theorem run_deals (events : List (Event Hex)) :
    (run env node events).deals = node.deals := by
  have keeps : ∀ (after : Node Hex) (event : Event Hex),
      after.deals = node.deals → (step env after event).deals = node.deals :=
    fun after event same => (step_deals env after event).trans same
  exact Machine.invariant_always (step env) keeps rfl events

end Protocol
end Coinbend
