import Coinbend.Protocol.MainLoop
import Coinbend.Protocol.RefundMachine

/-!
# Refund before transfer, on a node

The view of a node that the order of refund and payments depends on, and what
each way of changing a node keeps: entering a state, sending or queueing lines,
storing a contract, recording a setup transaction and storing an accepted
refund.
-/

namespace Coinbend

variable {Hex : Type}

/-- What of a contract its payments leave as it is. -/
def MicrotransferContract.terms (contract : MicrotransferContract Hex) :
    MicrotransferContract Hex :=
  contract.progress 0 0 none

/-- The contract a line is a payment for. -/
def Line.paymentFor : Line Hex → Option ContractHash
  | .message msg =>
      match msg.payload with
      | .returnAdjustedRefund contractHash _ _ _ => some contractHash
      | _ => none
  | _ => none

namespace Node

/-- Everything sent and everything queued to be sent. -/
def outgoing (node : Node Hex) : List (Line Hex) :=
  node.sent.map Prod.snd ++ node.hybridReplies.flatMap HybridReply.lines

/-- The contract a listed trade has under a hash. -/
def registered
    (node : Node Hex)
    (trade : TradeRef)
    (contractHash : ContractHash) : Option (MicrotransferContract Hex) :=
  if trade ∈ node.trades then (node.factory trade).contracts.get? contractHash
  else none

/-- What the order of refund and payments depends on. -/
def refundView (node : Node Hex) :
    RefundView (MicrotransferContract Hex) (SignedTx Hex) where
  contracts := fun trade contractHash =>
    (node.registered trade contractHash).map fun contract =>
      (contract.matched, contract.terms)
  state := fun matched => (node.matchState matched).state
  setup := fun trade => (node.factory trade).setup.signed.map SignedTx.txid
  signed := fun trade => (node.factory trade).refund.signed
  paid := fun contractHash =>
    ∃ line ∈ node.outgoing, line.paymentFor = some contractHash

/-- Two nodes have the same matches, apart from their progress. -/
structure SameMatches (before after : Node Hex) : Prop where
  trades : after.trades = before.trades
  matchTable : after.matchTable = before.matchTable
  contractHash : ∀ matched, (after.matchState matched).contractHash =
    (before.matchState matched).contractHash
  contract : ∀ matched, (after.matchState matched).contract =
    (before.matchState matched).contract

theorem findMatchState_congr
    {before after : Node Hex}
    (same : SameMatches before after)
    (contractHash : ContractHash) :
    after.findMatchState contractHash = before.findMatchState contractHash := by
  simp only [findMatchState, same.trades, same.matchTable, same.contractHash]

theorem findMatchState_eq_some
    {node : Node Hex}
    {contractHash : ContractHash}
    {trade : TradeRef}
    {matched : MatchRef}
    (found : node.findMatchState contractHash = some (trade, matched)) :
    trade ∈ node.trades ∧
      (node.matchState matched).contractHash = some contractHash := by
  obtain ⟨candidate, listed, isFound⟩ := List.exists_of_findSome?_eq_some found
  rw [Option.map_eq_some_iff] at isFound
  obtain ⟨_, hasHash, ⟨⟩⟩ := isFound
  exact ⟨listed, by simpa using List.find?_some hasHash⟩

theorem findContract_eq_some
    {node : Node Hex}
    {contractHash : ContractHash}
    {trade : TradeRef}
    {contract : MicrotransferContract Hex}
    (found : node.findContract contractHash = some (trade, contract)) :
    node.registered trade contractHash = some contract := by
  obtain ⟨candidate, listed, isFound⟩ := List.exists_of_findSome?_eq_some found
  rw [Option.map_eq_some_iff] at isFound
  obtain ⟨_, stored, ⟨⟩⟩ := isFound
  rw [registered, if_pos listed]
  exact stored

theorem registered_eq_some
    {node : Node Hex}
    {trade : TradeRef}
    {contractHash : ContractHash}
    {contract : MicrotransferContract Hex}
    (found : node.registered trade contractHash = some contract) :
    trade ∈ node.trades ∧
      (node.factory trade).contracts.get? contractHash = some contract := by
  unfold registered at found
  split at found
  next listed => exact ⟨listed, found⟩
  · cases found

theorem contracts_of_registered
    {node : Node Hex}
    {trade : TradeRef}
    {contractHash : ContractHash}
    {contract : MicrotransferContract Hex}
    (found : node.registered trade contractHash = some contract) :
    node.refundView.contracts trade contractHash =
      some (contract.matched, contract.terms) := by
  show Option.map _ _ = _
  rw [found]
  rfl

theorem sameMatches_modifyMatch
    (node : Node Hex)
    (matched : MatchRef)
    (change : MatchState Hex → MatchState Hex)
    (contractHash : (change (node.matchState matched)).contractHash =
      (node.matchState matched).contractHash)
    (contract : (change (node.matchState matched)).contract =
      (node.matchState matched).contract) :
    SameMatches node (node.modifyMatch matched change) where
  trades := rfl
  matchTable := rfl
  contractHash := by
    intro other
    by_cases same : other = matched
    · subst same
      rw [modifyMatch_same]
      exact contractHash
    · rw [modifyMatch_of_ne node change same]
  contract := by
    intro other
    by_cases same : other = matched
    · subst same
      rw [modifyMatch_same]
      exact contract
    · rw [modifyMatch_of_ne node change same]

/-- The states of the matches after one of them changed. -/
theorem state_modifyMatch
    (node : Node Hex)
    (matched : MatchRef)
    (change : MatchState Hex → MatchState Hex) :
    (node.modifyMatch matched change).refundView.state =
      Function.update node.refundView.state matched
        (change (node.matchState matched)).state := by
  funext other
  show ((node.modifyMatch matched change).matchState other).state = _
  by_cases same : other = matched
  · subst same
    rw [modifyMatch_same, Function.update_self]
  · rw [modifyMatch_of_ne node change same, Function.update_of_ne same]
    rfl

/-- Two factories have the same contracts, apart from their progress. -/
def SameContracts (before after : MicrotransferFactory Hex) : Prop :=
  ∀ contractHash,
    (after.contracts.get? contractHash).map
        (fun contract => (contract.matched, contract.terms)) =
      (before.contracts.get? contractHash).map
        (fun contract => (contract.matched, contract.terms))

theorem contracts_modifyFactory
    (node : Node Hex)
    (trade : TradeRef)
    (change : MicrotransferFactory Hex → MicrotransferFactory Hex)
    (same : SameContracts (node.factory trade) (change (node.factory trade))) :
    (node.modifyFactory trade change).refundView.contracts =
      node.refundView.contracts := by
  funext other contractHash
  have sameStored :
      (((node.modifyFactory trade change).factory other).contracts.get?
          contractHash).map
          (fun contract => (contract.matched, contract.terms)) =
        ((node.factory other).contracts.get? contractHash).map
          (fun contract => (contract.matched, contract.terms)) := by
    by_cases sameTrade : other = trade
    · subst sameTrade
      rw [modifyFactory_same]
      exact same contractHash
    · rw [modifyFactory_of_ne node change sameTrade]
  simp only [refundView, registered]
  by_cases listed : other ∈ node.trades
  · rw [if_pos listed]
    exact (congrArg _ (if_pos listed)).trans sameStored
  · rw [if_neg listed]
    exact congrArg _ (if_neg listed)

theorem setup_modifyFactory
    (node : Node Hex)
    (trade : TradeRef)
    (change : MicrotransferFactory Hex → MicrotransferFactory Hex) :
    (node.modifyFactory trade change).refundView.setup =
      Function.update node.refundView.setup trade
        ((change (node.factory trade)).setup.signed.map SignedTx.txid) := by
  funext other
  show ((node.modifyFactory trade change).factory other).setup.signed.map _ = _
  by_cases same : other = trade
  · subst same
    rw [modifyFactory_same, Function.update_self]
  · rw [modifyFactory_of_ne node change same, Function.update_of_ne same]
    rfl

theorem signed_modifyFactory
    (node : Node Hex)
    (trade : TradeRef)
    (change : MicrotransferFactory Hex → MicrotransferFactory Hex) :
    (node.modifyFactory trade change).refundView.signed =
      Function.update node.refundView.signed trade
        (change (node.factory trade)).refund.signed := by
  funext other
  show ((node.modifyFactory trade change).factory other).refund.signed = _
  by_cases same : other = trade
  · subst same
    rw [modifyFactory_same, Function.update_self]
  · rw [modifyFactory_of_ne node change same, Function.update_of_ne same]
    rfl

end Node

/-- `check_refund_works` returned a signed refund: it accepted a signature of
the transaction `build_refund_tx` makes for the contract and its setup
transaction. -/
def RefundAccepted (env : ProtocolEnv Hex) :
    Acceptance (MicrotransferContract Hex) (SignedTx Hex) :=
  fun contract setupTxid signed =>
    ∃ prec refund ourFirstSig ourSecondSig theirSig,
      MicrotransferContract.buildRefundTx (env.micro prec) contract
        (some setupTxid) none = .ok refund ∧
      MicrotransferContract.tryRefund env.lib contract.keys refund.txHex
        ourFirstSig ourSecondSig theirSig .us = some signed

/-- The invariant of a node: contract hashes keep the match they belong to,
a match with a contract has its hash, and refunds come before payments.
`contracts` are the contracts of the node. -/
structure RefundKept
    (env : ProtocolEnv Hex)
    (home : Home)
    (contracts : Nat → String → Option (Nat × MicrotransferContract Hex))
    (node : Node Hex) : Prop where
  homes : ∀ contractHash, node.findMatchState contractHash = home contractHash
  details : ∀ {matched contractHash contract},
    (node.matchState matched).contractHash = some contractHash →
    (node.matchState matched).contract = some contract →
    env.sha256 contract.msg = contractHash
  contracts_eq : node.refundView.contracts = contracts
  first : node.refundView.RefundFirst home (RefundAccepted env)

namespace RefundKept

variable {env : ProtocolEnv Hex} {home : Home}
variable {contracts : Nat → String → Option (Nat × MicrotransferContract Hex)}
variable {node after : Node Hex}

theorem homes_of_same
    (kept : RefundKept env home contracts node)
    (same : node.SameMatches after)
    (contractHash : ContractHash) :
    after.findMatchState contractHash = home contractHash := by
  rw [Node.findMatchState_congr same]
  exact kept.homes contractHash

theorem details_of_same
    (kept : RefundKept env home contracts node)
    (same : node.SameMatches after)
    {matched : MatchRef}
    {contractHash : ContractHash}
    {contract : ParsedContract}
    (hash : (after.matchState matched).contractHash = some contractHash)
    (found : (after.matchState matched).contract = some contract) :
    env.sha256 contract.msg = contractHash := by
  rw [same.contractHash] at hash
  rw [same.contract] at found
  exact kept.details hash found

/-- No two hashes belong to one match. -/
theorem injective (kept : RefundKept env home contracts node) :
    home.Injective := by
  intro hash other trade otherTrade matched homed otherHomed
  rw [← kept.homes] at homed otherHomed
  have first := (Node.findMatchState_eq_some homed).2
  rw [(Node.findMatchState_eq_some otherHomed).2] at first
  exact (Option.some.inj first).symm

/-- At most lines are sent or queued; a payment is for a contract behind its
gate. -/
theorem pay
    (kept : RefundKept env home contracts node)
    (after : Node Hex)
    (same : node.SameMatches after)
    (sameContracts : after.refundView.contracts = node.refundView.contracts)
    (state : after.refundView.state = node.refundView.state)
    (setup : after.refundView.setup = node.refundView.setup)
    (signed : after.refundView.signed = node.refundView.signed)
    (paid : ∀ line ∈ after.outgoing, line ∈ node.outgoing ∨
      ∀ contractHash, line.paymentFor = some contractHash →
        node.refundView.Behind contractHash) :
    RefundKept env home contracts after where
  homes := kept.homes_of_same same
  details := kept.details_of_same same
  contracts_eq := sameContracts.trans kept.contracts_eq
  first := by
    apply kept.first.pay sameContracts state setup signed
    rintro contractHash ⟨line, isSent, isPayment⟩
    rcases paid line isSent with earlier | behind
    · exact Or.inl ⟨line, earlier, isPayment⟩
    · exact Or.inr (behind contractHash isPayment)

theorem sendLine
    (kept : RefundKept env home contracts node)
    (con : Con)
    (line : Line Hex)
    (paid : ∀ contractHash, line.paymentFor = some contractHash →
      node.refundView.Behind contractHash) :
    RefundKept env home contracts (node.sendLine con line) := by
  apply kept.pay (node.sendLine con line)
    ⟨rfl, rfl, fun _ => rfl, fun _ => rfl⟩ rfl rfl rfl rfl
  intro other isSent
  simp only [Node.outgoing, Node.sendLine, List.map_append, List.map_cons,
    List.map_nil, List.append_assoc, List.mem_append, List.mem_singleton]
    at isSent
  rcases isSent with earlier | rfl | queued
  · exact Or.inl (List.mem_append_left _ earlier)
  · exact Or.inr paid
  · exact Or.inl (List.mem_append_right _ queued)

theorem queueReply
    (kept : RefundKept env home contracts node)
    (reply : HybridReply Hex)
    (paid : ∀ line ∈ reply.lines, ∀ contractHash,
      line.paymentFor = some contractHash →
      node.refundView.Behind contractHash) :
    RefundKept env home contracts
      { node with hybridReplies := node.hybridReplies ++ [reply] } := by
  apply kept.pay
    { node with hybridReplies := node.hybridReplies ++ [reply] }
    ⟨rfl, rfl, fun _ => rfl, fun _ => rfl⟩ rfl rfl rfl rfl
  intro line isOutgoing
  simp only [Node.outgoing, List.flatMap_append, List.flatMap_cons,
    List.flatMap_nil, List.append_nil, List.mem_append] at isOutgoing
  rcases isOutgoing with sent | queued | new
  · exact Or.inl (List.mem_append_left _ sent)
  · exact Or.inl (List.mem_append_right _ queued)
  · exact Or.inr (paid line new)

/-- A match changes in fields that do not matter here. -/
theorem modifyMatch
    (kept : RefundKept env home contracts node)
    (matched : MatchRef)
    (change : MatchState Hex → MatchState Hex)
    (state : (change (node.matchState matched)).state =
      (node.matchState matched).state)
    (contractHash : (change (node.matchState matched)).contractHash =
      (node.matchState matched).contractHash)
    (contract : (change (node.matchState matched)).contract =
      (node.matchState matched).contract) :
    RefundKept env home contracts (node.modifyMatch matched change) := by
  apply kept.pay _
    (Node.sameMatches_modifyMatch node matched change contractHash contract)
  · rfl
  · rw [Node.state_modifyMatch, state]
    exact Function.update_eq_self matched node.refundView.state
  · rfl
  · rfl
  · exact fun line isOutgoing => Or.inl isOutgoing

/-- A factory changes in fields that do not matter here. -/
theorem modifyFactory
    (kept : RefundKept env home contracts node)
    (trade : TradeRef)
    (change : MicrotransferFactory Hex → MicrotransferFactory Hex)
    (same : Node.SameContracts (node.factory trade)
      (change (node.factory trade)))
    (setup : (change (node.factory trade)).setup.signed =
      (node.factory trade).setup.signed)
    (signed : (change (node.factory trade)).refund.signed =
      (node.factory trade).refund.signed) :
    RefundKept env home contracts (node.modifyFactory trade change) := by
  apply kept.pay (node.modifyFactory trade change)
    ⟨rfl, rfl, fun _ => rfl, fun _ => rfl⟩
  · exact Node.contracts_modifyFactory node trade change same
  · rfl
  · rw [Node.setup_modifyFactory, setup]
    exact Function.update_eq_self trade node.refundView.setup
  · rw [Node.signed_modifyFactory, signed]
    exact Function.update_eq_self trade node.refundView.signed
  · exact fun line isOutgoing => Or.inl isOutgoing

/-- A contract makes progress. -/
theorem storeContract
    (kept : RefundKept env home contracts node)
    {trade : TradeRef}
    {contractHash : ContractHash}
    (changed : MicrotransferContract Hex)
    (found : contracts trade contractHash =
      some (changed.matched, changed.terms)) :
    RefundKept env home contracts
      (Protocol.storeContract node trade contractHash changed) := by
  have stored : ((node.factory trade).contracts.get? contractHash).map
      (fun contract => (contract.matched, contract.terms)) =
        some (changed.matched, changed.terms) := by
    rw [← kept.contracts_eq] at found
    obtain ⟨contract, registered, same⟩ := Option.map_eq_some_iff.mp found
    rw [(Node.registered_eq_some registered).2, Option.map_some, same]
  apply kept.modifyFactory
  · intro other
    show Option.map _ ((Dict.set _ _ _).get? other) = _
    rw [Dict.get?_set]
    split
    next same =>
      subst same
      exact stored.symm
    · rfl
  · rfl
  · rfl

/-- A setup transaction is recorded that has the recorded id, or while no
contract of the factory is behind its gate. -/
theorem recordSetup
    (kept : RefundKept env home contracts node)
    {trade : TradeRef}
    {signed : SignedTx Hex}
    (settled : node.refundView.setup trade = some signed.txid ∨
      node.refundView.Early trade) :
    RefundKept env home contracts
      (node.modifyFactory trade fun factory =>
        { factory with setup := { factory.setup with signed := some signed } })
      where
  homes := kept.homes_of_same ⟨rfl, rfl, fun _ => rfl, fun _ => rfl⟩
  details := kept.details_of_same ⟨rfl, rfl, fun _ => rfl, fun _ => rfl⟩
  contracts_eq := by
    rw [← kept.contracts_eq]
    exact Node.contracts_modifyFactory node trade _ fun _ => rfl
  first := by
    refine kept.first.setUp settled
      (Node.contracts_modifyFactory node trade _ fun _ => rfl) rfl
      (Node.setup_modifyFactory _ _ _) ?_ (fun _ isPaid => isPaid)
    rw [Node.signed_modifyFactory]
    exact Function.update_eq_self trade node.refundView.signed

theorem updateState
    (kept : RefundKept env home contracts node)
    (matched : MatchRef)
    (state : ProtocolState)
    (now : Time)
    (notGate : (node.matchState matched).state = some state ∨
      state.isRefundGate = false) :
    RefundKept env home contracts (node.updateState matched state now).1 := by
  unfold Node.updateState
  split
  next allowed =>
    have same := Node.sameMatches_modifyMatch node matched
      (fun found => Node.MatchState.enter found state now) rfl rfl
    exact {
      homes := kept.homes_of_same same
      details := kept.details_of_same same
      contracts_eq := kept.contracts_eq
      first := kept.first.enter allowed notGate rfl
        (Node.state_modifyMatch _ _ _) rfl rfl (fun _ isPaid => isPaid) }
  · exact kept

/-- The refund of a contract is accepted and its match passes its gate. -/
theorem acceptRefund
    (kept : RefundKept env home contracts node)
    {trade : TradeRef}
    {contractHash : ContractHash}
    {contract : MicrotransferContract Hex}
    {state : ProtocolState}
    {signed : SignedTx Hex}
    (now : Time)
    (found : node.registered trade contractHash = some contract)
    (allowed : stateMachine (node.matchState contract.matched).state state =
      true)
    {setupTxid : Txid}
    (isSetup : node.refundView.setup trade = some setupTxid)
    (works : RefundAccepted env contract setupTxid signed)
    (alone : ∀ other otherContract,
      (node.factory trade).contracts.get? other = some otherContract →
      other ≠ contractHash →
      afterRefund (node.matchState otherContract.matched).state = false) :
    RefundKept env home contracts
      ((node.modifyMatch contract.matched fun found =>
          Node.MatchState.enter found state now).modifyFactory trade
        fun factory =>
          { factory with
            refund := { factory.refund with signed := some signed } }) := by
  have same := Node.sameMatches_modifyMatch node contract.matched
    (fun found => Node.MatchState.enter found state now) rfl rfl
  have sameContracts := Node.contracts_modifyFactory
    (node.modifyMatch contract.matched fun found =>
      Node.MatchState.enter found state now) trade
    (fun factory =>
      { factory with refund := { factory.refund with signed := some signed } })
    (fun _ => rfl)
  exact {
    homes := kept.homes_of_same ⟨same.trades, same.matchTable,
      same.contractHash, same.contract⟩
    details := kept.details_of_same ⟨same.trades, same.matchTable,
      same.contractHash, same.contract⟩
    contracts_eq := sameContracts.trans kept.contracts_eq
    first := by
      refine kept.first.accept (Node.contracts_of_registered found) allowed
        isSetup works ?_ sameContracts
        (Node.state_modifyMatch node contract.matched
          fun found => Node.MatchState.enter found state now) ?_
        (Node.signed_modifyFactory _ _ _) (fun _ isPaid => isPaid)
      swap
      · rw [Node.setup_modifyFactory]
        exact Function.update_eq_self trade node.refundView.setup
      intro other otherMatched otherTerms otherFound different
      have isStored : (node.registered trade other).map
          (fun contract => (contract.matched, contract.terms)) =
        some (otherMatched, otherTerms) := otherFound
      rw [Option.map_eq_some_iff] at isStored
      obtain ⟨otherContract, isRegistered, ⟨⟩⟩ := isStored
      exact alone other otherContract
        (Node.registered_eq_some isRegistered).2 different }

/-- A contract is registered for a match before its gate. -/
theorem register
    (kept : RefundKept env home contracts node)
    {trade : TradeRef}
    {contractHash : ContractHash}
    {contract : MicrotransferContract Hex}
    {factory : MicrotransferFactory Hex}
    (homed : node.findMatchState contractHash = some (trade, contract.matched))
    (early : afterRefund (node.matchState contract.matched).state = false)
    (stored : factory.contracts =
      (node.factory trade).contracts.set contractHash contract)
    (setup : factory.setup.signed = (node.factory trade).setup.signed)
    (refund : factory.refund = (node.factory trade).refund) :
    RefundKept env home
      (Function.update contracts trade
        (Function.update (contracts trade) contractHash
          (some (contract.matched, contract.terms))))
      (node.modifyFactory trade fun _ => factory) := by
  have listed := (Node.findMatchState_eq_some homed).1
  have same : node.SameMatches (node.modifyFactory trade fun _ => factory) :=
    ⟨rfl, rfl, fun _ => rfl, fun _ => rfl⟩
  have nowContracts :
      (node.modifyFactory trade fun _ => factory).refundView.contracts =
        Function.update node.refundView.contracts trade
          (Function.update (node.refundView.contracts trade) contractHash
            (some (contract.matched, contract.terms))) := by
    funext other otherHash
    by_cases sameTrade : other = trade
    · subst sameTrade
      rw [Function.update_self]
      show Option.map _ (if other ∈ node.trades then
        ((node.modifyFactory other fun _ => factory).factory
          other).contracts.get? otherHash else none) = _
      rw [if_pos listed, Node.modifyFactory_same, stored, Dict.get?_set]
      split
      next sameHash =>
        subst sameHash
        rw [Function.update_self]
        rfl
      next differentHash =>
        rw [Function.update_of_ne differentHash]
        show _ = Option.map _ (if other ∈ node.trades then _ else none)
        rw [if_pos listed]
    · rw [Function.update_of_ne sameTrade]
      show Option.map _ (if other ∈ node.trades then
        ((node.modifyFactory trade fun _ => factory).factory
          other).contracts.get? otherHash else none) = _
      rw [Node.modifyFactory_of_ne node _ sameTrade]
      rfl
  exact {
    homes := kept.homes_of_same same
    details := kept.details_of_same same
    contracts_eq := by rw [nowContracts, kept.contracts_eq]
    first := by
      refine kept.first.register ?_ early nowContracts rfl ?_ ?_
        (fun _ isPaid => isPaid)
      · rw [← kept.homes]
        exact homed
      · rw [Node.setup_modifyFactory, setup]
        exact Function.update_eq_self trade node.refundView.setup
      · rw [Node.signed_modifyFactory, refund]
        exact Function.update_eq_self trade node.refundView.signed }

theorem behind
    {trade : TradeRef}
    {contractHash : ContractHash}
    {matched : MatchRef}
    {terms : MicrotransferContract Hex}
    (kept : RefundKept env home contracts node)
    (found : contracts trade contractHash = some (matched, terms))
    (gone : afterRefund (node.matchState matched).state = true) :
    node.refundView.Behind contractHash := by
  refine ⟨trade, matched, terms, ?_, gone⟩
  rw [kept.contracts_eq]
  exact found

/-- A contract of a node stays behind its gate when a match moves. -/
theorem behind_updateState
    {contractHash : ContractHash}
    (behind : node.refundView.Behind contractHash)
    (matched : MatchRef)
    (state : ProtocolState)
    (now : Time) :
    (node.updateState matched state now).1.refundView.Behind contractHash := by
  unfold Node.updateState
  split
  next allowed =>
    exact behind.update allowed rfl (Node.state_modifyMatch _ _ _)
  · exact behind

end RefundKept
end Coinbend
