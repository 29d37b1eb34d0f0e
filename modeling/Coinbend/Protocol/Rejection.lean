import Coinbend.Protocol.Forgery
import Coinbend.Protocol.RefundKept

/-!
# Rejected messages

What a correctly signed message does that a later check rejects.
`parse_return_setup_tx` and `parse_return_adjusted_refund` check before they
move the match; `parse_get_refund_sig` and `parse_return_refund_sig` move it
first.
-/

namespace Coinbend

variable {Hex : Type}

namespace Node

/-- Two nodes agree on the match states and on what the factories record of
refunds and setup transactions. -/
structure RecordsUnchanged (before after : Node Hex) : Prop where
  state : ∀ matched,
    (after.matchState matched).state = (before.matchState matched).state
  refund : ∀ trade, (after.factory trade).refund = (before.factory trade).refund
  refunds : ∀ trade,
    (after.factory trade).refunds = (before.factory trade).refunds
  setups : ∀ trade, (after.factory trade).setups = (before.factory trade).setups
  setupTxids : ∀ trade,
    (after.factory trade).setupTxids = (before.factory trade).setupTxids

end Node

namespace Protocol

variable (env : ProtocolEnv Hex)

/-- The payment of a `return_adjusted_refund` whose signatures decode. -/
def receivedTx : Payload Hex → Option (ReceivedTx Hex)
  | .returnAdjustedRefund _ txHex (some firstSig) (some secondSig) =>
      some { txHex, firstSig, secondSig }
  | _ => none

/-- A message passes the checks of its handler after the signature check: the
state machine allows it and its transaction and signatures are in order. -/
def PassesChecks
    (node : Node Hex)
    (payload : Payload Hex)
    (trade : TradeRef)
    (contract : MicrotransferContract Hex) : Prop :=
  let factory := node.factory trade
  let current := (node.matchState contract.matched).state
  match payload with
  | .getRefundSig contractHash refundTxHex =>
      (∃ moves ∈ getRefundSigState (node.actor trade) current,
        stateMachine current moves.1 = true) ∧
      ∃ refundSig, checkGetRefundSig env node.prec factory contract contractHash
        refundTxHex = .ok (some refundSig)
  | .returnRefundSig _ theirSig =>
      stateMachine current (returnRefundSigState (node.actor trade)) = true ∧
      ∃ decoded ∈ theirSig, ∃ signed,
        checkReturnRefundSig env node.prec factory contract decoded =
          .ok signed
  | .returnSetupTx contractHash setupTxHex collateralInfo =>
      stateMachine current (returnSetupTxState (node.actor trade)) = true ∧
      ∃ record, checkReturnSetupTx env node.prec factory contract contractHash
        setupTxHex collateralInfo = .ok (some record)
  | .returnAdjustedRefund contractHash _ _ _ =>
      current = some (acceptState (node.actor trade)) ∧
      ∃ received ∈ receivedTx payload, ∃ result, result ≠ .rejected ∧
        (adjustReceived env node.prec factory contract contractHash
          (some received)).result = .ok result
  | _ => False

/-- One of the four messages that carry a transaction or a refund signature. -/
def Checked : Payload Hex → Prop
  | .shakeOnIt _ => False
  | .getSetupTx _ _ => False
  | _ => True

/-- A correctly signed message for a registered contract that passes the checks
of its handler when it arrives in time to be read. -/
def Accepted (node : Node Hex) (msg : Message Hex) : Prop :=
  (∃ arrival, isRead env arrival msg = true) ∧
  ∃ trade contract,
    node.findContract msg.payload.contractHash = some (trade, contract) ∧
    sentByThem env contract msg = true ∧
    PassesChecks env node msg.payload trade contract

/-- A correctly signed message for a registered contract that its handler
rejects. -/
structure Rejected
    (node : Node Hex)
    (msg : Message Hex)
    (trade : TradeRef)
    (contract : MicrotransferContract Hex) : Prop where
  checked : Checked msg.payload
  found : node.findContract msg.payload.contractHash = some (trade, contract)
  signed : sentByThem env contract msg = true
  fails : ¬PassesChecks env node msg.payload trade contract

/-- A rejected message that moves no match: a `get_refund_sig` or
`return_refund_sig` that the state machine refuses or that leads to the state
the match is in, any `return_setup_tx`, and a `return_adjusted_refund` that does
not meet a contract paid in full. -/
def MovesNoMatch
    (node : Node Hex)
    (payload : Payload Hex)
    (trade : TradeRef)
    (contract : MicrotransferContract Hex) : Prop :=
  let current := (node.matchState contract.matched).state
  match payload with
  | .getRefundSig _ _ =>
      ∀ moves ∈ getRefundSigState (node.actor trade) current,
        stateMachine current moves.1 = true → current = some moves.1
  | .returnRefundSig _ theirSig =>
      let state := returnRefundSigState (node.actor trade)
      theirSig ≠ none → stateMachine current state = true →
        current = some state
  | .returnAdjustedRefund contractHash _ _ _ =>
      ∀ received ∈ receivedTx payload,
        current = some (acceptState (node.actor trade)) →
        (adjustReceived env node.prec (node.factory trade) contract contractHash
          (some received)).result = .ok .rejected →
        ¬paidInFull contract
  | _ => True

/-- A rejected message that the expression of its handler does not find, or
that moves no match. -/
def RejectionInert
    (node : Node Hex)
    (arrival : Arrival)
    (msg : Message Hex)
    (trade : TradeRef)
    (contract : MicrotransferContract Hex) : Prop :=
  isRead env arrival msg = true →
    MovesNoMatch env node msg.payload trade contract

variable {env} {node : Node Hex} {arrival : Arrival} {msg : Message Hex}
variable {trade : TradeRef} {contract : MicrotransferContract Hex}

@[simp] theorem understand_raise
    (con : Con)
    (node : Node Hex)
    (error : PyError) :
    understand con (Outcome.raise node error) = node := rfl

/-! ## What a rejected message does -/

/-- A rejected `get_refund_sig` moves the match when it may. -/
theorem parseGetRefundSig_rejected
    {contractHash : ContractHash}
    {refundTxHex : Hex}
    (found : node.findContract contractHash = some (trade, contract))
    (signed : sentByThem env contract msg = true)
    (fails : ¬PassesChecks env node (.getRefundSig contractHash refundTxHex)
      trade contract) :
    understand arrival.con
        (parseGetRefundSig env node arrival msg contractHash refundTxHex) =
      match getRefundSigState (node.actor trade)
          (node.matchState contract.matched).state with
      | none => node
      | some (state, _) =>
          (node.updateState contract.matched state arrival.now).1 := by
  unfold parseGetRefundSig
  simp only [found, signed, Bool.true_eq_false, if_false]
  cases moves : getRefundSigState (node.actor trade)
      (node.matchState contract.matched).state with
  | none => rfl
  | some pair =>
      obtain ⟨state, waits⟩ := pair
      simp only
      by_cases allowed :
          stateMachine (node.matchState contract.matched).state state = true
      · rw [Node.updateState_of_allowed _ allowed]
        have notChecked : ∀ refundSig, checkGetRefundSig env node.prec
            (node.factory trade) contract contractHash refundTxHex ≠
              .ok (some refundSig) := by
          intro refundSig checked
          exact fails ⟨⟨(state, waits), moves, allowed⟩, refundSig, checked⟩
        simp only [Node.modifyMatch]
        cases checked : checkGetRefundSig env node.prec (node.factory trade)
            contract contractHash refundTxHex with
        | error error => rfl
        | ok refundSig =>
            cases refundSig with
            | none => rfl
            | some refundSig => exact absurd checked (notChecked refundSig)
      · rw [Node.updateState_of_not_allowed _ allowed]
        rfl

/-- A rejected `return_refund_sig` moves the match when it may. -/
theorem parseReturnRefundSig_rejected
    {contractHash : ContractHash}
    {theirSig : Option Sig}
    (found : node.findContract contractHash = some (trade, contract))
    (signed : sentByThem env contract msg = true)
    (fails : ¬PassesChecks env node (.returnRefundSig contractHash theirSig)
      trade contract) :
    understand arrival.con
        (parseReturnRefundSig env node arrival msg contractHash theirSig) =
      if theirSig = none then node
      else
        (node.updateState contract.matched
          (returnRefundSigState (node.actor trade)) arrival.now).1 := by
  unfold parseReturnRefundSig
  cases theirSig with
  | none => rfl
  | some theirSig =>
      simp only [Except.ofOption, Outcome.attempt_ok, found, signed,
        Bool.true_eq_false, if_false, reduceCtorEq]
      by_cases allowed : stateMachine (node.matchState contract.matched).state
          (returnRefundSigState (node.actor trade)) = true
      · rw [Node.updateState_of_allowed _ allowed]
        have notChecked : ∀ refund, checkReturnRefundSig env node.prec
            (node.factory trade) contract theirSig ≠ .ok refund := by
          intro refund checked
          exact fails ⟨allowed, theirSig, rfl, refund, checked⟩
        simp only [Node.modifyMatch]
        cases checked : checkReturnRefundSig env node.prec (node.factory trade)
            contract theirSig with
        | error error => rfl
        | ok refund => exact absurd checked (notChecked refund)
      · rw [Node.updateState_of_not_allowed _ allowed]
        rfl

/-- A rejected `return_setup_tx` does nothing. -/
theorem parseReturnSetupTx_rejected
    {contractHash : ContractHash}
    {setupTxHex : Option Hex}
    {collateralInfo : List (Option CollateralInfo)}
    (found : node.findContract contractHash = some (trade, contract))
    (signed : sentByThem env contract msg = true)
    (fails : ¬PassesChecks env node
      (.returnSetupTx contractHash setupTxHex collateralInfo) trade contract) :
    understand arrival.con
        (parseReturnSetupTx env node arrival msg contractHash setupTxHex
          collateralInfo) =
      node := by
  unfold parseReturnSetupTx
  simp only [found, signed, Bool.true_eq_false, if_false]
  cases checked : checkReturnSetupTx env node.prec (node.factory trade) contract
      contractHash setupTxHex collateralInfo with
  | error error => rfl
  | ok record =>
      cases record with
      | none => rfl
      | some record =>
          have notAllowed : ¬stateMachine
              (node.matchState contract.matched).state
              (returnSetupTxState (node.actor trade)) = true := by
            intro allowed
            exact fails ⟨allowed, record, checked⟩
          simp only [Outcome.attempt_ok]
          rw [Node.updateState_of_not_allowed _ notAllowed]
          rfl

/-- A payment that is answered by `None` changes nothing. -/
theorem adjustReceived_rejected_state
    {prec : Nat}
    {factory : MicrotransferFactory Hex}
    {contractHash : ContractHash}
    {received : ReceivedTx Hex}
    (rejected : (adjustReceived env prec factory contract contractHash
      (some received)).result = .ok .rejected) :
    (adjustReceived env prec factory contract contractHash
      (some received)).state = contract := by
  revert rejected
  unfold adjustReceived
  cases factory.setups.get? contractHash with
  | none => exact fun _ => rfl
  | some theirSetup =>
      cases factory.refunds.get? contractHash with
      | none => exact fun _ => rfl
      | some theirRefund =>
          simp only [Except.ofOption, Outcome.attempt_ok]
          exact MicrotransferContract.adjustRefundTx_rejected_state

/-- While some payment would be answered, one that raises changes nothing. -/
theorem adjustReceived_raised_state
    {prec : Nat}
    {factory : MicrotransferFactory Hex}
    {contractHash : ContractHash}
    {received other : ReceivedTx Hex}
    {result : AdjustResult Hex}
    {error : PyError}
    (answered : (adjustReceived env prec factory contract contractHash
      (some other)).result = .ok result)
    (notRejected : result ≠ .rejected)
    (raised : (adjustReceived env prec factory contract contractHash
      (some received)).result = .error error) :
    (adjustReceived env prec factory contract contractHash
      (some received)).state = contract := by
  revert answered raised
  unfold adjustReceived
  cases factory.setups.get? contractHash with
  | none => exact fun _ _ => rfl
  | some theirSetup =>
      cases factory.refunds.get? contractHash with
      | none => exact fun _ _ => rfl
      | some theirRefund =>
          simp only [Except.ofOption, Outcome.attempt_ok]
          intro answered raised
          exact MicrotransferContract.adjustRefundTx_raised_state answered
            notRejected raised

theorem storeContract_self
    {contractHash : ContractHash}
    (stored : (node.factory trade).contracts.get? contractHash =
      some contract) :
    storeContract node trade contractHash contract = node := by
  rw [storeContract, Node.modifyFactory, Dict.set_of_get? stored,
    Function.update_eq_self]

/-- The empty reply of a payment that is not answered. -/
def emptyReply (con : Con) : HybridReply Hex where
  lines := []
  statusChecker := none
  sourceCon := con

/-- What a rejected `return_adjusted_refund` leaves. -/
inductive RejectedPayment
    (env : ProtocolEnv Hex)
    (node : Node Hex)
    (arrival : Arrival)
    (payload : Payload Hex)
    (trade : TradeRef)
    (contract : MicrotransferContract Hex) : Node Hex → Prop
  /-- The signatures do not decode or the match takes no payments. -/
  | unchanged
      (idle : ∀ received ∈ receivedTx payload,
        (node.matchState contract.matched).state ≠
          some (acceptState (node.actor trade))) :
      RejectedPayment env node arrival payload trade contract node
  /-- The call raised, and the contract is stored as it left it. -/
  | raised
      (received : ReceivedTx Hex)
      (error : PyError)
      (isReceived : receivedTx payload = some received)
      (raises : (adjustReceived env node.prec (node.factory trade) contract
        payload.contractHash (some received)).result = .error error) :
      RejectedPayment env node arrival payload trade contract
        (storeContract node trade payload.contractHash
          (adjustReceived env node.prec (node.factory trade) contract
            payload.contractHash (some received)).state)
  /-- The call answered `None`; a match whose contract is paid in full moves
  on. -/
  | unanswered
      (received : ReceivedTx Hex)
      (moved : Node Hex)
      (isReceived : receivedTx payload = some received)
      (accepting : (node.matchState contract.matched).state =
        some (acceptState (node.actor trade)))
      (rejects : (adjustReceived env node.prec (node.factory trade) contract
        payload.contractHash (some received)).result = .ok .rejected)
      (moves : moved =
        if paidInFull contract then
          (node.updateState contract.matched .pendingMicrotransferComplete
            arrival.now).1
        else node) :
      RejectedPayment env node arrival payload trade contract
        { moved with
          hybridReplies := moved.hybridReplies ++ [emptyReply arrival.con] }

theorem parseReturnAdjustedRefund_rejected
    {contractHash : ContractHash}
    {refundTx : Hex}
    {refundSig1 refundSig2 : Option Sig}
    (found : node.findContract contractHash = some (trade, contract))
    (signed : sentByThem env contract msg = true)
    (fails : ¬PassesChecks env node
      (.returnAdjustedRefund contractHash refundTx refundSig1 refundSig2) trade
      contract) :
    RejectedPayment env node arrival
      (.returnAdjustedRefund contractHash refundTx refundSig1 refundSig2) trade
      contract
      (understand arrival.con
        (parseReturnAdjustedRefund env node arrival msg contractHash refundTx
          refundSig1 refundSig2)) := by
  unfold parseReturnAdjustedRefund
  cases refundSig1 with
  | none => exact .unchanged nofun
  | some firstSig =>
  cases refundSig2 with
  | none => exact .unchanged nofun
  | some secondSig =>
  simp only [Except.ofOption, Outcome.attempt_ok, found, signed,
    Bool.true_eq_false, if_false]
  by_cases accepting : (node.matchState contract.matched).state =
      some (acceptState (node.actor trade))
  · rw [if_neg (not_not.mpr accepting)]
    cases adjusted : (adjustReceived env node.prec (node.factory trade) contract
      contractHash (some ⟨refundTx, firstSig, secondSig⟩)).result with
    | error error => exact .raised _ error rfl adjusted
    | ok result =>
        have isRejected : result = .rejected := by
          by_contra notRejected
          exact fails ⟨accepting, _, rfl, result, notRejected, adjusted⟩
        subst isRejected
        have stored := Node.registered_eq_some (Node.findContract_eq_some found)
        simp only [Outcome.attempt_ok, adjustReceived_rejected_state adjusted,
          storeContract_self stored.2]
        exact .unanswered _ _ rfl accepting adjusted rfl
  · rw [if_pos accepting]
    exact .unchanged fun _ _ => accepting

/-! ## Acceptance afterwards -/

/-- What the checks of a message depend on: not the contracts of the factory,
and of the contract only its keys, match and lock time, apart from payments. -/
theorem PassesChecks.of_same
    {before after : Node Hex}
    {payload : Payload Hex}
    {changed : MicrotransferContract Hex}
    (passes : PassesChecks env before payload trade contract)
    (contracts : Dict ContractHash (MicrotransferContract Hex))
    (sameFactory : after.factory trade =
      { before.factory trade with contracts })
    (sameActor : after.actor trade = before.actor trade)
    (samePrec : after.prec = before.prec)
    (sameState : (after.matchState changed.matched).state =
      (before.matchState contract.matched).state)
    (sameKeys : changed.keys = contract.keys)
    (sameLock : changed.nlockTime = contract.nlockTime)
    (sameAnswer : ∀ received result, result ≠ .rejected →
      (adjustReceived env before.prec (before.factory trade) contract
        payload.contractHash (some received)).result = .ok result →
      (adjustReceived env before.prec (before.factory trade) changed
        payload.contractHash (some received)).result = .ok result) :
    PassesChecks env after payload trade changed := by
  cases payload with
  | shakeOnIt contractHash => exact passes
  | getSetupTx contractHash setupTxid => exact passes
  | getRefundSig contractHash refundTxHex =>
      simp only [PassesChecks, checkGetRefundSig, sameFactory, sameActor,
        samePrec, sameState, sameKeys, sameLock]
      exact passes
  | returnRefundSig contractHash refundSig =>
      simp only [PassesChecks, checkReturnRefundSig, sameFactory, sameActor,
        samePrec, sameState, sameKeys]
      exact passes
  | returnSetupTx contractHash setupTxHex collateralInfo =>
      simp only [PassesChecks, checkReturnSetupTx, sameFactory, sameActor,
        samePrec, sameState, sameKeys]
      exact passes
  | returnAdjustedRefund contractHash refundTx refundSig1 refundSig2 =>
      obtain ⟨accepting, received, isReceived, result, answered, paid⟩ := passes
      refine ⟨?_, received, isReceived, result, answered, ?_⟩
      · rw [sameState, sameActor]
        exact accepting
      · rw [samePrec, sameFactory]
        exact sameAnswer received result answered paid

/-- A node that differs in nothing the checks read accepts the same
messages. -/
theorem Accepted.of_same
    {before after : Node Hex}
    {good : Message Hex}
    (accepted : Accepted env before good)
    (sameTrades : after.trades = before.trades)
    (sameFactory : after.factory = before.factory)
    (sameHeap : after.heap = before.heap)
    (samePrec : after.prec = before.prec)
    (sameState : ∀ matched,
      (after.matchState matched).state = (before.matchState matched).state) :
    Accepted env after good := by
  obtain ⟨read, trade, contract, found, signed, passes⟩ := accepted
  refine ⟨read, trade, contract, ?_, signed, ?_⟩
  · rw [Node.findContract, sameTrades, sameFactory]
    exact found
  · apply passes.of_same (before.factory trade).contracts
    · rw [sameFactory]
    · rw [Node.actor, sameHeap]
      rfl
    · exact samePrec
    · exact sameState contract.matched
    · rfl
    · rfl
    · exact fun _ _ _ paid => paid

theorem get?_storeContract
    (node : Node Hex)
    (trade other : TradeRef)
    (contractHash otherHash : ContractHash)
    (changed : MicrotransferContract Hex) :
    ((storeContract node trade contractHash changed).factory
        other).contracts.get? otherHash =
      if other = trade ∧ otherHash = contractHash then some changed
      else (node.factory other).contracts.get? otherHash := by
  unfold storeContract
  by_cases sameTrade : other = trade
  · subst sameTrade
    rw [Node.modifyFactory_same, Dict.get?_set]
    simp only [true_and]
  · rw [Node.modifyFactory_of_ne node _ sameTrade, if_neg]
    exact fun same => sameTrade same.1

/-- A changed contract is found in place of the one it replaces. -/
theorem findContract_storeContract
    {contractHash : ContractHash}
    (found : node.findContract contractHash = some (trade, contract))
    (changed : MicrotransferContract Hex) :
    (storeContract node trade contractHash changed).findContract contractHash =
      some (trade, changed) := by
  have stored := (Node.registered_eq_some (Node.findContract_eq_some found)).2
  have search : ∀ trades : List TradeRef,
      (trades.findSome? fun trade =>
        ((node.factory trade).contracts.get? contractHash).map fun contract =>
          (trade, contract)) = some (trade, contract) →
      (trades.findSome? fun other =>
        (((storeContract node trade contractHash changed).factory
          other).contracts.get? contractHash).map fun contract =>
            (other, contract)) = some (trade, changed) := by
    intro trades
    induction trades with
    | nil => exact fun impossible => by cases impossible
    | cons other trades inductionHypothesis =>
        rw [List.findSome?_cons, List.findSome?_cons, get?_storeContract]
        by_cases sameTrade : other = trade
        · subst sameTrade
          rw [if_pos ⟨rfl, rfl⟩]
          exact fun _ => rfl
        · rw [if_neg fun same => sameTrade same.1]
          cases (node.factory other).contracts.get? contractHash with
          | none => exact inductionHypothesis
          | some otherContract =>
              intro isFirst
              cases isFirst
              exact absurd rfl sameTrade
  exact search node.trades found

theorem findContract_storeContract_of_ne
    {contractHash otherHash : ContractHash}
    (different : otherHash ≠ contractHash)
    (changed : MicrotransferContract Hex) :
    (storeContract node trade contractHash changed).findContract otherHash =
      node.findContract otherHash := by
  unfold Node.findContract
  congr 1
  funext other
  rw [get?_storeContract, if_neg fun same => different same.2]

theorem storeContract_factory
    (node : Node Hex)
    (trade other : TradeRef)
    (contractHash : ContractHash)
    (changed : MicrotransferContract Hex) :
    ∃ contracts, (storeContract node trade contractHash changed).factory other =
      { node.factory other with contracts } := by
  unfold storeContract
  by_cases sameTrade : other = trade
  · subst sameTrade
    rw [Node.modifyFactory_same]
    exact ⟨_, rfl⟩
  · rw [Node.modifyFactory_of_ne node _ sameTrade]
    exact ⟨_, rfl⟩

/-- A contract that a raising payment changed accepts what it accepted
before. -/
theorem accepted_storeContract
    {contractHash : ContractHash}
    {received : ReceivedTx Hex}
    {error : PyError}
    {good : Message Hex}
    (found : node.findContract contractHash = some (trade, contract))
    (raises : (adjustReceived env node.prec (node.factory trade) contract
      contractHash (some received)).result = .error error)
    (accepted : Accepted env node good) :
    Accepted env
      (storeContract node trade contractHash
        (adjustReceived env node.prec (node.factory trade) contract contractHash
          (some received)).state) good := by
  obtain ⟨read, goodTrade, goodContract, goodFound, signed, passes⟩ := accepted
  obtain ⟨_, _, _, progressed⟩ := adjustReceived_progress env node.prec
    (node.factory trade) contract contractHash (some received)
  generalize adjustedState : (adjustReceived env node.prec (node.factory trade)
    contract contractHash (some received)).state = changed at progressed ⊢
  have sameMatch : changed.matched = contract.matched := by
    rw [progressed]
    rfl
  have sameKeys : changed.keys = contract.keys := by
    rw [progressed]
    rfl
  have sameLock : changed.nlockTime = contract.nlockTime := by
    rw [progressed]
    rfl
  obtain ⟨contracts, sameFactory⟩ := storeContract_factory node trade goodTrade
    contractHash changed
  by_cases sameHash : good.payload.contractHash = contractHash
  · rw [sameHash, found] at goodFound
    cases goodFound
    refine ⟨read, trade, changed, ?_, ?_, ?_⟩
    · rw [sameHash]
      exact findContract_storeContract found changed
    · rw [sentByThem, sameKeys]
      exact signed
    · apply passes.of_same contracts sameFactory rfl rfl
      · rw [sameMatch]
        rfl
      · exact sameKeys
      · exact sameLock
      · intro other result notRejected answered
        rw [sameHash] at answered ⊢
        have unchanged :=
          adjustReceived_raised_state answered notRejected raises
        rw [adjustedState] at unchanged
        rw [unchanged]
        exact answered
  · refine ⟨read, goodTrade, goodContract, ?_, signed, ?_⟩
    · rw [findContract_storeContract_of_ne sameHash]
      exact goodFound
    · exact passes.of_same contracts sameFactory rfl rfl rfl rfl rfl
        fun _ _ _ paid => paid

/-! ## Unchanged exactly when inert -/

/-- The records are unchanged and everything acceptable stays so. -/
def Undisturbed (env : ProtocolEnv Hex) (before after : Node Hex) : Prop :=
  before.RecordsUnchanged after ∧
    ∀ good, Accepted env before good → Accepted env after good

theorem Undisturbed.refl (node : Node Hex) : Undisturbed env node node :=
  ⟨⟨fun _ => rfl, fun _ => rfl, fun _ => rfl, fun _ => rfl, fun _ => rfl⟩,
    fun _ accepted => accepted⟩

/-- An update that moves no match disturbs nothing. -/
theorem undisturbed_updateState
    {matched : MatchRef}
    {state : ProtocolState}
    (now : Time)
    (settled : stateMachine (node.matchState matched).state state = true →
      (node.matchState matched).state = some state) :
    Undisturbed env node (node.updateState matched state now).1 := by
  have sameState := Node.state_updateState_settled now settled
  constructor
  · constructor
    · exact sameState
    all_goals
      intro trade
      rw [Node.updateState_factory]
  · intro good accepted
    apply accepted.of_same <;> first | exact sameState | simp

/-- An allowed update that disturbs nothing led to the state the match was
in. -/
theorem settled_of_undisturbed
    {matched : MatchRef}
    {state : ProtocolState}
    {now : Time}
    (undisturbed :
      Undisturbed env node (node.updateState matched state now).1)
    (allowed : stateMachine (node.matchState matched).state state = true) :
    (node.matchState matched).state = some state := by
  rw [← undisturbed.1.state matched]
  exact Node.state_updateState now allowed

/-- Storing a contract changes no record. -/
theorem recordsUnchanged_storeContract
    (node : Node Hex)
    (trade : TradeRef)
    (contractHash : ContractHash)
    (changed : MicrotransferContract Hex) :
    node.RecordsUnchanged (storeContract node trade contractHash changed) := by
  have factory := storeContract_factory node trade
  constructor
  · exact fun _ => rfl
  all_goals
    intro other
    obtain ⟨_, sameFactory⟩ := factory other contractHash changed
    rw [sameFactory]

/-- A rejected payment disturbs nothing exactly when it does not meet a
contract paid in full. -/
theorem rejectedPayment_undisturbed_iff
    {contractHash : ContractHash}
    {refundTx : Hex}
    {refundSig1 refundSig2 : Option Sig}
    {after : Node Hex}
    (found : node.findContract contractHash = some (trade, contract))
    (payment : RejectedPayment env node arrival
      (.returnAdjustedRefund contractHash refundTx refundSig1 refundSig2) trade
      contract after) :
    Undisturbed env node after ↔
      MovesNoMatch env node
        (.returnAdjustedRefund contractHash refundTx refundSig1 refundSig2)
        trade contract := by
  cases payment with
  | unchanged idle =>
      constructor
      · intro _ received isReceived accepting
        exact absurd accepting (idle received isReceived)
      · exact fun _ => Undisturbed.refl node
  | raised received error isReceived raises =>
      constructor
      · intro _ other isOther _ rejects
        rw [isReceived] at isOther
        cases isOther
        rw [Payload.contractHash] at raises
        rw [rejects] at raises
        cases raises
      · intro _
        refine ⟨recordsUnchanged_storeContract _ _ _ _, ?_⟩
        exact fun good accepted => accepted_storeContract found raises accepted
  | unanswered received moved isReceived accepting rejects moves =>
      constructor
      · rintro ⟨unchanged, _⟩ other isOther _ _ paid
        rw [if_pos paid] at moves
        have allowed : stateMachine (node.matchState contract.matched).state
            .pendingMicrotransferComplete = true := by
          rw [accepting]
          cases node.actor trade <;> rfl
        have entered : (moved.matchState contract.matched).state =
            (node.matchState contract.matched).state :=
          unchanged.state contract.matched
        rw [moves, Node.state_updateState _ allowed, accepting] at entered
        cases actor : node.actor trade <;> rw [actor] at entered <;>
          cases entered
      · intro inert
        rw [if_neg (inert received isReceived accepting rejects)] at moves
        rw [moves]
        exact ⟨⟨fun _ => rfl, fun _ => rfl, fun _ => rfl, fun _ => rfl,
          fun _ => rfl⟩, fun good accepted =>
            accepted.of_same rfl rfl rfl rfl fun _ => rfl⟩

/-- A correctly signed message that is rejected leaves the records as they were,
and everything acceptable acceptable, exactly when it is inert. -/
theorem rejected_undisturbed_iff
    (rejected : Rejected env node msg trade contract)
    (arrival : Arrival)
    (rpc : CoinRpc)
    (instanceId : String) :
    Undisturbed env node (handleMsg env rpc instanceId node arrival msg) ↔
      RejectionInert env node arrival msg trade contract := by
  obtain ⟨checked, found, signed, fails⟩ := rejected
  unfold RejectionInert
  by_cases read : isRead env arrival msg = true
  swap
  · rw [handleMsg_of_unread read]
    exact iff_of_true (Undisturbed.refl node) fun isRead => absurd isRead read
  rw [handleMsg_of_read read, forall_prop_of_true read]
  unfold handlePayload
  cases payload : msg.payload with
  | shakeOnIt contractHash =>
      rw [payload] at checked
      exact checked.elim
  | getSetupTx contractHash setupTxid =>
      rw [payload] at checked
      exact checked.elim
  | getRefundSig contractHash refundTxHex =>
      rw [payload] at found fails
      rw [Payload.contractHash] at found
      simp only
      rw [parseGetRefundSig_rejected found signed fails]
      cases moves : getRefundSigState (node.actor trade)
          (node.matchState contract.matched).state with
      | none =>
          constructor
          · intro _ entered isEntered
            rw [moves] at isEntered
            cases isEntered
          · exact fun _ => Undisturbed.refl node
      | some pair =>
          obtain ⟨state, waits⟩ := pair
          constructor
          · intro undisturbed entered isEntered allowed
            rw [moves] at isEntered
            cases isEntered
            exact settled_of_undisturbed undisturbed allowed
          · intro inert
            exact undisturbed_updateState arrival.now
              (inert (state, waits) moves)
  | returnRefundSig contractHash theirSig =>
      rw [payload] at found fails
      rw [Payload.contractHash] at found
      simp only
      rw [parseReturnRefundSig_rejected found signed fails]
      split
      next missing =>
        constructor
        · exact fun _ decoded => absurd missing decoded
        · exact fun _ => Undisturbed.refl node
      next decoded =>
        constructor
        · exact fun undisturbed _ allowed =>
            settled_of_undisturbed undisturbed allowed
        · exact fun inert =>
            undisturbed_updateState arrival.now (inert decoded)
  | returnSetupTx contractHash setupTxHex collateralInfo =>
      rw [payload] at found fails
      rw [Payload.contractHash] at found
      simp only
      rw [parseReturnSetupTx_rejected found signed fails]
      constructor
      · exact fun _ => trivial
      · exact fun _ => Undisturbed.refl node
  | returnAdjustedRefund contractHash refundTx refundSig1 refundSig2 =>
      rw [payload] at found fails
      rw [Payload.contractHash] at found
      exact rejectedPayment_undisturbed_iff found
        (parseReturnAdjustedRefund_rejected found signed fails)

/-- A `get_refund_sig` of the seller, whose refund has some lock time. -/
def sampleGetRefundSig (nLockTime : Nat) : Message CTransaction :=
  Sample.signedBy "seller1" (.getRefundSig Sample.contractHash
    (Sample.sellerSpends 0 nLockTime
      [⟨300000000, .p2pkh (textBytes "sellerChange")⟩]))

/-- The sample buyer after a `get_refund_sig` without a lock time. -/
def sampleRejecting : Node CTransaction :=
  handleMsg Sample.protocolEnv Sample.noRpc "instance"
    (Sample.buyerNode .pendingContract) ⟨1, 10, 0, 0⟩ (sampleGetRefundSig 0)

theorem sampleGetRefundSig_rejected :
    Rejected Sample.protocolEnv (Sample.buyerNode .pendingContract)
      (sampleGetRefundSig 0) 0 Sample.buyerContract where
  checked := trivial
  found := by decide +kernel
  signed := by decide +kernel
  fails := by
    rintro ⟨_, refundSig, checked⟩
    have isNone : checkGetRefundSig Sample.protocolEnv 8 Sample.buyerFactory
        Sample.buyerContract Sample.contractHash
        (Sample.sellerSpends 0 0
          [⟨300000000, .p2pkh (textBytes "sellerChange")⟩]) = .ok none := by
      decide +kernel
    cases isNone.symm.trans checked

theorem rejected_undisturbed_sample :
    Undisturbed Sample.protocolEnv (Sample.buyerNode .pendingContract)
        sampleRejecting ↔
      RejectionInert Sample.protocolEnv (Sample.buyerNode .pendingContract)
        ⟨1, 10, 0, 0⟩ (sampleGetRefundSig 0) 0 Sample.buyerContract :=
  rejected_undisturbed_iff sampleGetRefundSig_rejected ⟨1, 10, 0, 0⟩ Sample.noRpc
    "instance"

/-- A rejected `get_refund_sig` moves the match of a buyer, who then does not
accept the correct one. -/
theorem rejected_getRefundSig_wedges :
    Rejected Sample.protocolEnv (Sample.buyerNode .pendingContract)
        (sampleGetRefundSig 0) 0 Sample.buyerContract ∧
      ¬(Sample.buyerNode .pendingContract).RecordsUnchanged sampleRejecting ∧
      Accepted Sample.protocolEnv (Sample.buyerNode .pendingContract)
        (sampleGetRefundSig 7200) ∧
      ¬Accepted Sample.protocolEnv sampleRejecting
        (sampleGetRefundSig 7200) := by
  refine ⟨sampleGetRefundSig_rejected, ?_, ?_, ?_⟩
  · intro unchanged
    have sameState := unchanged.state 0
    revert sameState
    decide +kernel
  · refine ⟨⟨⟨1, 10, 0, 0⟩, by decide +kernel⟩, 0, Sample.buyerContract,
      by decide +kernel, by decide +kernel, ?_⟩
    refine ⟨⟨(.pendingBuyerSetupTxConfirm, true), ?_, ?_⟩, "sig:buyer1", ?_⟩
    · decide +kernel
    · decide +kernel
    · decide +kernel
  · have isSample : sampleRejecting.findContract Sample.contractHash =
        some (0, Sample.buyerContract) := by
      decide +kernel
    have waits : getRefundSigState (sampleRejecting.actor 0)
        (sampleRejecting.matchState 0).state = none := by
      decide +kernel
    generalize sampleRejecting = rejecting at isSample waits ⊢
    rintro ⟨_, trade, contract, found, _, ⟨moves, isMoves, _⟩, _⟩
    cases isSample.symm.trans found
    cases waits.symm.trans isMoves

end Protocol
end Coinbend
