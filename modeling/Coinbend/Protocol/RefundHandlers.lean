import Coinbend.Protocol.RefundKept

/-!
# Refund before transfer, in the handlers

Every message handler keeps the invariant of `RefundKept`, apart from
`parse_return_refund_sig`: it moves the match before it checks the signature,
checks it for whatever refund the factory stores, and overwrites the one refund
of a factory whose other contracts may already rely on theirs.
-/

namespace Coinbend

variable {Hex : Type} {env : ProtocolEnv Hex} {home : Home}
variable {contracts : Nat → String → Option (Nat × MicrotransferContract Hex)}
variable {node : Node Hex}

/-- The lines of a reply. -/
def Reply.lines : Reply Hex → List (Line Hex)
  | .line text => [.text text]
  | .hybrid reply => reply.lines

/-- What a handler leaves keeps the invariant, and its replies pay only for
contracts behind their gate. -/
structure Guarded
    (env : ProtocolEnv Hex)
    (home : Home)
    (handled : Handled Hex) : Prop where
  kept : ∃ contracts, RefundKept env home contracts handled.state
  replies : ∀ replies, handled.result = .ok replies →
    ∀ reply ∈ replies, ∀ line ∈ reply.lines, ∀ contractHash,
      line.paymentFor = some contractHash →
      handled.state.refundView.Behind contractHash

namespace Guarded

/-- A handler that replies nothing. -/
theorem silent (kept : RefundKept env home contracts node) :
    Guarded env home (Outcome.pure node []) where
  kept := ⟨contracts, kept⟩
  replies := by
    rintro _ ⟨⟩ reply isReply
    cases isReply

theorem raise
    (kept : RefundKept env home contracts node)
    (error : PyError) :
    Guarded env home (Outcome.raise node error) where
  kept := ⟨contracts, kept⟩
  replies := by
    intro _ impossible
    cases impossible

theorem attempt
    {value : Except PyError α}
    {next : α → Handled Hex}
    (kept : RefundKept env home contracts node)
    (after : ∀ found, value = .ok found → Guarded env home (next found)) :
    Guarded env home (Outcome.attempt node value next) := by
  cases value with
  | error error => exact raise kept error
  | ok found => exact after found rfl

/-- A handler that sends one reply. -/
theorem reply
    {sent : Reply Hex}
    (kept : RefundKept env home contracts node)
    (paid : ∀ line ∈ sent.lines, ∀ contractHash,
      line.paymentFor = some contractHash →
      node.refundView.Behind contractHash) :
    Guarded env home (Outcome.pure node [sent]) where
  kept := ⟨contracts, kept⟩
  replies := by
    rintro _ ⟨⟩ reply isReply
    rw [List.mem_singleton] at isReply
    subst isReply
    exact paid

end Guarded

namespace Protocol

/-! ## Delivering replies -/

theorem deliver_kept
    (con : Con)
    (replies : List (Reply Hex))
    (kept : RefundKept env home contracts node)
    (paid : ∀ reply ∈ replies, ∀ line ∈ reply.lines, ∀ contractHash,
      line.paymentFor = some contractHash →
      node.refundView.Behind contractHash) :
    RefundKept env home contracts (replies.foldl (deliver con) node) := by
  induction replies generalizing node with
  | nil => exact kept
  | cons reply replies inductionHypothesis =>
      have paidNow := paid reply List.mem_cons_self
      have paidLater : ∀ later ∈ replies, ∀ line ∈ later.lines,
          ∀ contractHash, line.paymentFor = some contractHash →
          node.refundView.Behind contractHash :=
        fun later isLater => paid later (List.mem_cons_of_mem _ isLater)
      cases reply with
      | line text =>
          apply inductionHypothesis
          · exact kept.sendLine con _ (paidNow _ List.mem_cons_self)
          · exact paidLater
      | hybrid reply =>
          apply inductionHypothesis
          · exact kept.queueReply reply paidNow
          · exact paidLater

theorem understand_kept
    {handled : Handled Hex}
    (con : Con)
    (guarded : Guarded env home handled) :
    ∃ contracts, RefundKept env home contracts (understand con handled) := by
  obtain ⟨contracts, kept⟩ := guarded.kept
  refine ⟨contracts, ?_⟩
  unfold understand
  split
  next replies returned =>
    exact deliver_kept con replies kept (guarded.replies replies returned)
  · exact kept

/-! ## Messages -/

/-- No state a `get_refund_sig` leads to is a gate. -/
theorem getRefundSigState_not_gate
    {actor : Actor}
    {current : Option ProtocolState}
    {state : ProtocolState}
    {waits : Bool}
    (moves : getRefundSigState actor current = some (state, waits)) :
    state.isRefundGate = false := by
  unfold getRefundSigState at moves
  cases actor with
  | seller =>
      cases moves
      rfl
  | buyer =>
      simp only at moves
      split at moves
      · split at moves
        · cases moves
        · cases moves
          rfl
      · cases moves
        rfl

theorem parseGetRefundSig_guarded
    (kept : RefundKept env home contracts node)
    (arrival : Arrival)
    (msg : Message Hex)
    (contractHash : ContractHash)
    (refundTxHex : Hex) :
    Guarded env home
      (parseGetRefundSig env node arrival msg contractHash refundTxHex) := by
  unfold parseGetRefundSig
  split
  · exact Guarded.silent kept
  next trade contract _ =>
  split
  · exact Guarded.silent kept
  split
  · exact Guarded.silent kept
  next state waits moves =>
  have moved := kept.updateState contract.matched state arrival.now
    (Or.inr (getRefundSigState_not_gate moves))
  split
  next after updated =>
    rw [updated] at moved
    exact Guarded.silent moved
  next after updated =>
    rw [updated] at moved
    apply Guarded.attempt moved
    intro checked _
    cases checked with
    | none => exact Guarded.silent moved
    | some refundSig =>
        apply Guarded.reply
        · exact moved.modifyFactory trade _ (fun _ => rfl) rfl rfl
        · intro line isLine hash isPayment
          rw [Reply.lines, List.mem_singleton] at isLine
          subst isLine
          cases isPayment

/-- The contract and the signature of a `return_refund_sig`. -/
def returnedSig : Payload Hex → Option (ContractHash × Sig)
  | .returnRefundSig contractHash (some theirSig) =>
      some (contractHash, theirSig)
  | _ => none

/-- The refund a factory stores is the one `build_refund_tx` makes for a
contract and the recorded setup transaction. -/
def StoresRefundOf
    (env : ProtocolEnv Hex)
    (factory : MicrotransferFactory Hex)
    (contract : MicrotransferContract Hex) : Prop :=
  ∃ prec refund,
    MicrotransferContract.buildRefundTx (env.micro prec) contract
      (factory.setup.signed.map SignedTx.txid) none = .ok refund ∧
    factory.refund.txHex = some refund.txHex

/-- When `parse_return_refund_sig` keeps refunds before payments: a correctly
signed message that would move the match carries a signature that works, and
one that works is for the contract whose refund the factory stores and which is
the only one of its factory behind the gate. -/
def RefundSigOk
    (env : ProtocolEnv Hex)
    (node : Node Hex)
    (msg : Message Hex) : Prop :=
  ∀ returned ∈ returnedSig msg.payload,
  ∀ found ∈ node.findContract returned.1,
    let factory := node.factory found.1
    let current := (node.matchState found.2.matched).state
    let state := returnRefundSigState (node.actor found.1)
    sentByThem env found.2 msg = true →
    stateMachine current state = true →
    if (checkReturnRefundSig env node.prec factory found.2 returned.2).isOk then
      StoresRefundOf env factory found.2 ∧
      ∀ entry ∈ factory.contracts.entries, entry.1 ≠ returned.1 →
        afterRefund (node.matchState entry.2.matched).state = false
    else current = some state

/-- A refund that works is accepted. -/
theorem refundAccepted_of_check
    {prec : Nat}
    {factory : MicrotransferFactory Hex}
    {contract : MicrotransferContract Hex}
    {theirSig : Sig}
    {signed : SignedTx Hex}
    (stores : StoresRefundOf env factory contract)
    (works : checkReturnRefundSig env prec factory contract theirSig =
      .ok signed) :
    ∃ setupTxid, factory.setup.signed.map SignedTx.txid = some setupTxid ∧
      RefundAccepted env contract setupTxid signed := by
  simp only [checkReturnRefundSig, Except.bind_eq_ok_iff,
    MicrotransferContract.checkRefundWorks_eq_ok_iff] at works
  obtain ⟨txHex, stored, firstSig, _, secondSig, _, accepted⟩ := works
  obtain ⟨builtPrec, refund, built, isRefund⟩ := stores
  rw [Except.ofOption_eq_ok_iff, isRefund, Option.some.injEq] at stored
  subst stored
  cases recorded : factory.setup.signed.map SignedTx.txid with
  | none =>
      -- Without a setup transaction no refund is built.
      rw [recorded] at built
      simp only [MicrotransferContract.buildRefundTx, Except.bind_eq_ok_iff,
        Except.ofOption_eq_ok_iff, reduceCtorEq, false_and, exists_const,
        and_false] at built
  | some setupTxid =>
      rw [recorded] at built
      exact ⟨setupTxid, rfl, builtPrec, refund, firstSig, secondSig, theirSig,
        built, accepted⟩

theorem parseReturnRefundSig_guarded
    (kept : RefundKept env home contracts node)
    (arrival : Arrival)
    {msg : Message Hex}
    {contractHash : ContractHash}
    {theirSig : Option Sig}
    (payload : msg.payload = .returnRefundSig contractHash theirSig)
    (sigOk : RefundSigOk env node msg) :
    Guarded env home
      (parseReturnRefundSig env node arrival msg contractHash theirSig) := by
  unfold parseReturnRefundSig
  apply Guarded.attempt kept
  intro theirSig' decoded
  rw [Except.ofOption_eq_ok_iff] at decoded
  subst decoded
  split
  · exact Guarded.silent kept
  next trade contract found =>
  split
  · exact Guarded.silent kept
  next isTheirs =>
  rw [Bool.not_eq_false] at isTheirs
  have sigOk := sigOk (contractHash, theirSig') (by rw [payload]; rfl)
    (trade, contract) found isTheirs
  have registered := Node.findContract_eq_some found
  unfold Node.updateState
  by_cases allowed : stateMachine (node.matchState contract.matched).state
      (returnRefundSigState (node.actor trade)) = true
  · rw [if_pos allowed]
    have sigWorks := sigOk allowed
    simp only
    cases works : checkReturnRefundSig env node.prec (node.factory trade)
        contract theirSig' with
    | error error =>
        rw [works] at sigWorks
        have moved := kept.updateState contract.matched
          (returnRefundSigState (node.actor trade)) arrival.now
          (Or.inl sigWorks)
        rw [Node.updateState, if_pos allowed] at moved
        have raised : checkReturnRefundSig env
            (node.modifyMatch contract.matched fun found =>
              Node.MatchState.enter found
                (returnRefundSigState (node.actor trade)) arrival.now).prec
            ((node.modifyMatch contract.matched fun found =>
              Node.MatchState.enter found
                (returnRefundSigState (node.actor trade))
                arrival.now).factory trade)
            contract theirSig' = .error error := works
        rw [raised]
        exact Guarded.raise moved error
    | ok signed =>
        rw [works] at sigWorks
        obtain ⟨stores, others⟩ := sigWorks
        obtain ⟨setupTxid, isSetup, isAccepted⟩ :=
          refundAccepted_of_check stores works
        have alone : ∀ other otherContract,
            (node.factory trade).contracts.get? other = some otherContract →
            other ≠ contractHash →
            afterRefund (node.matchState otherContract.matched).state =
              false := by
          intro other otherContract stored different
          exact others (other, otherContract) (Dict.mem_of_get? stored)
            different
        have accepted := kept.acceptRefund arrival.now registered allowed
          isSetup isAccepted alone
        have returned : checkReturnRefundSig env
            (node.modifyMatch contract.matched fun found =>
              Node.MatchState.enter found
                (returnRefundSigState (node.actor trade)) arrival.now).prec
            ((node.modifyMatch contract.matched fun found =>
              Node.MatchState.enter found
                (returnRefundSigState (node.actor trade))
                arrival.now).factory trade)
            contract theirSig' = .ok signed := works
        rw [returned]
        exact Guarded.silent accepted
  · rw [if_neg allowed]
    exact Guarded.silent kept

theorem parseGetSetupTx_guarded
    (kept : RefundKept env home contracts node)
    (arrival : Arrival)
    (msg : Message Hex)
    (contractHash : ContractHash) :
    Guarded env home
      (parseGetSetupTx env node arrival msg contractHash) := by
  have notGate : ∀ actor, (getSetupTxState actor).isRefundGate = false := by
    intro actor
    cases actor <;> rfl
  unfold parseGetSetupTx
  split
  · exact Guarded.silent kept
  next trade contract _ =>
  have moved := kept.updateState contract.matched
    (getSetupTxState (node.actor trade)) arrival.now (Or.inr (notGate _))
  split
  next after updated =>
    rw [updated] at moved
    exact Guarded.silent moved
  next after updated =>
    rw [updated] at moved
    split
    · exact Guarded.silent moved
    · apply Guarded.reply moved
      intro line isLine hash isPayment
      rw [Reply.lines, List.mem_singleton] at isLine
      subst isLine
      cases isPayment

theorem parseReturnSetupTx_guarded
    (kept : RefundKept env home contracts node)
    (arrival : Arrival)
    (msg : Message Hex)
    (contractHash : ContractHash)
    (setupTxHex : Option Hex)
    (collateralInfo : List (Option CollateralInfo)) :
    Guarded env home
      (parseReturnSetupTx env node arrival msg contractHash setupTxHex
        collateralInfo) := by
  have notGate : ∀ actor, (returnSetupTxState actor).isRefundGate = false := by
    intro actor
    cases actor <;> rfl
  unfold parseReturnSetupTx
  split
  · exact Guarded.silent kept
  next trade contract _ =>
  split
  · exact Guarded.silent kept
  apply Guarded.attempt kept
  intro checked _
  cases checked with
  | none => exact Guarded.silent kept
  | some record =>
      have moved := kept.updateState contract.matched
        (returnSetupTxState (node.actor trade)) arrival.now
        (Or.inr (notGate _))
      simp only
      split
      next after updated =>
        rw [updated] at moved
        exact Guarded.silent moved
      next after updated =>
        rw [updated] at moved
        exact Guarded.silent
          (moved.modifyFactory trade _ (fun _ => rfl) rfl rfl)

/-- The only line of a payment is for its contract. -/
theorem paymentLines_paymentFor
    {ntp : Nat}
    {contractHash hash : ContractHash}
    {ecdsa1 : PubKey}
    {result : AdjustResult Hex}
    {line : Line Hex}
    (isLine : line ∈ paymentLines env ntp contractHash ecdsa1 result)
    (isPayment : line.paymentFor = some hash) :
    hash = contractHash := by
  cases result with
  | rejected => cases isLine
  | complete => cases isLine
  | payment txHex firstSig secondSig =>
      rw [paymentLines, List.mem_singleton] at isLine
      subst isLine
      cases isPayment
      rfl

theorem afterRefund_acceptState (actor : Actor) :
    afterRefund (some (acceptState actor)) = true := by
  cases actor <;> rfl

theorem parseReturnAdjustedRefund_guarded
    (kept : RefundKept env home contracts node)
    (arrival : Arrival)
    (msg : Message Hex)
    (contractHash : ContractHash)
    (refundTx : Hex)
    (refundSig1 refundSig2 : Option Sig) :
    Guarded env home
      (parseReturnAdjustedRefund env node arrival msg contractHash refundTx
        refundSig1 refundSig2) := by
  unfold parseReturnAdjustedRefund
  apply Guarded.attempt kept
  intro firstSig _
  apply Guarded.attempt kept
  intro secondSig _
  split
  · exact Guarded.silent kept
  next trade contract found =>
  split
  · exact Guarded.silent kept
  next accepting =>
  rw [not_not] at accepting
  split
  · exact Guarded.silent kept
  have registered := Node.findContract_eq_some found
  obtain ⟨_, _, _, adjusted⟩ := adjustReceived_progress env node.prec
    (node.factory trade) contract contractHash
    (some ⟨refundTx, firstSig, secondSig⟩)
  have found' : contracts trade contractHash =
      some (contract.matched, contract.terms) := by
    rw [← kept.contracts_eq]
    exact Node.contracts_of_registered registered
  have stored := kept.storeContract (adjustReceived env node.prec
    (node.factory trade) contract contractHash
    (some ⟨refundTx, firstSig, secondSig⟩)).state
    (by rw [adjusted]; exact found')
  have behind : (storeContract node trade contractHash
      (adjustReceived env node.prec (node.factory trade) contract contractHash
        (some ⟨refundTx, firstSig, secondSig⟩)).state).refundView.Behind
      contractHash := by
    apply stored.behind found'
    show afterRefund (node.matchState contract.matched).state = true
    rw [accepting]
    exact afterRefund_acceptState _
  apply Guarded.attempt stored
  intro result _
  have paid : ∀ line ∈ (Reply.hybrid {
        lines := paymentLines env arrival.ntp contractHash
          (node.factory trade).greenAddress.ecdsa1 result
        statusChecker := none
        sourceCon := arrival.con }).lines, ∀ hash,
      line.paymentFor = some hash → hash = contractHash :=
    fun line isLine hash isPayment => paymentLines_paymentFor isLine isPayment
  split
  · apply Guarded.reply
    · exact stored.updateState contract.matched .pendingMicrotransferComplete
        arrival.now (Or.inr rfl)
    · intro line isLine hash isPayment
      rw [paid line isLine hash isPayment]
      exact RefundKept.behind_updateState behind _ _ _
  · apply Guarded.reply stored
    intro line isLine hash isPayment
    rw [paid line isLine hash isPayment]
    exact behind

/-! ## The handshake -/

/-- Two factories hold the same signed setup transaction and the same refund. -/
structure SameSigned (before after : MicrotransferFactory Hex) : Prop where
  setup : after.setup.signed = before.setup.signed
  refund : after.refund = before.refund

theorem SameSigned.trans
    {first second third : MicrotransferFactory Hex}
    (later : SameSigned second third)
    (earlier : SameSigned first second) :
    SameSigned first third :=
  ⟨later.setup.trans earlier.setup, later.refund.trans earlier.refund⟩

/-- A registration stores at most one contract, for its match. -/
def StoresContract
    (contractHash : ContractHash)
    (matched : MatchRef)
    (before after : MicrotransferFactory Hex) : Prop :=
  SameSigned before after ∧
    (after.contracts = before.contracts ∨
      ∃ contract, contract.matched = matched ∧
        after.contracts = before.contracts.set contractHash contract)

theorem new_matched
    {microEnv : MicrotransferEnv Hex}
    {coins : String → Option CoinConfig}
    {getnewaddress : Except PyError Address}
    {args : MicrotransferContract.Args}
    {contract : MicrotransferContract Hex}
    (built : MicrotransferContract.new microEnv coins getnewaddress args =
      .ok contract) :
    contract.matched = args.matched := by
  unfold MicrotransferContract.new at built
  iterate 11 obtain ⟨_, _, built⟩ := (Except.bind_eq_ok_iff _ _ _).mp built
  rw [Except.pure_eq_ok_iff] at built
  rw [← built]

theorem prepareContract_matched
    {microEnv : MicrotransferEnv Hex}
    {coins : String → Option CoinConfig}
    {rpc : CoinRpc}
    {factory : MicrotransferFactory Hex}
    {args : MicrotransferContract.Args}
    {contract : MicrotransferContract Hex}
    (prepared : factory.prepareContract microEnv coins rpc args =
      .ok contract) :
    contract.matched = args.matched := by
  simp only [MicrotransferFactory.prepareContract, Except.bind_eq_ok_iff,
    Except.pure_eq_ok_iff] at prepared
  obtain ⟨_, _, _, _, _, _, built, new, _, _, _, _, _, _, rfl⟩ := prepared
  rw [new_matched new]

theorem setFees_stores
    (coins : String → Option CoinConfig)
    (factory : MicrotransferFactory Hex)
    (toSend : Trade) :
    SameSigned factory (setFees coins factory toSend).state ∧
      (setFees coins factory toSend).state.contracts = factory.contracts := by
  let kept (after : MicrotransferFactory Hex) : Prop :=
    SameSigned factory after ∧ after.contracts = factory.contracts
  unfold setFees
  refine Outcome.attempt_state (motive := kept) ⟨⟨rfl, rfl⟩, rfl⟩ ?_
  intro sendCoin _
  simp only
  refine Outcome.attempt_state (motive := kept) ⟨⟨rfl, rfl⟩, rfl⟩ ?_
  intro recvCoin _
  exact ⟨⟨rfl, rfl⟩, rfl⟩

theorem addContract_stores
    (microEnv : MicrotransferEnv Hex)
    (coins : String → Option CoinConfig)
    (rpc : CoinRpc)
    (factory : MicrotransferFactory Hex)
    (contractHash : ContractHash)
    (args : MicrotransferContract.Args) :
    StoresContract contractHash args.matched factory
      (factory.addContract microEnv coins rpc contractHash args).state := by
  let kept := StoresContract contractHash args.matched factory
  have same : kept factory := ⟨⟨rfl, rfl⟩, Or.inl rfl⟩
  unfold MicrotransferFactory.addContract
  refine Outcome.attempt_state (motive := kept) same ?_
  intro contract prepared
  refine Outcome.attempt_state (motive := kept) same ?_
  intro remaining _
  simp only
  refine Outcome.attempt_state (motive := kept) ⟨⟨rfl, rfl⟩, Or.inl rfl⟩ ?_
  intro total _
  exact ⟨⟨rfl, rfl⟩, Or.inr ⟨contract, prepareContract_matched prepared, rfl⟩⟩

theorem buildSetup_stores
    (microEnv : MicrotransferEnv Hex)
    (config : Config)
    (coins : String → Option CoinConfig)
    (rpc : CoinRpc)
    (factory : MicrotransferFactory Hex) :
    SameSigned factory (factory.buildSetup microEnv config coins rpc).state ∧
      (factory.buildSetup microEnv config coins rpc).state.contracts =
        factory.contracts := by
  let kept (after : MicrotransferFactory Hex) : Prop :=
    SameSigned factory after ∧ after.contracts = factory.contracts
  unfold MicrotransferFactory.buildSetup
  refine Outcome.attempt_state (motive := kept) ⟨⟨rfl, rfl⟩, rfl⟩ ?_
  intro coin _
  refine Outcome.attempt_state (motive := kept) ⟨⟨rfl, rfl⟩, rfl⟩ ?_
  intro balance _
  simp only
  split
  · exact ⟨⟨rfl, rfl⟩, rfl⟩
  refine Outcome.attempt_state (motive := kept) ⟨⟨rfl, rfl⟩, rfl⟩ ?_
  intro _ _
  refine Outcome.attempt_state (motive := kept) ⟨⟨rfl, rfl⟩, rfl⟩ ?_
  intro setup _
  exact ⟨⟨rfl, rfl⟩, rfl⟩

/-- Registering a contract stores it under the hash of its message. -/
theorem registerContract_stores
    (env : ProtocolEnv Hex)
    (prec : Nat)
    (rpc : CoinRpc)
    (instanceId : String)
    (factory : MicrotransferFactory Hex)
    (matched : MatchRef)
    (toSend : Trade)
    (greenAddress : GreenAddress Hex)
    (contractMsg : ContractMsg) :
    StoresContract (env.sha256 contractMsg) matched factory
      (registerContract env prec rpc instanceId factory matched toSend
        greenAddress contractMsg).state := by
  let kept := StoresContract (env.sha256 contractMsg) matched factory
  unfold registerContract
  refine Outcome.attempt_state (motive := kept) ⟨⟨rfl, rfl⟩, Or.inl rfl⟩ ?_
  intro details parsed
  have isHash : details.hash = env.sha256 contractMsg := by
    simp only [parseContract, Except.bind_eq_ok_iff,
      Except.pure_eq_ok_iff] at parsed
    obtain ⟨_, _, _, _, _, _, _, _, _, _, _, _, _, _, _, _, rfl⟩ := parsed
    rfl
  have fees := setFees_stores env.coins factory toSend
  refine Outcome.bind_state (motive := kept) ⟨fees.1, Or.inl fees.2⟩ ?_
  intro _ _
  have added := addContract_stores (env.micro contractPrec) env.coins rpc
    (setFees env.coins factory toSend).state details.hash
    (contractArgs env.config details toSend greenAddress matched)
  have stored : kept ((setFees env.coins factory toSend).state.addContract
      (env.micro contractPrec) env.coins rpc details.hash
      (contractArgs env.config details toSend greenAddress matched)).state := by
    refine ⟨added.1.trans fees.1, ?_⟩
    rcases added.2 with unchanged | ⟨contract, isMatched, set⟩
    · exact Or.inl (unchanged.trans fees.2)
    · right
      refine ⟨contract, isMatched, ?_⟩
      rw [set, fees.2, isHash]
  refine Outcome.bind_state (motive := kept) stored ?_
  intro _ _
  have built := buildSetup_stores (env.micro contractPrec) env.config env.coins
    rpc ((setFees env.coins factory toSend).state.addContract
      (env.micro contractPrec) env.coins rpc details.hash
      (contractArgs env.config details toSend greenAddress matched)).state
  have keptBuilt : kept (((setFees env.coins factory toSend).state.addContract
      (env.micro contractPrec) env.coins rpc details.hash
      (contractArgs env.config details toSend greenAddress
        matched)).state.buildSetup (env.micro contractPrec) env.config
      env.coins rpc).state := by
    refine ⟨built.1.trans stored.1, ?_⟩
    rw [built.2]
    exact stored.2
  refine Outcome.bind_state (motive := kept) keptBuilt ?_
  intro _ _
  exact ⟨⟨keptBuilt.1.setup, keptBuilt.1.refund⟩, keptBuilt.2⟩

theorem storeCalibrated_same
    (found : MatchState Hex)
    (toSend toRecv : Except PyError Trade) :
    (storeCalibrated found toSend toRecv).state.state = found.state ∧
      (storeCalibrated found toSend toRecv).state.contractHash =
        found.contractHash ∧
      (storeCalibrated found toSend toRecv).state.contract =
        found.contract := by
  cases toSend with
  | error error => exact ⟨rfl, rfl, rfl⟩
  | ok toSend => cases toRecv <;> exact ⟨rfl, rfl, rfl⟩

/-- Calibrating keeps a match in its state. -/
theorem calibrateTrades_same
    (context : TradeContext)
    (found : MatchState Hex) :
    (calibrateTrades context found).state.state = found.state ∧
      (calibrateTrades context found).state.contractHash = found.contractHash ∧
      (calibrateTrades context found).state.contract = found.contract := by
  unfold calibrateTrades
  split
  · exact storeCalibrated_same found _ _
  · exact ⟨rfl, rfl, rfl⟩

/-- A match that may enter `pending_contract` is before its gate. -/
theorem early_of_pendingContract
    {current : Option ProtocolState}
    (allowed : stateMachine current .pendingContract = true) :
    afterRefund current = false := by
  rcases (stateMachine_iff _ _).mp allowed with rfl | source
  · rfl
  · have sources_early :
        ∀ current ∈ ProtocolState.sources .pendingContract,
          afterRefund current = false := by
      decide
    exact sources_early current source

/-- A registration for a match before its gate keeps the invariant. -/
theorem storesContract_kept
    {trade : TradeRef}
    {contractHash : ContractHash}
    {matched : MatchRef}
    {factory : MicrotransferFactory Hex}
    (kept : RefundKept env home contracts node)
    (homed : node.findMatchState contractHash = some (trade, matched))
    (early : afterRefund (node.matchState matched).state = false)
    (stores : StoresContract contractHash matched (node.factory trade)
      factory) :
    ∃ contracts, RefundKept env home contracts
      { node.modifyFactory trade fun _ => factory with
        prec := contractPrec } := by
  rcases stores.2 with unchanged | ⟨contract, rfl, stored⟩
  · have changed := kept.modifyFactory trade (fun _ => factory)
      (fun _ => by rw [unchanged]) stores.1.setup
      (by rw [stores.1.refund])
    exact ⟨contracts, changed.homes, changed.details, changed.contracts_eq,
      changed.first⟩
  · have changed := kept.register homed early stored stores.1.setup
      stores.1.refund
    exact ⟨_, changed.homes, changed.details, changed.contracts_eq,
      changed.first⟩

/-- A match whose contract a handshake may register: it is found by the hash
of its contract and has not passed its gate. -/
structure Registrable
    (node : Node Hex)
    (trade : TradeRef)
    (matched : MatchRef)
    (contractHash : ContractHash) : Prop where
  homed : node.findMatchState contractHash = some (trade, matched)
  early : afterRefund (node.matchState matched).state = false

/-- Changes of other fields of the match keep it registrable. -/
theorem Registrable.modifyMatch
    {trade : TradeRef}
    {matched : MatchRef}
    {contractHash : ContractHash}
    (registrable : Registrable node trade matched contractHash)
    (change : MatchState Hex → MatchState Hex)
    (state : (change (node.matchState matched)).state =
      (node.matchState matched).state)
    (hash : (change (node.matchState matched)).contractHash =
      (node.matchState matched).contractHash)
    (contract : (change (node.matchState matched)).contract =
      (node.matchState matched).contract) :
    Registrable (node.modifyMatch matched change) trade matched contractHash where
  homed := by
    rw [Node.findMatchState_congr
      (Node.sameMatches_modifyMatch node matched change hash contract)]
    exact registrable.homed
  early := by
    rw [Node.modifyMatch_same, state]
    exact registrable.early

theorem registerShake_guarded
    {trade : TradeRef}
    {matched : MatchRef}
    {contract : ParsedContract}
    (kept : RefundKept env home contracts node)
    (registrable : Registrable node trade matched
      (env.sha256 contract.msg))
    (rpc : CoinRpc)
    (instanceId : String)
    (arrival : Arrival) :
    Guarded env home
      (registerShake env rpc instanceId node arrival trade matched
        contract) := by
  unfold registerShake
  apply Guarded.attempt kept
  intro toSend _
  apply Guarded.attempt kept
  intro sent _
  have stores := registerContract_stores env node.prec rpc instanceId
    (node.factory trade) matched toSend sent.greenAddress contract.msg
  obtain ⟨_, registered⟩ := storesContract_kept kept registrable.homed
    registrable.early stores
  apply Guarded.attempt registered
  intro _ _
  apply Guarded.reply
  · exact registered.updateState matched .pendingContract arrival.now
      (Or.inr rfl)
  · intro line isLine hash isPayment
    rw [Reply.lines, List.mem_singleton] at isLine
    subst isLine
    cases isPayment

theorem shakeOnMatch_guarded
    {trade : TradeRef}
    {matched : MatchRef}
    {contractHash : ContractHash}
    (kept : RefundKept env home contracts node)
    (registrable : Registrable node trade matched contractHash)
    (rpc : CoinRpc)
    (instanceId : String)
    (arrival : Arrival)
    (msg : Message Hex) :
    Guarded env home
      (shakeOnMatch env rpc instanceId node arrival msg trade matched) := by
  unfold shakeOnMatch
  apply Guarded.attempt kept
  intro reply _
  split
  · exact Guarded.silent kept
  apply Guarded.attempt kept
  intro contract isContract
  rw [Except.ofOption_eq_ok_iff] at isContract
  have isHash := kept.details
    (Node.findMatchState_eq_some registrable.homed).2 isContract
  rw [← isHash] at registrable
  have same := calibrateTrades_same (env.tradeContext node.prec)
    (node.matchState matched)
  have calibrated := kept.modifyMatch matched
    (fun _ => (calibrateTrades (env.tradeContext node.prec)
      (node.matchState matched)).state) same.1 same.2.1 same.2.2
  have stillRegistrable := registrable.modifyMatch
    (fun _ => (calibrateTrades (env.tradeContext node.prec)
      (node.matchState matched)).state) same.1 same.2.1 same.2.2
  apply Guarded.attempt calibrated
  intro done _
  split
  · exact Guarded.silent calibrated
  apply registerShake_guarded
  · exact calibrated.modifyMatch matched _ rfl rfl rfl
  · exact stillRegistrable.modifyMatch _ rfl rfl rfl

theorem parseShakeOnIt_guarded
    (kept : RefundKept env home contracts node)
    (rpc : CoinRpc)
    (instanceId : String)
    (arrival : Arrival)
    (msg : Message Hex)
    (contractHash : ContractHash) :
    Guarded env home
      (parseShakeOnIt env rpc instanceId node arrival msg contractHash) := by
  unfold parseShakeOnIt
  split
  · exact Guarded.silent kept
  next trade matched homed =>
  split
  · exact Guarded.silent kept
  next allowed =>
  rw [Bool.not_eq_false] at allowed
  have registrable : Registrable node trade matched contractHash :=
    ⟨homed, early_of_pendingContract allowed⟩
  apply shakeOnMatch_guarded
  · exact kept.modifyMatch matched _ rfl rfl rfl
  · exact registrable.modifyMatch _ rfl rfl rfl

/-- The handler of every message keeps the invariant. -/
theorem parseMsg_guarded
    (kept : RefundKept env home contracts node)
    (rpc : CoinRpc)
    (instanceId : String)
    (arrival : Arrival)
    (msg : Message Hex)
    (sigOk : isRead env arrival msg = true → RefundSigOk env node msg) :
    Guarded env home (parseMsg env rpc instanceId node arrival msg) := by
  unfold parseMsg
  split
  swap
  · exact Guarded.silent kept
  next read =>
  unfold handlePayload
  split
  · exact parseShakeOnIt_guarded kept rpc instanceId arrival msg _
  · exact parseGetRefundSig_guarded kept arrival msg _ _
  next payload =>
    exact parseReturnRefundSig_guarded kept arrival payload (sigOk read)
  · exact parseGetSetupTx_guarded kept arrival msg _
  · exact parseReturnSetupTx_guarded kept arrival msg _ _ _
  · exact parseReturnAdjustedRefund_guarded kept arrival msg _ _ _ _

end Protocol
end Coinbend
