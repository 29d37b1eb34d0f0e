import Coinbend.Protocol.Deals

/-!
# Trading leaves the contracts alone

The orders and matches of a node and the contracts it has signed share one
state.  Opening and announcing trades and handling orders and matches of other
nodes change no contract, no refund and no watch that was there, and no match
whose handshake is over.
-/

namespace Coinbend

variable {Hex : Type}

/-- Nothing of the microtransfer protocol that was there at the start has
changed.  A match may change only while the state machine lets it be
calibrated. -/
structure KeepsContracts (start node : Node Hex) : Prop where
  nextTrade : start.nextTrade ≤ node.nextTrade
  nextMatch : start.nextMatch ≤ node.nextMatch
  factory : ∀ trade < start.nextTrade,
    node.factory trade = start.factory trade
  matchState : ∀ matched < start.nextMatch,
    stateMachine (start.matchState matched).state .pendingHandshake = false →
      node.matchState matched = start.matchState matched
  setupWatches : node.setupWatches = start.setupWatches
  redeemWatches : node.redeemWatches = start.redeemWatches
  loopMatched : node.loopMatched = start.loopMatched
  hybridReplies : start.hybridReplies <+: node.hybridReplies
  sent : start.sent <+: node.sent

/-- A match that trading may change: a new one, or one that could be
calibrated at the start. -/
def Calibrates (start : Node Hex) (matched : MatchRef) : Prop :=
  matched < start.nextMatch →
    stateMachine (start.matchState matched).state .pendingHandshake = true

namespace KeepsContracts

variable {start middle node : Node Hex}

theorem refl (node : Node Hex) : KeepsContracts node node where
  nextTrade := Nat.le_refl _
  nextMatch := Nat.le_refl _
  factory := fun _ _ => rfl
  matchState := fun _ _ _ => rfl
  setupWatches := rfl
  redeemWatches := rfl
  loopMatched := rfl
  hybridReplies := List.prefix_refl _
  sent := List.prefix_refl _

theorem trans
    (first : KeepsContracts start middle)
    (second : KeepsContracts middle node) :
    KeepsContracts start node where
  nextTrade := Nat.le_trans first.nextTrade second.nextTrade
  nextMatch := Nat.le_trans first.nextMatch second.nextMatch
  factory := by
    intro trade old
    rw [second.factory trade (Nat.lt_of_lt_of_le old first.nextTrade),
      first.factory trade old]
  matchState := by
    intro matched old frozen
    have same := first.matchState matched old frozen
    rw [second.matchState matched (Nat.lt_of_lt_of_le old first.nextMatch)
      (same ▸ frozen), same]
  setupWatches := second.setupWatches.trans first.setupWatches
  redeemWatches := second.redeemWatches.trans first.redeemWatches
  loopMatched := second.loopMatched.trans first.loopMatched
  hybridReplies := first.hybridReplies.trans second.hybridReplies
  sent := first.sent.trans second.sent

/-- Changes to the trades, their tables and the order book. -/
theorem elsewhere
    {heap : TradeHeap}
    {trades : List TradeRef}
    {matchTable : TradeRef → Dict MatchHash MatchRef}
    {orderBook : List OrderType}
    {orderRows : Dict OrderHash OrderType}
    {openMsg : TradeRef → Option OpenOrderMsg}
    {prec : Nat}
    {halted : Bool}
    (kept : KeepsContracts start node) :
    KeepsContracts start
      { node with
        heap, trades, matchTable, orderBook, orderRows, openMsg, prec,
        halted } :=
  { kept with }

theorem newTrade
    (kept : KeepsContracts start node)
    (trade : Trade) :
    KeepsContracts start (node.newTrade trade) :=
  { kept with nextTrade := Nat.le_succ_of_le kept.nextTrade }

theorem openOrderRow
    (kept : KeepsContracts start node)
    (order : OrderType) :
    KeepsContracts start (node.openOrderRow order) := by
  unfold Node.openOrderRow
  split
  · exact kept
  · exact kept.elsewhere

theorem modifyMatch
    (kept : KeepsContracts start node)
    {matched : MatchRef}
    (calibrates : Calibrates start matched)
    (change : MatchState Hex → MatchState Hex) :
    KeepsContracts start (node.modifyMatch matched change) := by
  refine { kept with matchState := ?_ }
  intro other old frozen
  have different : other ≠ matched := by
    rintro rfl
    rw [calibrates old] at frozen
    cases frozen
  rw [Node.modifyMatch_of_ne node change different]
  exact kept.matchState other old frozen

theorem updateState
    (kept : KeepsContracts start node)
    {matched : MatchRef}
    (calibrates : Calibrates start matched)
    (state : ProtocolState)
    (now : Time) :
    KeepsContracts start (node.updateState matched state now).1 := by
  unfold Node.updateState
  split
  · exact kept.modifyMatch calibrates fun found =>
      Node.MatchState.enter found state now
  · exact kept

/-- A new match is none of those at the start. -/
theorem calibrates_nextMatch (kept : KeepsContracts start node) :
    Calibrates start node.nextMatch :=
  fun old => absurd kept.nextMatch (Nat.not_le_of_lt old)

theorem addMatch
    (kept : KeepsContracts start node)
    (trade : TradeRef)
    (matchHash : MatchHash)
    (matched : MatchState Hex) :
    KeepsContracts start (node.addMatch trade matchHash matched) :=
  { kept.modifyMatch kept.calibrates_nextMatch fun _ => matched with
    nextMatch := Nat.le_succ_of_le kept.nextMatch }

/-- What can be calibrated later could be calibrated at the start. -/
theorem calibrates_of_stateMachine
    (kept : KeepsContracts start node)
    {matched : MatchRef}
    (allowed : stateMachine (node.matchState matched).state
      .pendingHandshake = true) :
    Calibrates start matched := by
  intro old
  by_contra frozen
  rw [Bool.not_eq_true] at frozen
  rw [kept.matchState matched old frozen, frozen] at allowed
  cases allowed

theorem deliver
    (kept : KeepsContracts start node)
    (con : Con)
    (reply : Reply Hex) :
    KeepsContracts start (Protocol.deliver con node reply) := by
  cases reply with
  | line text =>
      exact { kept with
        sent := kept.sent.trans (List.prefix_append _ _) }
  | hybrid reply =>
      exact { kept with
        hybridReplies :=
          kept.hybridReplies.trans (List.prefix_append _ _) }

theorem deliverAll
    (kept : KeepsContracts start node)
    (con : Con)
    (replies : List (Reply Hex)) :
    KeepsContracts start (replies.foldl (Protocol.deliver con) node) := by
  induction replies generalizing node with
  | nil => exact kept
  | cons reply replies inductionHypothesis =>
      exact inductionHypothesis (kept.deliver con reply)

end KeepsContracts

/-- A computation keeps the contracts, and what it returns is good. -/
structure LeavesContracts {α : Type}
    (start : Node Hex)
    (good : α → Prop)
    (outcome : Outcome (Node Hex) PyError α) : Prop where
  kept : KeepsContracts start outcome.state
  returns : ∀ value, outcome.result = .ok value → good value

namespace LeavesContracts

variable {α β : Type} {start node : Node Hex}
variable {good : α → Prop} {after : β → Prop}

theorem pure
    {value : α}
    (kept : KeepsContracts start node)
    (isGood : good value) :
    LeavesContracts start good (Outcome.pure node value) where
  kept := kept
  returns := by
    intro other returned
    rw [Outcome.pure_result, Except.ok.injEq] at returned
    exact returned ▸ isGood

theorem attempt
    {value : Except PyError α}
    {next : α → Outcome (Node Hex) PyError β}
    (kept : KeepsContracts start node)
    (continues : ∀ found, value = .ok found →
      LeavesContracts start after (next found)) :
    LeavesContracts start after (Outcome.attempt node value next) := by
  cases value with
  | error error =>
      refine ⟨kept, ?_⟩
      intro found returned
      cases returned
  | ok found => exact continues found rfl

theorem bind
    {first : Outcome (Node Hex) PyError α}
    {next : Node Hex → α → Outcome (Node Hex) PyError β}
    (leaves : LeavesContracts start good first)
    (continues : ∀ node found, KeepsContracts start node → good found →
      LeavesContracts start after (next node found)) :
    LeavesContracts start after (first.bind next) := by
  cases returned : first.result with
  | error error =>
      rw [Outcome.bind, returned]
      refine ⟨leaves.kept, ?_⟩
      intro found other
      cases other
  | ok found =>
      rw [Outcome.bind_of_ok returned]
      exact continues first.state found leaves.kept
        (leaves.returns found returned)

/-- The operators of trades. -/
theorem onHeap
    (kept : KeepsContracts start node)
    (change : TradeHeap → Outcome TradeHeap PyError α) :
    LeavesContracts start (fun _ : α => True) (node.onHeap change) :=
  ⟨kept.elsewhere, fun _ _ => trivial⟩

end LeavesContracts

namespace Protocol

variable (env : MarketEnv Hex) {start node : Node Hex}

/-! ## Orders -/

theorem registerOrder_leavesContracts
    (kept : KeepsContracts start node)
    (answers : NewOrderAnswers)
    (trade : TradeRef) :
    LeavesContracts start (fun _ => True)
      (registerOrder env answers node trade) := by
  apply LeavesContracts.attempt kept
  intro msg _
  exact LeavesContracts.pure kept.elsewhere trivial

theorem ensureOrder_leavesContracts
    (kept : KeepsContracts start node)
    (answers : OrderAnswers Hex)
    (trade : TradeRef) :
    LeavesContracts start (fun _ => True)
      (ensureOrder env answers node trade) := by
  unfold ensureOrder
  split
  · apply (registerOrder_leavesContracts env kept _ trade).bind
    intro node msg kept _
    exact LeavesContracts.pure kept.elsewhere trivial
  · exact LeavesContracts.pure kept trivial

theorem sendMatch_leavesContracts
    (kept : KeepsContracts start node)
    (answers : OrderAnswers Hex)
    (now : Time)
    (trade : TradeRef)
    (order : OrderType) :
    LeavesContracts start (fun _ => True)
      (sendMatch env answers now node trade order) := by
  apply LeavesContracts.attempt kept
  rintro ⟨msg, sent⟩ _
  apply LeavesContracts.attempt kept
  intro _ _
  apply (LeavesContracts.onHeap kept _).bind
  intro node _ kept _
  exact LeavesContracts.pure
    ((kept.addMatch trade _ _).updateState kept.calibrates_nextMatch _ now)
    trivial

theorem matchOpenOrder_leavesContracts
    (kept : KeepsContracts start node)
    (answers : OrderAnswers Hex)
    (now : Time)
    (order : OrderType) :
    LeavesContracts start (fun _ => True)
      (matchOpenOrder env answers now node order) := by
  unfold matchOpenOrder
  split
  · exact LeavesContracts.pure kept trivial
  apply LeavesContracts.attempt kept
  intro already _
  split
  · exact LeavesContracts.pure kept trivial
  split
  · exact LeavesContracts.pure kept trivial
  next trade _ =>
    apply (ensureOrder_leavesContracts env kept answers trade).bind
    intro node _ kept _
    exact sendMatch_leavesContracts env kept answers now trade order

theorem unreserveExpired_leavesContracts
    (kept : KeepsContracts start node)
    (now : Time)
    (trade : TradeRef)
    (matches_ : List (MatchHash × MatchRef)) :
    LeavesContracts start (fun _ => True)
      (unreserveExpired env now trade matches_ node) := by
  induction matches_ generalizing node with
  | nil => exact LeavesContracts.pure kept trivial
  | cons entry matches_ inductionHypothesis =>
      obtain ⟨matchHash, matched⟩ := entry
      apply LeavesContracts.attempt kept
      intro expired _
      split
      · apply (LeavesContracts.onHeap kept _).bind
        intro node _ kept _
        apply (inductionHypothesis kept).bind
        intro node hashes kept _
        exact LeavesContracts.pure kept trivial
      · exact inductionHypothesis kept

theorem expireMatches_leavesContracts
    (kept : KeepsContracts start node)
    (now : Time)
    (trades : List TradeRef) :
    LeavesContracts start (fun _ => True)
      (expireMatches env now trades node) := by
  induction trades generalizing node with
  | nil => exact LeavesContracts.pure kept trivial
  | cons trade trades inductionHypothesis =>
      apply (unreserveExpired_leavesContracts env kept now trade _).bind
      intro node hashes kept _
      exact inductionHypothesis kept.elsewhere

theorem parseOpenOrder_leavesContracts
    (kept : KeepsContracts start node)
    (now : Time)
    (msg : OpenOrderMsg)
    (answers : OrderAnswers Hex) :
    LeavesContracts start (fun _ => True)
      (parseOpenOrder env node now msg answers) := by
  apply LeavesContracts.attempt kept
  intro checked _
  dsimp only
  split
  · exact LeavesContracts.pure kept trivial
  next trade ecdsa1 ecdsa2 _ =>
    have stored := ((kept.newTrade trade).newTrade trade).openOrderRow
      { orderHash := env.calculateMsgId msg.wire
        trade := node.nextTrade + 1
        ecdsa1, ecdsa2
        greenAddress := none }
    split
    · exact LeavesContracts.pure stored trivial
    apply (expireMatches_leavesContracts env stored now _).bind
    intro node _ kept _
    apply (matchOpenOrder_leavesContracts env kept answers now _).bind
    intro node routed kept _
    exact LeavesContracts.pure kept trivial

/-! ## Match orders -/

/-- What the body of a loop may name. -/
def LoopMove.Calibrates (start : Node Hex) : LoopMove Hex → Prop
  | .matched found _ _ => Coinbend.Calibrates start found
  | _ => True

theorem offerBody_leavesContracts
    (kept : KeepsContracts start node)
    (arrival : Arrival)
    (answers : OrderAnswers Hex)
    (matched : MatchType Hex)
    (matchTrade : TradeRef)
    (ecdsa1 : PubKey)
    (trade : TradeRef) :
    LeavesContracts start (LoopMove.Calibrates start)
      (offerBody env arrival answers matched matchTrade node ecdsa1 trade) := by
  have skips : LeavesContracts start (LoopMove.Calibrates start)
      (Outcome.pure node LoopMove.skip) := LeavesContracts.pure kept trivial
  unfold offerBody
  dsimp only
  iterate 4
    split
    · exact skips
  split
  · exact LeavesContracts.pure kept trivial
  have isNew := kept.calibrates_nextMatch
  apply (LeavesContracts.onHeap (kept.addMatch trade _ _) _).bind
  intro after calTrade kept _
  apply LeavesContracts.attempt kept
  rintro ⟨msg, calMatch⟩ _
  exact LeavesContracts.pure
    ((kept.modifyMatch isNew _).updateState isNew _ arrival.now) isNew

theorem stateMachine_of_replyGuards
    {orderHash : OrderHash}
    {ecdsa1 : PubKey}
    {matched : MatchState Hex}
    {sent : MatchType Hex}
    (passed : replyGuards node orderHash ecdsa1 matched = .ok (some sent)) :
    stateMachine matched.state .pendingHandshake = true := by
  by_contra refused
  rw [Bool.not_eq_true] at refused
  rw [replyGuards, if_pos refused] at passed
  cases passed

theorem replyBody_leavesContracts
    (kept : KeepsContracts start node)
    (arrival : Arrival)
    (matchHash : MatchHash)
    (matched : MatchType Hex)
    (matchTrade : TradeRef)
    (ecdsa1 : PubKey)
    (trade : TradeRef) :
    LeavesContracts start (LoopMove.Calibrates start)
      (replyBody env arrival matchHash matched matchTrade node ecdsa1
        trade) := by
  unfold replyBody
  split
  · exact LeavesContracts.pure kept trivial
  next found _ =>
    apply LeavesContracts.attempt kept
    intro guarded isGuarded
    dsimp only
    split
    · exact LeavesContracts.pure kept trivial
    have calibrates := kept.calibrates_of_stateMachine
      (stateMachine_of_replyGuards isGuarded)
    apply LeavesContracts.attempt kept
    intro _ _
    apply LeavesContracts.attempt kept
    intro order _
    have rematches : LeavesContracts start (fun _ => True)
        (rematch env node trade order matchTrade) := by
      apply (LeavesContracts.onHeap kept _).bind
      intro node _ kept _
      apply (LeavesContracts.onHeap kept _).bind
      intro node _ kept _
      exact LeavesContracts.pure kept trivial
    apply rematches.bind
    intro node _ kept _
    exact LeavesContracts.pure
      ((kept.modifyMatch calibrates _).updateState calibrates _ arrival.now)
      calibrates

theorem matchBody_leavesContracts
    (kept : KeepsContracts start node)
    (arrival : Arrival)
    (msg : MatchOrderMsg)
    (answers : OrderAnswers Hex)
    (matched : MatchType Hex)
    (matchTrade : TradeRef)
    (ecdsa1 : PubKey)
    (trade : TradeRef) :
    LeavesContracts start (LoopMove.Calibrates start)
      (matchBody env arrival msg answers matched matchTrade node ecdsa1
        trade) := by
  unfold matchBody
  split
  · exact offerBody_leavesContracts env kept arrival answers matched
      matchTrade ecdsa1 trade
  · exact replyBody_leavesContracts env kept arrival _ matched matchTrade
      ecdsa1 trade

/-- The match the loop variables name. -/
def LoopVars.Calibrates (start : Node Hex) (vars : LoopVars Hex) : Prop :=
  ∀ found, vars.matched = some found → Coinbend.Calibrates start found

theorem tradeLoop_leavesContracts
    {body : Node Hex → PubKey → TradeRef →
      Outcome (Node Hex) PyError (LoopMove Hex)}
    (bodyLeaves : ∀ node ecdsa1 trade, KeepsContracts start node →
      LeavesContracts start (LoopMove.Calibrates start)
        (body node ecdsa1 trade))
    (kept : KeepsContracts start node)
    {vars : LoopVars Hex}
    (named : vars.Calibrates start)
    (trades : List TradeRef) :
    LeavesContracts start
      (fun left => ∀ vars ∈ left, LoopVars.Calibrates start vars)
      (tradeLoop body trades node vars) := by
  induction trades generalizing node vars with
  | nil =>
      apply LeavesContracts.pure kept
      intro other isVars
      cases isVars
      exact named
  | cons trade trades inductionHypothesis =>
      apply (bodyLeaves node vars.ecdsa1 trade kept).bind
      intro node move kept calibrates
      cases move with
      | skip => exact inductionHypothesis kept named
      | stop =>
          apply LeavesContracts.pure kept
          intro other isVars
          cases isVars
      | matched found ecdsa1 lines =>
          apply inductionHypothesis kept
          intro other isFound
          cases isFound
          exact calibrates

theorem signContract_leavesContracts
    (kept : KeepsContracts start node)
    (arrival : Arrival)
    {vars : LoopVars Hex}
    (named : vars.Calibrates start) :
    LeavesContracts start (fun _ => True)
      (signContract env node arrival vars) := by
  unfold signContract
  split
  · exact LeavesContracts.pure kept trivial
  next found isFound =>
    apply LeavesContracts.attempt kept
    intro reply _
    apply LeavesContracts.attempt kept
    intro sent _
    have kept : KeepsContracts start { node with prec := contractPrec } :=
      { kept with }
    apply LeavesContracts.attempt kept
    intro contractMsg _
    apply LeavesContracts.attempt kept
    intro contract _
    exact LeavesContracts.pure (kept.modifyMatch (named found isFound) _)
      trivial

theorem parseMatchOrder_leavesContracts
    (kept : KeepsContracts start node)
    (arrival : Arrival)
    (msg : MatchOrderMsg)
    (answers : OrderAnswers Hex) :
    LeavesContracts start (fun _ => True)
      (parseMatchOrder env node arrival msg answers) := by
  apply LeavesContracts.attempt kept
  intro checked _
  cases checked with
  | rejected => exact LeavesContracts.pure kept trivial
  | exit => exact LeavesContracts.pure kept.elsewhere trivial
  | passed matched =>
      have unnamed : LoopVars.Calibrates start
          ⟨none, matched.ecdsa1, []⟩ := by
        intro found isFound
        cases isFound
      apply (tradeLoop_leavesContracts
        (fun _ ecdsa1 trade kept => matchBody_leavesContracts env kept arrival
          msg answers matched _ ecdsa1 trade)
        (kept.newTrade matched.trade) unnamed node.trades).bind
      intro node vars kept named
      cases vars with
      | none => exact LeavesContracts.pure kept trivial
      | some vars =>
          exact signContract_leavesContracts env kept arrival (named vars rfl)

/-! ## Runs -/

/-- Whether an event is one of trading, not of the microtransfer protocol. -/
def TradingEvent.isTrading : TradingEvent Hex → Bool
  | .protocol _ => false
  | _ => true

theorem announceTrade_leavesContracts
    (kept : KeepsContracts start node)
    (answers : NewOrderAnswers)
    (trade : TradeRef) :
    LeavesContracts start (fun _ => True)
      (announceTrade env answers node trade) := by
  unfold announceTrade
  split
  · exact LeavesContracts.pure kept trivial
  have opens {node : Node Hex} (kept : KeepsContracts start node) :
      LeavesContracts start (fun _ : Unit => True)
        (Outcome.pure { node with
          heap := node.heap.modify trade fun found =>
            { found with status := .open } } ()) :=
    LeavesContracts.pure kept.elsewhere trivial
  split
  · have registers : LeavesContracts start (fun _ => True)
        ((registerOrder env answers node trade).bind fun node _ =>
          Outcome.pure node ()) := by
      apply (registerOrder_leavesContracts env kept answers trade).bind
      intro node _ kept _
      exact LeavesContracts.pure kept trivial
    exact registers.bind fun _ _ kept _ => opens kept
  · exact opens kept

theorem runUncaught_keepsContracts
    {outcome : Outcome (Node Hex) PyError Unit}
    (leaves : LeavesContracts start (fun _ => True) outcome) :
    KeepsContracts start (runUncaught outcome) := by
  unfold runUncaught
  split
  · exact leaves.kept
  · exact leaves.kept.elsewhere

theorem understand_keepsContracts
    {handled : Handled Hex}
    (leaves : LeavesContracts start (fun _ => True) handled)
    (con : Con) :
    KeepsContracts start (understand con handled) := by
  unfold understand
  split
  · exact leaves.kept.deliverAll con _
  · exact leaves.kept

theorem listTrade_keepsContracts
    (node : Node Hex)
    (trade : Trade)
    (factory : MicrotransferFactory Hex) :
    KeepsContracts node (listTrade node trade factory) := by
  refine { (KeepsContracts.refl node).newTrade trade with factory := ?_ }
  intro other old
  exact Function.update_of_ne (Nat.ne_of_lt old) _ _

theorem tradingStep_keepsContracts
    (node : Node Hex)
    {event : TradingEvent Hex}
    (trading : event.isTrading = true) :
    KeepsContracts node (tradingStep env node event) := by
  have kept := KeepsContracts.refl node
  unfold tradingStep
  split
  · exact kept
  cases event with
  | protocol event => cases trading
  | openTrade trade factory => exact listTrade_keepsContracts node trade factory
  | announce trade answers =>
      exact runUncaught_keepsContracts
        (announceTrade_leavesContracts env kept answers trade)
  | openOrder now msg answers =>
      exact (parseOpenOrder_leavesContracts env kept now msg answers).kept
  | matchOrder arrival msg answers =>
      exact understand_keepsContracts
        (parseMatchOrder_leavesContracts env kept arrival msg answers)
        arrival.con

/-- Whatever trading a node does, and whatever orders and matches other nodes
send it, its contracts go on as they were. -/
theorem trading_keepsContracts
    (node : Node Hex)
    (events : List (TradingEvent Hex)) :
    KeepsContracts node
      (Machine.run (tradingStep env) node
        (events.filter TradingEvent.isTrading)) := by
  induction events generalizing node with
  | nil => exact KeepsContracts.refl node
  | cons event events inductionHypothesis =>
      by_cases trading : event.isTrading = true
      · rw [List.filter_cons_of_pos trading, Machine.run_cons]
        exact (tradingStep_keepsContracts env node trading).trans
          (inductionHypothesis _)
      · rw [List.filter_cons_of_neg trading]
        exact inductionHypothesis node

end Protocol
end Coinbend
