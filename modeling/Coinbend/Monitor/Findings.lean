import Coinbend.Monitor.Callbacks

/-!
# What is behind an event

Whatever the daemons answer and wherever a pass breaks off, a watch has an
event only for a transaction that a block of the run held, or one that was
confirmed when the watch was added; a watch without an event counts nothing;
and a callback runs only for a watch that has its confirmations.
-/

namespace Coinbend

open CoinView

variable {Hex : Type} [DecidableEq Hex]

/-- A block of the run, by its hash, held a transaction. -/
def InBlock
    (actions : List (MonitorAction Hex))
    (currency : String)
    (hash : BlockHash)
    (txHex : Hex) : Prop :=
  ∃ block txHexs answers tx,
    .block currency block txHexs answers tx ∈ actions ∧
      block.hash = hash ∧ txHex ∈ txHexs

/-- A watch for the transaction was added when it was confirmed already. -/
def AddedConfirmed
    (env : MonitorEnv Hex)
    (actions : List (MonitorAction Hex))
    (currency : String)
    (value : Hex) : Prop :=
  ∃ args answers watch,
    .add currency args answers ∈ actions ∧
      Built env currency args answers watch ∧
      watch.needle = .txHex value ∧
      AddAnswers.Confirmed env answers

/-- What a watch found is in the block it names. -/
def Watch.FoundInBlock
    (actions : List (MonitorAction Hex))
    (currency : String)
    (watch : Watch Hex)
    (txHex : Hex) : Prop :=
  watch.foundTxHex = some txHex ∧ 0 < watch.confirmations ∧
    ∃ hash, watch.block = some hash ∧ InBlock actions currency hash txHex

/-- What is behind the event of a watch. -/
def Watch.Backed
    (env : MonitorEnv Hex)
    (actions : List (MonitorAction Hex))
    (currency : String)
    (watch : Watch Hex) : Prop :=
  match watch.event with
  | none => watch.confirmations = 0
  | some .confirm =>
      ∃ value, watch.needle = .txHex value ∧
        (watch.FoundInBlock actions currency value ∨
          watch.foundTxHex = none ∧
            AddedConfirmed env actions currency value)
  | some .mutate =>
      ∃ value txHex, watch.needle = .txHex value ∧
        watch.FoundInBlock actions currency txHex ∧
        txHex ≠ value ∧ compareTransactions env.lib txHex value = 1
  | some .fraud =>
      ∃ value txHex, watch.needle = .txHex value ∧
        watch.FoundInBlock actions currency txHex ∧
        txHex ≠ value ∧ compareTransactions env.lib txHex value ≠ 1
  | some .arrival => False

variable {env : MonitorEnv Hex} {actions : List (MonitorAction Hex)}
  {currency : String} {watch : Watch Hex}

namespace Watch

/-- Only a watch for a transaction has an event. -/
theorem Backed.needle
    (backed : watch.Backed env actions currency)
    (present : watch.event ≠ none) :
    ∃ value, watch.needle = .txHex value := by
  unfold Backed at backed
  cases isEvent : watch.event with
  | none => exact absurd isEvent present
  | some event =>
      rw [isEvent] at backed
      cases event with
      | confirm => exact ⟨backed.choose, backed.choose_spec.1⟩
      | mutate =>
          obtain ⟨value, _, needle, _⟩ := backed
          exact ⟨value, needle⟩
      | fraud =>
          obtain ⟨value, _, needle, _⟩ := backed
          exact ⟨value, needle⟩
      | arrival => exact backed.elim

/-- Where a watch keeps what it has found, the event stays backed. -/
theorem Backed.congr
    {other : Watch Hex}
    (backed : watch.Backed env actions currency)
    (event : other.event = watch.event)
    (needle : other.needle = watch.needle)
    (foundTxHex : other.foundTxHex = watch.foundTxHex)
    (block : other.block = watch.block)
    (counted : watch.event ≠ none → 0 < watch.confirmations →
      0 < other.confirmations)
    (uncounted : watch.event = none →
      other.confirmations = watch.confirmations) :
    other.Backed env actions currency := by
  have found : ∀ txHex, watch.event ≠ none →
      watch.FoundInBlock actions currency txHex →
      other.FoundInBlock actions currency txHex := by
    rintro txHex present ⟨isText, positive, hash, isBlock, inBlock⟩
    exact ⟨foundTxHex.trans isText, counted present positive, hash,
      block.trans isBlock, inBlock⟩
  unfold Backed at backed ⊢
  rw [event, needle, foundTxHex]
  cases isEvent : watch.event with
  | none =>
      rw [isEvent] at backed
      exact (uncounted isEvent).trans backed
  | some seen =>
      have present : watch.event ≠ none := by
        rw [isEvent]
        exact Option.some_ne_none seen
      rw [isEvent] at backed
      cases seen with
      | confirm =>
          obtain ⟨value, isValue, inBlock | added⟩ := backed
          · exact ⟨value, isValue, .inl (found value present inBlock)⟩
          · exact ⟨value, isValue, .inr added⟩
      | mutate =>
          obtain ⟨value, txHex, isValue, inBlock, rest⟩ := backed
          exact ⟨value, txHex, isValue, found txHex present inBlock, rest⟩
      | fraud =>
          obtain ⟨value, txHex, isValue, inBlock, rest⟩ := backed
          exact ⟨value, txHex, isValue, found txHex present inBlock, rest⟩
      | arrival => exact backed.elim

end Watch

/-- The event that a transaction is for a needle. -/
theorem needleEvent_eq_some_iff
    {value txHex : Hex}
    {event : WatchEvent} :
    needleEvent env value txHex = some event ↔
      (txHex = value ∧ event = .confirm) ∨
        (txHex ≠ value ∧ compareTransactions env.lib txHex value = 1 ∧
          event = .mutate) := by
  unfold needleEvent
  by_cases same : txHex = value
  · simp [same, eq_comm]
  · by_cases equal : compareTransactions env.lib txHex value = 1
    · simp [same, equal, eq_comm]
    · simp [same, equal]

theorem needleEvent_eq_none_iff {value txHex : Hex} :
    needleEvent env value txHex = none ↔
      txHex ≠ value ∧ compareTransactions env.lib txHex value ≠ 1 := by
  unfold needleEvent
  by_cases same : txHex = value
  · simp [same]
  · by_cases equal : compareTransactions env.lib txHex value = 1
    · simp [same, equal]
    · simp [same, equal]

/-- What a pending watch finds in a block. -/
theorem Watch.of_finds
    {inputs : Dict Txid (List Nat)}
    {txHexs : List Hex}
    {watchId : WatchId}
    {event : WatchEvent}
    {txHex : Hex}
    (something : watch.finds env currency inputs txHexs watchId =
      some (event, txHex)) :
    txHex ∈ txHexs ∧ ∃ value, watch.needle = .txHex value ∧
      needleEvent env value txHex = some event := by
  unfold Watch.finds at something
  split at something
  · cases something
  · split at something
    next scanned isScanned =>
      exact needleEvent_of_scan env isScanned something
    · cases something

/-- The loop over the watches keeps events backed. -/
theorem Watch.Backed.visited
    {inputs : Dict Txid (List Nat)}
    {block : Block}
    {txHexs : List Hex}
    {watchId : WatchId}
    {answers : CallbackAnswers}
    {tx : Option CTransaction}
    (performed : .block currency block txHexs answers tx ∈ actions)
    (backed : watch.Backed env actions currency) :
    (watch.visited env currency inputs block txHexs watchId).Backed env actions
      currency := by
  by_cases present : watch.event ≠ none
  · rw [Watch.visited_of_event env present]
    exact backed.congr rfl rfl rfl rfl
      (fun _ positive => Nat.lt_succ_of_lt positive)
      (fun absent => absurd absent present)
  · have pending : watch.event = none := not_not.mp present
    cases something : watch.finds env currency inputs txHexs watchId with
    | none =>
        rw [Watch.visited_of_finds_none env pending something]
        exact backed
    | some pair =>
        obtain ⟨event, txHex⟩ := pair
        rw [Watch.visited_of_finds env pending something]
        obtain ⟨mem, value, needle, isEvent⟩ := Watch.of_finds something
        have inBlock : InBlock actions currency block.hash txHex :=
          ⟨block, txHexs, answers, tx, performed, rfl, mem⟩
        rcases needleEvent_eq_some_iff.mp isEvent with
          ⟨rfl, rfl⟩ | ⟨different, equal, rfl⟩
        · exact ⟨_, needle, .inl ⟨rfl, Nat.succ_pos _, _, rfl, inBlock⟩⟩
        · exact ⟨value, txHex, needle, ⟨rfl, Nat.succ_pos _, _, rfl, inBlock⟩,
            different, equal⟩

namespace CoinView

variable {view : CoinView Hex} {block : Block} {txHexs : List Hex}

omit [DecidableEq Hex] in
/-- A watch that was removed stays removed. -/
theorem removeOldWatches_none
    {ids : List WatchId}
    {id : WatchId}
    (absent : view.watching.get? id = none) :
    (removeOldWatches ids view).state.watching.get? id = none := by
  cases found : (removeOldWatches ids view).state.watching.get? id with
  | none => rfl
  | some watch =>
      obtain ⟨before, isBefore, _⟩ :=
        (@steps_removeOldWatches _ view (fun _ _ _ => False)
          ids).comesFrom id watch found
      rw [absent] at isBefore
      cases isBefore

omit [DecidableEq Hex] in
/-- An old watch is removed unless it is for something else than a transaction
and does not expire. -/
theorem removeOldWatches_cons
    {first : WatchId}
    {ids : List WatchId}
    {old : Watch Hex}
    (isOld : view.watching.get? first = some old) :
    removeOldWatches (first :: ids) view =
        ((view.removeWatch first).bind fun view _ =>
          removeOldWatches ids view) ∨
      (∀ value, old.needle ≠ .txHex value) ∧
        removeOldWatches (first :: ids) view = removeOldWatches ids view := by
  have found : Except.ofOption PyError.keyError
      (view.watching.get? first) = .ok old := by
    rw [isOld]
    rfl
  rw [removeOldWatches, found, Outcome.attempt_ok]
  cases isNeedle : old.needle with
  | txHex value => exact .inl rfl
  | _ =>
      cases isExpired : old.expires with
      | true => exact .inl rfl
      | false =>
          refine .inr ⟨?_, rfl⟩
          intro _ isText
          cases isText

omit [DecidableEq Hex] in
/-- Old watches for transactions are removed. -/
theorem removeOldWatches_spec
    {ids : List WatchId}
    (returned : (removeOldWatches ids view).result = .ok ())
    {id : WatchId}
    {watch : Watch Hex}
    {value : Hex}
    (mem : id ∈ ids)
    (found : view.watching.get? id = some watch)
    (needle : watch.needle = .txHex value) :
    (removeOldWatches ids view).state.watching.get? id = none := by
  induction ids generalizing view with
  | nil => cases mem
  | cons first ids inductionHypothesis =>
      obtain ⟨old, isOld⟩ : ∃ old, view.watching.get? first = some old := by
        rw [removeOldWatches, Outcome.attempt_result_eq_ok_iff] at returned
        obtain ⟨old, isOld, _⟩ := returned
        exact ⟨old, (Except.ofOption_eq_ok_iff _ _ _).mp isOld⟩
      rcases @removeOldWatches_cons _ _ _ ids _ isOld with
        removes | ⟨other, skips⟩
      · rw [removes, Outcome.bind_result_eq_ok_iff] at returned
        obtain ⟨_, removed, returned⟩ := returned
        rw [removes, Outcome.bind_of_ok removed]
        have erased := removeWatch_watching_of_ok removed
        by_cases same : id = first
        · subst same
          apply removeOldWatches_none
          rw [erased, Dict.get?_erase, if_pos rfl]
        · refine inductionHypothesis returned
            (List.mem_of_ne_of_mem same mem) ?_
          rw [erased, Dict.get?_erase, if_neg same, found]
      · have different : id ≠ first := by
          rintro rfl
          rw [found] at isOld
          cases isOld
          exact other value needle
        rw [skips] at returned ⊢
        exact inductionHypothesis returned
          (List.mem_of_ne_of_mem different mem) found

omit [DecidableEq Hex] in
/-- The double spends of a block leave the needles of the watches. -/
theorem actOn_needle
    {doubleSpends : List (DoubleSpend Hex)}
    {id : WatchId}
    {watch : Watch Hex}
    (found : view.watching.get? id = some watch) :
    ∃ after, (doubleSpends.foldl (actOn block) view).watching.get? id =
        some after ∧
      after.needle = watch.needle := by
  induction doubleSpends generalizing view watch with
  | nil => exact ⟨watch, found, rfl⟩
  | cons doubleSpend doubleSpends inductionHypothesis =>
      rw [List.foldl_cons]
      cases isBlamed : view.watching.get? doubleSpend.watchId with
      | none =>
          rw [actOn, isBlamed]
          exact inductionHypothesis found
      | some blamed =>
          rw [actOn_of_get? isBlamed]
          by_cases same : id = doubleSpend.watchId
          · subst same
            rw [found] at isBlamed
            cases isBlamed
            obtain ⟨after, isAfter, needle⟩ := @inductionHypothesis
              ((view.putWatch doubleSpend.watchId
                (watch.defrauded block doubleSpend.txHex)).saveBlock block.hash
                (view.watching.keys.getLast?.getD doubleSpend.watchId))
              (watch.defrauded block doubleSpend.txHex)
              (Dict.get?_set_same _ _ _)
            exact ⟨after, isAfter, needle⟩
          · apply inductionHypothesis
            change (view.watching.set _ _).get? id = _
            rw [Dict.get?_set, if_neg same, found]

/-- A watch for a transaction that reaches its confirmations is removed by the
block if it is processed to its end. -/
theorem processBlock_removes
    {env : MonitorEnv Hex}
    {currency : String}
    {answers : CallbackAnswers}
    {tx last : Option CTransaction}
    (distinct : view.watching.keys.Nodup)
    (returned : (view.processBlock env currency block txHexs answers tx).result =
      .ok last)
    {id : WatchId}
    {watch : Watch Hex}
    {value : Hex}
    (found : view.watching.get? id = some watch)
    (needle : watch.needle = .txHex value)
    (reached : env.confirmations ≤ (watch.visited env currency view.inputs block
      txHexs id).confirmations) :
    (view.processBlock env currency block txHexs answers
      tx).state.watching.get? id = none := by
  rcases @processBlock_cases _ _ env currency block txHexs answers view distinct
    tx with ⟨_, error, _, _, _, raised⟩ |
      ⟨after, last, _, visited, returns, _⟩
  · rw [raised] at returned
    cases returned
  rw [returns, Outcome.bind_result_eq_ok_iff] at returned
  obtain ⟨_, removed, _⟩ := returned
  rw [returns, Outcome.bind_of_ok removed]
  have mem : id ∈ view.watching.keys := Dict.mem_keys_of_get? found
  have stored := visited.get?_of_mem mem found
  obtain ⟨acted, isActed, sameNeedle⟩ := @actOn_needle _ _ block
    (blamed env currency block txHexs view) _ _ stored
  have old : id ∈ view.watching.keys.filter
      (growsOld env currency block txHexs view) := by
    refine List.mem_filter.mpr ⟨mem, ?_⟩
    unfold growsOld
    rw [found]
    exact decide_eq_true reached
  have isNeedle : acted.needle = .txHex value := by
    rw [sameNeedle, Watch.visited_needle]
    exact needle
  exact removeOldWatches_spec removed old isActed isNeedle

end CoinView

namespace TXMonitor

/-- A watch starts without an event unless its transaction is confirmed. -/
theorem backed_of_built
    {args : WatchArgs Hex}
    {answers : AddAnswers Hex}
    (performed : .add currency args answers ∈ actions)
    (built : Built env currency args answers watch) :
    watch.Backed env actions currency := by
  have isBuilt := built
  obtain ⟨needle, tx, confirmed, _, checked, rfl⟩ := built
  cases isEvent : (buildWatch args (args.watchId.getD answers.generatedId)
      needle tx confirmed).event with
  | none =>
      unfold Watch.Backed
      rw [isEvent]
      rfl
  | some event =>
      obtain ⟨rfl, isConfirmed⟩ := Built.event isBuilt isEvent
      have isNeedle : ∃ value, needle = .txHex value := by
        unfold checkConfirmed at checked
        split at checked
        · exact ⟨_, rfl⟩
        · cases checked
          cases isEvent
      obtain ⟨value, rfl⟩ := isNeedle
      unfold Watch.Backed
      rw [isEvent]
      exact ⟨value, rfl, .inr ⟨rfl, args, answers, _, performed, isBuilt, rfl,
        isConfirmed⟩⟩

/-- Every change of a watch keeps its event backed. -/
theorem backed_of_change
    {monitor : TXMonitor Hex}
    {action : MonitorAction Hex}
    {id : WatchId}
    {start old new : Watch Hex}
    (performed : action ∈ actions)
    (found : (monitor.coins currency).watching.get? id = some start)
    (needle : old.needle = start.needle)
    (change : Change env monitor currency action id old new)
    (backed : old.Backed env actions currency) :
    new.Backed env actions currency := by
  cases action with
  | orphan about hash =>
      obtain ⟨_, counted, rfl⟩ := change
      by_cases last : old.confirmations - 1 = 0
      · unfold Watch.Backed
        simp only [if_pos last]
        exact last
      · refine backed.congr (if_neg last) rfl rfl rfl ?_ ?_
        · exact fun _ _ => Nat.pos_of_ne_zero last
        · intro absent
          unfold Watch.Backed at backed
          rw [absent] at backed
          exact absurd backed counted
  | block about block txHexs answers tx =>
      rcases change with ⟨rfl, ⟨_, rfl⟩ | ⟨_, doubleSpend, blamed, rfl, rfl⟩⟩
      · exact backed.visited performed
      · obtain ⟨watch, value, _, isStored, _, isValue, mem, other, _⟩ :=
          of_mem_suspicions (mem_of_mem_blame blamed)
        have same : watch = start :=
          Option.some.inj (isStored.symm.trans found)
        obtain ⟨different, unequal⟩ := needleEvent_eq_none_iff.mp other
        refine ⟨value, doubleSpend.txHex, needle.trans (same ▸ isValue), ?_,
          different, unequal⟩
        exact ⟨rfl, Nat.succ_pos _, _, rfl, block, txHexs, answers, tx,
          performed, rfl, mem⟩
  | arrivals about txHexs answers tx =>
      obtain ⟨_, rfl⟩ := change
      exact backed.congr rfl rfl rfl rfl (fun _ positive => positive)
        (fun _ => rfl)
  | _ => exact change.elim

/-- The events of all watches are backed before and after every action of a
run. -/
theorem backed_run
    (env : MonitorEnv Hex)
    (latestBlocks : Dict String Block)
    (now : Nat)
    (commands : List (MonitorCommand Hex)) :
    let actions := actionsOfRun env (init latestBlocks now) commands
    Each (fun currency _ watch => watch.Backed env actions currency)
        (Machine.run (command env) (init latestBlocks now) commands) ∧
      ActionsMeet env
        (fun monitor action => action ∈ actions ∧ monitor.Distinct ∧
          Each (fun currency _ watch => watch.Backed env actions currency)
            monitor)
        (init latestBlocks now) commands := by
  intro actions
  have meet : ActionsMeet env (fun _ action => True ∧ action ∈ actions)
      (init latestBlocks now) commands :=
    actionsMeet_mem env (actionsMeet_always env (fun _ _ => trivial) _ _)
  obtain ⟨afterwards, always⟩ := @each_run _ _ env
    (fun _ action => True ∧ action ∈ actions)
    (fun currency _ watch => watch.Backed env actions currency)
    (fun _ _ _ _ _ performed built => backed_of_built performed.2 built)
    (fun _ _ _ _ _ _ _ performed found needle _ change backed =>
      backed_of_change performed.2 found needle change backed)
    latestBlocks now commands meet
  exact ⟨afterwards, Machine.Allowed.mono (command env)
    (fun _ _ _ met => Machine.Allowed.mono (act env)
      (fun _ _ _ holds => ⟨holds.1.2, holds.2⟩) met) always⟩

/-- Over every run, whatever the daemons answer and wherever passes break off:
a watch has an event only for a transaction of its kind that the block it
names held, or that was confirmed when the watch was added, and a watch without
an event counts nothing. -/
theorem every_event_backed
    (env : MonitorEnv Hex)
    (latestBlocks : Dict String Block)
    (now : Nat)
    (commands : List (MonitorCommand Hex)) :
    Each
      (fun currency _ watch => watch.Backed env
        (actionsOfRun env (init latestBlocks now) commands) currency)
      (Machine.run (command env) (init latestBlocks now) commands) :=
  (backed_run env latestBlocks now commands).1

/-- What is behind a callback that the loop over the watches runs. -/
def Earned
    (env : MonitorEnv Hex)
    (actions : List (MonitorAction Hex))
    (monitor : TXMonitor Hex)
    (action : MonitorAction Hex)
    (fired : Fired Hex) : Prop :=
  match action with
  | .block currency block txHexs _ _ =>
      ∃ watch visited,
        (monitor.coins currency).watching.get? fired.id = some watch ∧
        visited = watch.visited env currency (monitor.coins currency).inputs
          block txHexs fired.id ∧
        visited.Backed env actions currency ∧
        visited.event = some fired.event ∧
        visited.foundTxHex = fired.txHex ∧
        visited.confirmations = fired.confirmations ∧
        env.confirmations ≤ fired.confirmations ∧
        (watch.callback.get fired.event).isSome = true
  | action => Justified env monitor action fired

/-- Over every run, the callbacks an action runs are of different watches; a
block runs one only for a watch of the table that has reached its
confirmations, with an event that is backed; and the others are those of
arrivals and of watches added for confirmed transactions. -/
theorem every_callback_earned
    (env : MonitorEnv Hex)
    (latestBlocks : Dict String Block)
    (now : Nat)
    (commands : List (MonitorCommand Hex)) :
    ActionsMeet env
      (fun monitor action =>
        ∃ fired, (act env monitor action).fired = monitor.fired ++ fired ∧
          (fired.map Fired.id).Nodup ∧
          ∀ callback ∈ fired, Earned env
            (actionsOfRun env (init latestBlocks now) commands) monitor action
            callback)
      (init latestBlocks now) commands := by
  refine Machine.Allowed.mono (command env) ?_
    (backed_run env latestBlocks now commands).2
  intro _ _ _ met
  refine Machine.Allowed.mono (act env) ?_ met
  rintro monitor action - ⟨performed, distinct, backed⟩
  obtain ⟨fired, fires, different, justified⟩ :=
    @act_fired _ _ env monitor distinct action
  refine ⟨fired, fires, different, ?_⟩
  intro callback mem
  have reason := justified callback mem
  cases action with
  | block currency block txHexs answers tx =>
      obtain ⟨watch, visited, code, found, rfl, event, text, count, reached,
        isCode⟩ := reason
      have isBacked := backed currency callback.id watch found
      refine ⟨watch, _, found, rfl, isBacked.visited performed, event, text,
        count, reached, ?_⟩
      rw [isCode]
      rfl
  | _ => exact reason

/-- Over every run, a watch whose callback was run by a block that was
processed to its end is gone afterwards, so that its callbacks run once. -/
theorem fired_is_removed
    (env : MonitorEnv Hex)
    (latestBlocks : Dict String Block)
    (now : Nat)
    (commands : List (MonitorCommand Hex)) :
    ActionsMeet env
      (fun monitor action =>
        ∀ currency block txHexs answers tx,
          action = .block currency block txHexs answers tx →
          (∃ done, (monitor.perform env action).result = .ok done) →
          ∃ fired, (act env monitor action).fired = monitor.fired ++ fired ∧
            ∀ callback ∈ fired,
              ((act env monitor action).coins currency).watching.get?
                callback.id = none)
      (init latestBlocks now) commands := by
  refine Machine.Allowed.mono (command env) ?_
    (backed_run env latestBlocks now commands).2
  intro _ _ _ met
  refine Machine.Allowed.mono (act env) ?_ met
  rintro monitor action - ⟨performed, distinct, backed⟩
  rintro currency block txHexs answers tx rfl ⟨done, returned⟩
  obtain ⟨fired, fires, _, justified⟩ := @act_fired _ _ env monitor distinct
    (.block currency block txHexs answers tx)
  refine ⟨fired, fires, ?_⟩
  intro callback mem
  obtain ⟨watch, visited, code, found, rfl, event, _, count, reached, _⟩ :=
    justified callback mem
  have present : (watch.visited env currency (monitor.view currency).inputs
      block txHexs callback.id).event ≠ none := by
    rw [event]
    exact Option.some_ne_none _
  obtain ⟨value, needle⟩ := Watch.Backed.needle
    ((backed currency callback.id watch found).visited performed) present
  rw [Watch.visited_needle] at needle
  rw [perform, Outcome.bind_result_eq_ok_iff] at returned
  obtain ⟨last, processed, _⟩ := returned
  have removed := processBlock_removes (distinct currency) processed found
    needle (count ▸ reached)
  rw [act_block, coins_setView, if_pos rfl]
  exact removed

end TXMonitor
end Coinbend
