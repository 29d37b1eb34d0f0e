import Coinbend.Monitor.Changes

/-!
# The callbacks the monitor runs

The loop over the watches runs a callback for a watch that has reached its
confirmations, with what the watch has found.  A transaction in the memory pool
runs the callback of its arrival, and a watch added for a confirmed transaction
runs its callback at once.  Nothing else runs a callback.
-/

namespace Coinbend

variable {Hex : Type}

namespace CoinView

variable {view : CoinView Hex} {answers : CallbackAnswers} {watchId : WatchId}

theorem runCallback_fired (code : Code) (fired : Fired Hex) :
    (view.runCallback answers (some code) fired).state.fired =
      view.fired ++ [fired] := by
  unfold runCallback
  exact Outcome.attempt_state (motive := fun after : CoinView Hex =>
    after.fired = view.fired ++ [fired]) rfl fun _ _ => rfl

theorem updateWatch_state :
    (view.updateWatch answers watchId).state = view := by
  unfold updateWatch
  apply Outcome.attempt_state (motive := fun after : CoinView Hex =>
    after = view) rfl
  intro _ _
  exact Outcome.attempt_state (motive := fun after : CoinView Hex =>
    after = view) rfl fun _ _ => rfl

theorem doCallback_fired (code : Code) (fired : Fired Hex) :
    (view.doCallback answers (some code) fired).state.fired =
      view.fired ++ [fired] := by
  have ran := @runCallback_fired _ view answers code fired
  unfold doCallback
  apply Outcome.bind_state (motive := fun after : CoinView Hex =>
    after.fired = view.fired ++ [fired]) ran
  intro _ _
  rw [updateWatch_state]
  exact ran

theorem removeWatch_fired (watchId : WatchId) :
    (view.removeWatch watchId).state.fired = view.fired := by
  have inputs : ∀ (prevouts : List COutPoint) (view : CoinView Hex),
      (removeInputs prevouts view).state.fired = view.fired := by
    intro prevouts
    induction prevouts with
    | nil => exact fun _ => rfl
    | cons prevout prevouts inductionHypothesis =>
        intro view
        have once : (view.removeInput prevout).state.fired = view.fired := by
          unfold removeInput
          split
          · rfl
          dsimp only
          split <;> rfl
        rw [removeInputs]
        apply Outcome.bind_state (motive := fun after : CoinView Hex =>
          after.fired = view.fired) once
        intro _ _
        exact (inductionHypothesis _).trans once
  have seen : ∀ view : CoinView Hex,
      (view.removeSeen watchId).state.fired = view.fired := by
    intro view
    unfold removeSeen
    apply Outcome.attempt_state (motive := fun after : CoinView Hex =>
      after.fired = view.fired) rfl
    intro watch _
    apply Outcome.attempt_state (motive := fun after : CoinView Hex =>
      after.fired = view.fired) rfl
    intro hash _
    exact Outcome.attempt_state (motive := fun after : CoinView Hex =>
      after.fired = view.fired) rfl fun _ _ => rfl
  unfold removeWatch
  apply Outcome.attempt_state (motive := fun after : CoinView Hex =>
    after.fired = view.fired) rfl
  intro watch _
  apply Outcome.attempt_state (motive := fun after : CoinView Hex =>
    after.fired = view.fired) rfl
  intro _ _
  have removed := inputs watch.inputs
    { view with watchesById := view.watchesById.erase watchId }
  apply Outcome.bind_state (motive := fun after : CoinView Hex =>
    after.fired = view.fired) removed
  intro _ _
  have unseen := seen (removeInputs watch.inputs
    { view with watchesById := view.watchesById.erase watchId }).state
  apply Outcome.bind_state (motive := fun after : CoinView Hex =>
    after.fired = view.fired) (unseen.trans removed)
  intro _ _
  exact unseen.trans removed

/-! ## The callbacks of a block -/

variable [DecidableEq Hex] {env : MonitorEnv Hex} {currency : String}
  {block : Block} {txHexs : List Hex} {locals : BlockLoop Hex}

/-- A callback for a watch of the table that has its confirmations once the
loop has been over it, with its event and what it has found. -/
def Announces
    (env : MonitorEnv Hex)
    (currency : String)
    (block : Block)
    (txHexs : List Hex)
    (view : CoinView Hex)
    (fired : Fired Hex) : Prop :=
  ∃ watch visited code, view.watching.get? fired.id = some watch ∧
    visited = watch.visited env currency view.inputs block txHexs fired.id ∧
    visited.event = some fired.event ∧
    visited.foundTxHex = fired.txHex ∧
    visited.confirmations = fired.confirmations ∧
    env.confirmations ≤ fired.confirmations ∧
    watch.callback.get fired.event = some code

omit [DecidableEq Hex] in
theorem announce_fired :
    (view.announce env answers watchId locals).state.fired = view.fired ∨
      ∃ watch event code, view.watching.get? watchId = some watch ∧
        env.confirmations ≤ watch.confirmations ∧
        watch.event = some event ∧
        watch.callback.get event = some code ∧
        (view.announce env answers watchId locals).state.fired =
          view.fired ++
            [⟨watchId, event, watch.foundTxHex, watch.confirmations⟩] := by
  unfold announce
  cases found : Except.ofOption PyError.keyError
      (view.watching.get? watchId) with
  | error error => exact .inl rfl
  | ok watch =>
      rw [Except.ofOption_eq_ok_iff] at found
      rw [Outcome.attempt_ok]
      by_cases reached : env.confirmations ≤ watch.confirmations
      · rw [if_pos reached]
        cases isEvent : watch.event with
        | none => exact .inl rfl
        | some event =>
            rw [Except.ofOption, Outcome.attempt_ok]
            dsimp only
            cases isCode : watch.callback.get event with
            | none => exact .inl rfl
            | some code =>
                refine .inr ⟨watch, event, code, found, reached, isEvent,
                  isCode, ?_⟩
                have ran := @doCallback_fired _ view answers code
                  ⟨watchId, event, watch.foundTxHex, watch.confirmations⟩
                exact Outcome.bind_state (motive := fun after : CoinView Hex =>
                  after.fired = _) ran fun _ _ => ran
      · rw [if_neg reached]
        exact .inl rfl

/-- One pass of the loop runs the callback of its watch, or none. -/
theorem visitWatch_fired
    {ids : List WatchId}
    {start : CoinView Hex}
    (visited : Visited env currency block txHexs ids start view)
    (new : watchId ∉ ids) :
    (view.visitWatch env currency block txHexs answers watchId
        locals).state.fired = view.fired ∨
      ∃ fired, fired.id = watchId ∧
        Announces env currency block txHexs start fired ∧
        (view.visitWatch env currency block txHexs answers watchId
          locals).state.fired = view.fired ++ [fired] := by
  unfold visitWatch
  cases looked : (view.lookFor env currency block txHexs watchId
      locals).result with
  | error error =>
      left
      rw [Outcome.bind, looked, Outcome.raise_state, lookFor_of_error looked]
  | ok between =>
      rw [Outcome.bind_of_ok looked]
      obtain ⟨watch, found⟩ :
          ∃ watch, view.watching.get? watchId = some watch := by
        unfold lookFor at looked
        rw [Outcome.attempt_result_eq_ok_iff] at looked
        obtain ⟨watch, found, _⟩ := looked
        exact ⟨watch, (Except.ofOption_eq_ok_iff _ _ _).mp found⟩
      obtain ⟨put, _, _, same, _⟩ := lookFor_spec found looked
      have found_start : start.watching.get? watchId = some watch :=
        (visited.get?_of_notMem new).symm.trans found
      rw [visited.same.inputs] at put
      rcases @announce_fired _ (view.lookFor env currency block txHexs watchId
          locals).state answers watchId env between with
        nothing | ⟨announced, event, code, stored, reached, isEvent, isCode,
          fires⟩
      · exact .inl (nothing.trans same)
      · right
        have announced_eq : announced = watch.visited env currency
            start.inputs block txHexs watchId := by
          rw [put, Dict.get?_set_same, Option.some.injEq] at stored
          exact stored.symm
        refine ⟨_, rfl, ⟨watch, announced, code, found_start, announced_eq,
          isEvent, rfl, rfl, reached, ?_⟩, fires.trans (by rw [same])⟩
        rw [announced_eq, Watch.visited_callback] at isCode
        exact isCode

/-- The loop over the watches runs callbacks of different watches, in their
order. -/
theorem visitWatches_fired
    {done ids : List WatchId}
    {start : CoinView Hex}
    (visited : Visited env currency block txHexs done start view)
    (distinct : (done ++ ids).Nodup) :
    ∃ fired, (visitWatches env currency block txHexs answers ids view
        locals).state.fired = view.fired ++ fired ∧
      (fired.map Fired.id).Sublist ids ∧
      ∀ callback ∈ fired, Announces env currency block txHexs start
        callback := by
  induction ids generalizing done view locals with
  | nil =>
      exact ⟨[], (List.append_nil _).symm, List.Sublist.refl _,
        fun _ mem => absurd mem List.not_mem_nil⟩
  | cons watchId ids inductionHypothesis =>
      have new : watchId ∉ done := by
        intro mem
        rw [List.nodup_append] at distinct
        exact distinct.2.2 watchId mem watchId List.mem_cons_self rfl
      obtain ⟨once, isOnce, below, announced⟩ : ∃ once,
          (view.visitWatch env currency block txHexs answers watchId
            locals).state.fired = view.fired ++ once ∧
          (once.map Fired.id).Sublist [watchId] ∧
          ∀ callback ∈ once, Announces env currency block txHexs start
            callback := by
        rcases @visitWatch_fired _ view answers watchId _ env currency block
            txHexs locals _ _ visited new with
          nothing | ⟨fired, isWatch, announces, fires⟩
        · exact ⟨[], nothing.trans (List.append_nil _).symm,
            List.nil_sublist _, fun _ mem => absurd mem List.not_mem_nil⟩
        · refine ⟨[fired], fires, ?_, ?_⟩
          · rw [List.map_singleton, isWatch]
          · intro callback mem
            rw [List.mem_singleton] at mem
            exact mem ▸ announces
      rw [visitWatches]
      cases returned : (view.visitWatch env currency block txHexs answers
          watchId locals).result with
      | error error =>
          rw [Outcome.bind, returned, Outcome.raise_state]
          exact ⟨once, isOnce, below.trans (by simp), announced⟩
      | ok between =>
          rw [Outcome.bind_of_ok returned]
          have visitedOnce := (visitWatch_spec visited new returned).1
          have split : done ++ watchId :: ids = done ++ [watchId] ++ ids := by
            rw [List.append_assoc, List.singleton_append]
          rw [split] at distinct
          obtain ⟨later, isLater, belowLater, announcedLater⟩ :=
            @inductionHypothesis _ between _ visitedOnce distinct
          refine ⟨once ++ later, ?_, ?_, ?_⟩
          · rw [isLater, isOnce, List.append_assoc]
          · rw [List.map_append]
            exact below.append belowLater
          · intro callback mem
            rcases List.mem_append.mp mem with mem | mem
            · exact announced callback mem
            · exact announcedLater callback mem

omit [DecidableEq Hex] in
theorem removeOldWatches_fired (ids : List WatchId) :
    (removeOldWatches ids view).state.fired = view.fired := by
  induction ids generalizing view with
  | nil => rfl
  | cons id ids inductionHypothesis =>
      have removed : ((view.removeWatch id).bind
          fun view _ => removeOldWatches ids view).state.fired =
            view.fired := by
        have once := @removeWatch_fired _ view id
        apply Outcome.bind_state (motive := fun after : CoinView Hex =>
          after.fired = view.fired) once
        intro _ _
        exact inductionHypothesis.trans once
      rw [removeOldWatches]
      apply Outcome.attempt_state (motive := fun after : CoinView Hex =>
        after.fired = view.fired) rfl
      intro watch _
      split
      · exact removed
      · exact removed
      · exact inductionHypothesis

omit [DecidableEq Hex] in
theorem actOn_fired
    (doubleSpends : List (DoubleSpend Hex)) :
    (doubleSpends.foldl (actOn block) view).fired = view.fired := by
  induction doubleSpends generalizing view with
  | nil => rfl
  | cons doubleSpend doubleSpends inductionHypothesis =>
      rw [List.foldl_cons, inductionHypothesis]
      unfold actOn
      split <;> rfl

/-- A block runs callbacks of different watches, in their order. -/
theorem processBlock_fired
    {tx : Option CTransaction}
    (distinct : view.watching.keys.Nodup) :
    ∃ fired, (view.processBlock env currency block txHexs answers
        tx).state.fired = view.fired ++ fired ∧
      (fired.map Fired.id).Sublist view.watching.keys ∧
      ∀ callback ∈ fired, Announces env currency block txHexs view
        callback := by
  have start : Visited env currency block txHexs [] view view := .refl view
  obtain ⟨fired, isFired, below, announced⟩ :=
    @visitWatches_fired _ view answers _ env currency block txHexs ⟨[], [], tx⟩
      [] view.watching.keys view start distinct
  refine ⟨fired, ?_, below, announced⟩
  rw [← isFired]
  rcases @processBlock_cases _ _ env currency block txHexs answers view distinct
    tx with ⟨_, error, _, _, raised, _⟩ | ⟨after, last, isAfter, _, returns, _⟩
  · unfold processBlock
    rw [Outcome.bind, raised, Outcome.raise_state]
  · rw [returns]
    have same : (removeOldWatches
        (view.watching.keys.filter (growsOld env currency block txHexs view))
        ((blamed env currency block txHexs view).foldl (actOn block)
          after)).state.fired =
        (visitWatches env currency block txHexs answers view.watching.keys view
          ⟨[], [], tx⟩).state.fired := by
      rw [removeOldWatches_fired, actOn_fired, isAfter]
    exact Outcome.bind_state (motive := fun after : CoinView Hex =>
      after.fired = _) same fun _ _ => same

/-! ## Arrivals -/

/-- The callback of the arrival of a transaction a watch waits for. -/
def Arrives
    (env : MonitorEnv Hex)
    (txHexs : List Hex)
    (view : CoinView Hex)
    (fired : Fired Hex) : Prop :=
  ∃ watch value txHex code, view.watching.get? fired.id = some watch ∧
    watch.needle = .txHex value ∧
    txHex ∈ txHexs ∧
    (needleEvent env value txHex).isSome = true ∧
    watch.callback.arrival = some code ∧
    fired = ⟨fired.id, .arrival, some txHex, watch.confirmations⟩

omit [DecidableEq Hex] in
/-- An arrival runs the callback of its watch, or none, and touches no other
watch. -/
theorem arrive_spec
    (watch : Watch Hex)
    (txHex : Hex) :
    (∀ other, other ≠ watchId →
      (view.arrive answers watchId watch txHex).state.watching.get? other =
        view.watching.get? other) ∧
      ((view.arrive answers watchId watch txHex).state.fired = view.fired ∨
        ∃ code, watch.callback.arrival = some code ∧
          (view.arrive answers watchId watch txHex).state.fired =
            view.fired ++
              [⟨watchId, .arrival, some txHex, watch.confirmations⟩]) := by
  unfold arrive
  cases isCode : watch.callback.arrival with
  | none => exact ⟨fun _ _ => rfl, .inl rfl⟩
  | some code =>
      have ran := @runCallback_fired _ view answers code
        ⟨watchId, .arrival, some txHex, watch.confirmations⟩
      have same := @runCallback_watching _ view answers (some code)
        ⟨watchId, .arrival, some txHex, watch.confirmations⟩
      dsimp only
      generalize view.runCallback answers (some code)
        ⟨watchId, .arrival, some txHex, watch.confirmations⟩ = done
        at ran same ⊢
      constructor
      · intro other different
        apply Outcome.bind_state (motive := fun after : CoinView Hex =>
          after.watching.get? other = view.watching.get? other)
        · rw [same]
        intro _ _
        have put : (done.state.putWatch watchId { watch with
            callback := { watch.callback with
              arrival := none } }).watching.get? other =
            view.watching.get? other := by
          change (done.state.watching.set _ _).get? other = _
          rw [Dict.get?_set, if_neg different, same]
        split
        · rcases @removeWatch_watching _ _ watchId with kept | erased
          · rw [kept, put]
          · rw [erased, Dict.get?_erase, if_neg different, put]
        · exact put
      · refine .inr ⟨code, rfl, ?_⟩
        apply Outcome.bind_state (motive := fun after : CoinView Hex =>
          after.fired = _) ran
        intro _ _
        split
        · rw [removeWatch_fired]
          exact ran
        · exact ran

/-- The memory pool runs the callback of a watch, or none, and touches no other
watch. -/
theorem visitPool_spec
    {tx : Option CTransaction}
    {watch : Watch Hex}
    (pool : List Hex) :
    (∀ other, other ≠ watchId →
      (visitPool env currency tx answers watchId watch pool
          view).state.watching.get? other = view.watching.get? other) ∧
      ((visitPool env currency tx answers watchId watch pool
          view).state.fired = view.fired ∨
        ∃ value txHex code, watch.needle = .txHex value ∧ txHex ∈ pool ∧
          (needleEvent env value txHex).isSome = true ∧
          watch.callback.arrival = some code ∧
          (visitPool env currency tx answers watchId watch pool
            view).state.fired = view.fired ++
              [⟨watchId, .arrival, some txHex, watch.confirmations⟩]) := by
  induction pool with
  | nil => exact ⟨fun _ _ => rfl, .inl rfl⟩
  | cons txHex pool inductionHypothesis =>
      rw [visitPool]
      cases arrived : hasArrived env currency tx watch txHex with
      | error error => exact ⟨fun _ _ => rfl, .inl rfl⟩
      | ok here =>
          rw [Outcome.attempt_ok]
          cases here with
          | false =>
              refine ⟨inductionHypothesis.1, ?_⟩
              rcases inductionHypothesis.2 with nothing | ⟨value, other, code,
                needle, mem, rest⟩
              · exact .inl nothing
              · exact .inr ⟨value, other, code, needle,
                  List.mem_cons_of_mem _ mem, rest⟩
          | true =>
              obtain ⟨frame, fires⟩ :=
                @arrive_spec _ view answers watchId watch txHex
              refine ⟨frame, ?_⟩
              rcases fires with nothing | ⟨code, isCode, fires⟩
              · exact .inl nothing
              unfold hasArrived at arrived
              split at arrived
              next value needle =>
                exact .inr ⟨value, txHex, code, needle, List.mem_cons_self,
                  Except.ok.inj arrived, isCode, fires⟩
              · simp only [Except.bind_eq_ok_iff] at arrived
                obtain ⟨_, _, _, _, _, _, impossible⟩ := arrived
                cases impossible
              · cases arrived

/-- The memory pool runs callbacks of different watches, in their order. -/
theorem visitPools_fired
    {tx : Option CTransaction}
    {start : CoinView Hex}
    {ids : List WatchId}
    (distinct : ids.Nodup)
    (same : ∀ id ∈ ids, view.watching.get? id = start.watching.get? id) :
    ∃ fired, (visitPools env currency tx answers txHexs ids
        view).state.fired = view.fired ++ fired ∧
      (fired.map Fired.id).Sublist ids ∧
      ∀ callback ∈ fired, Arrives env txHexs start callback := by
  induction ids generalizing view with
  | nil =>
      exact ⟨[], (List.append_nil _).symm, List.Sublist.refl _,
        fun _ mem => absurd mem List.not_mem_nil⟩
  | cons id ids inductionHypothesis =>
      rw [visitPools]
      cases found : Except.ofOption PyError.keyError
          (view.watching.get? id) with
      | error error =>
          exact ⟨[], (List.append_nil _).symm, List.nil_sublist _,
            fun _ mem => absurd mem List.not_mem_nil⟩
      | ok watch =>
      rw [Except.ofOption_eq_ok_iff] at found
      rw [Outcome.attempt_ok]
      have stored : start.watching.get? id = some watch :=
        (same id List.mem_cons_self).symm.trans found
      obtain ⟨frame, fires⟩ := @visitPool_spec _ view answers id _ env currency
        tx watch txHexs
      obtain ⟨once, isOnce, below, arrives⟩ : ∃ once,
          (visitPool env currency tx answers id watch txHexs
            view).state.fired = view.fired ++ once ∧
          (once.map Fired.id).Sublist [id] ∧
          ∀ callback ∈ once, Arrives env txHexs start callback := by
        rcases fires with nothing | ⟨value, txHex, code, needle, mem, isEvent,
          isCode, fires⟩
        · exact ⟨[], nothing.trans (List.append_nil _).symm,
            List.nil_sublist _, fun _ mem => absurd mem List.not_mem_nil⟩
        · refine ⟨_, fires, List.Sublist.refl _, ?_⟩
          intro callback isCallback
          rw [List.mem_singleton] at isCallback
          subst isCallback
          exact ⟨watch, value, txHex, code, stored, needle, mem, isEvent,
            isCode, rfl⟩
      cases returned : (visitPool env currency tx answers id watch txHexs
          view).result with
      | error error =>
          rw [Outcome.bind, returned, Outcome.raise_state]
          exact ⟨once, isOnce, below.trans (by simp), arrives⟩
      | ok _ =>
          rw [Outcome.bind_of_ok returned]
          obtain ⟨new, distinctLater⟩ := List.nodup_cons.mp distinct
          have sameLater : ∀ other ∈ ids,
              (visitPool env currency tx answers id watch txHexs
                view).state.watching.get? other =
              start.watching.get? other := by
            intro other mem
            have different : other ≠ id := fun equal => new (equal ▸ mem)
            exact (frame other different).trans
              (same other (List.mem_cons_of_mem _ mem))
          obtain ⟨later, isLater, belowLater, arrivesLater⟩ :=
            inductionHypothesis distinctLater sameLater
          refine ⟨once ++ later, ?_, ?_, ?_⟩
          · rw [isLater, isOnce, List.append_assoc]
          · rw [List.map_append]
            exact below.append belowLater
          · intro callback mem
            rcases List.mem_append.mp mem with mem | mem
            · exact arrives callback mem
            · exact arrivesLater callback mem

/-! ## Adding -/

/-- The daemon gives the transaction as many confirmations as a watch waits
for. -/
def AddAnswers.Confirmed
    (env : MonitorEnv Hex)
    (answers : AddAnswers Hex) : Prop :=
  ∃ ret count, answers.lookup = some (.ok ret) ∧
    ret.confirmations = some count ∧ (env.confirmations : Int) ≤ count

omit [DecidableEq Hex] in
/-- A watch starts with an event only if its transaction is confirmed. -/
theorem Built.event
    {args : WatchArgs Hex}
    {answers : AddAnswers Hex}
    {watch : Watch Hex}
    {event : WatchEvent}
    (built : Built env currency args answers watch)
    (present : watch.event = some event) :
    event = .confirm ∧ AddAnswers.Confirmed env answers := by
  obtain ⟨needle, tx, confirmed, _, checked, rfl⟩ := built
  change confirmed.event = some event at present
  unfold checkConfirmed at checked
  split at checked
  next value lookup isLookup _ =>
    cases lookup with
    | error error =>
        cases error
        case jsonRpcException =>
          cases checked
          cases present
        all_goals cases checked
    | ok ret =>
        dsimp only at checked
        cases isCount : ret.confirmations with
        | none =>
            rw [isCount] at checked
            cases checked
            cases present
        | some count =>
            rw [isCount] at checked
            dsimp only at checked
            split at checked
            · cases checked
              cases present
            next enough =>
              refine ⟨?_, ret, count, isLookup, isCount,
                not_lt.mp fun less => enough (.inl less)⟩
              cases isHeight : answers.height with
              | ok height =>
                  rw [isHeight] at checked
                  cases checked
                  cases present
                  rfl
              | error error =>
                  rw [isHeight] at checked
                  cases error
                  case jsonRpcException =>
                    cases checked
                    cases present
                    rfl
                  all_goals cases checked
  · cases checked
    cases present

/-- The callback of a watch that is added for a confirmed transaction. -/
def Starts
    (env : MonitorEnv Hex)
    (currency : String)
    (args : WatchArgs Hex)
    (answers : AddAnswers Hex)
    (fired : Fired Hex) : Prop :=
  ∃ watch value, Built env currency args answers watch ∧
    watch.needle = .txHex value ∧
    watch.event = some .confirm ∧
    AddAnswers.Confirmed env answers ∧
    fired = ⟨watch.id, .confirm, some value, watch.confirmations⟩

omit [DecidableEq Hex] in
theorem storeInputs_fired (prevouts : List COutPoint) :
    (storeInputs prevouts view).state.fired = view.fired := by
  induction prevouts generalizing view with
  | nil => rfl
  | cons prevout prevouts inductionHypothesis =>
      have once : (view.storeInput prevout).state.fired = view.fired := by
        unfold storeInput
        split
        · split <;> rfl
        · rfl
      rw [storeInputs]
      apply Outcome.bind_state (motive := fun after : CoinView Hex =>
        after.fired = view.fired) once
      intro _ _
      exact inductionHypothesis.trans once

omit [DecidableEq Hex] in
/-- Adding a watch runs its callback, or none. -/
theorem addWatch_fired
    (args : WatchArgs Hex)
    (answers : AddAnswers Hex) :
    (view.addWatch env currency args answers).state.fired = view.fired ∨
      ∃ fired, Starts env currency args answers fired ∧
        (view.addWatch env currency args answers).state.fired =
          view.fired ++ [fired] := by
  unfold addWatch
  cases Except.raiseIf (currency ∉ env.coins) PyError.keyError with
  | error error => exact .inl rfl
  | ok _ =>
  rw [Outcome.attempt_ok]
  cases processed : processNeedle env currency answers args.needle with
  | error error => exact .inl rfl
  | ok pair =>
  obtain ⟨needle, tx⟩ := pair
  rw [Outcome.attempt_ok]
  dsimp only
  cases checked : checkConfirmed env answers args needle with
  | error error => exact .inl rfl
  | ok confirmed =>
  rw [Outcome.attempt_ok]
  have built : Built env currency args answers
      (buildWatch args (args.watchId.getD answers.generatedId) needle tx
        confirmed) := ⟨needle, tx, confirmed, processed, checked, rfl⟩
  generalize buildWatch args (args.watchId.getD answers.generatedId) needle tx
    confirmed = watch at built ⊢
  unfold fileWatch
  dsimp only
  split
  next event value isEvent isNeedle =>
    obtain ⟨rfl, isConfirmed⟩ := Built.event built isEvent
    cases isCode : (args.callbacks.get? .confirm).join with
    | none => exact .inl rfl
    | some code =>
        right
        refine ⟨_, ⟨watch, value, built, isNeedle, isEvent, isConfirmed, rfl⟩,
          ?_⟩
        have ran := @doCallback_fired _ (view.putWatch watch.id watch)
          answers.callbacks code
          ⟨watch.id, .confirm, some value, watch.confirmations⟩
        exact Outcome.bind_state (motive := fun after : CoinView Hex =>
          after.fired = _) ran fun _ _ => ran
  · left
    unfold saveWatch
    apply Outcome.bind_state (motive := fun after : CoinView Hex =>
      after.fired = view.fired)
    · exact Outcome.attempt_state (motive := fun after : CoinView Hex =>
        after.fired = view.fired) rfl fun _ _ => rfl
    intro _ returned
    rw [Outcome.attempt_result_eq_ok_iff] at returned
    obtain ⟨_, stores, _⟩ := returned
    rw [stores, Outcome.attempt_ok]
    have stored := @storeInputs_fired _ { view.putWatch watch.id watch with
      watchesById := view.watchesById.set watch.id currency } watch.inputs
    apply Outcome.bind_state (motive := fun after : CoinView Hex =>
      after.fired = view.fired) stored
    intro _ _
    exact stored

omit [DecidableEq Hex] in
theorem processOrphan_fired (hash : BlockHash) :
    (view.processOrphan hash).state.fired = view.fired := by
  have unseen : ∀ (view : CoinView Hex) (watchId : WatchId),
      (view.removeSeen watchId).state.fired = view.fired := by
    intro view watchId
    unfold removeSeen
    apply Outcome.attempt_state (motive := fun after : CoinView Hex =>
      after.fired = view.fired) rfl
    intro watch _
    apply Outcome.attempt_state (motive := fun after : CoinView Hex =>
      after.fired = view.fired) rfl
    intro hash _
    exact Outcome.attempt_state (motive := fun after : CoinView Hex =>
      after.fired = view.fired) rfl fun _ _ => rfl
  have uncounted : ∀ (view : CoinView Hex) (watchId : WatchId),
      (view.orphanWatch watchId).state.fired = view.fired := by
    intro view watchId
    unfold orphanWatch
    apply Outcome.attempt_state (motive := fun after : CoinView Hex =>
      after.fired = view.fired) rfl
    intro watch _
    split
    · rfl
    split
    · exact unseen _ _
    · rfl
  have listed : ∀ (left index : Nat) (hash : BlockHash) (view : CoinView Hex),
      (orphanSeen hash left index view).state.fired = view.fired := by
    intro left
    induction left with
    | zero => exact fun _ _ _ => rfl
    | succ left inductionHypothesis =>
        intro index hash view
        unfold orphanSeen
        split
        · rfl
        next watchId _ =>
          apply Outcome.bind_state (motive := fun after : CoinView Hex =>
            after.fired = view.fired) (uncounted view watchId)
          intro _ _
          exact (inductionHypothesis _ _ _).trans (uncounted view watchId)
  have all : ∀ (hashes : List BlockHash) (view : CoinView Hex),
      (orphanBlocks hashes view).state.fired = view.fired := by
    intro hashes
    induction hashes with
    | nil => exact fun _ => rfl
    | cons hash hashes inductionHypothesis =>
        intro view
        rw [orphanBlocks]
        apply Outcome.attempt_state (motive := fun after : CoinView Hex =>
          after.fired = view.fired) rfl
        intro seen _
        have once := listed seen.length 0 hash view
        apply Outcome.bind_state (motive := fun after : CoinView Hex =>
          after.fired = view.fired) once
        intro _ _
        refine (inductionHypothesis _).trans ?_
        unfold dropEmpty
        split <;> exact once
  unfold processOrphan
  apply Outcome.bind_state (motive := fun after : CoinView Hex =>
    after.fired = view.fired) (all view.blocks.keys view)
  intro _ _
  refine Eq.trans ?_ (all view.blocks.keys view)
  change (clearProcessed _ hash).fired = _
  unfold clearProcessed
  split <;> rfl

end CoinView

/-! ## Actions -/

namespace TXMonitor

open CoinView

variable [DecidableEq Hex] {env : MonitorEnv Hex} {monitor : TXMonitor Hex}

/-- Why an action runs a callback. -/
def Justified
    (env : MonitorEnv Hex)
    (monitor : TXMonitor Hex)
    (action : MonitorAction Hex)
    (fired : Fired Hex) : Prop :=
  match action with
  | .add currency args answers => Starts env currency args answers fired
  | .block currency block txHexs _ _ =>
      Announces env currency block txHexs (monitor.view currency) fired
  | .arrivals currency txHexs _ _ =>
      Arrives env txHexs (monitor.view currency) fired
  | _ => False

/-- The callbacks of an action are of different watches, and each has its
reason. -/
theorem act_fired
    (distinct : monitor.Distinct)
    (action : MonitorAction Hex) :
    ∃ fired, (act env monitor action).fired = monitor.fired ++ fired ∧
      (fired.map Fired.id).Nodup ∧
      ∀ callback ∈ fired, Justified env monitor action callback := by
  have nothing : ∀ {after : List (Fired Hex)}, after = monitor.fired →
      ∃ fired, after = monitor.fired ++ fired ∧
        (fired.map Fired.id).Nodup ∧
        ∀ callback ∈ fired, Justified env monitor action callback := by
    rintro _ rfl
    exact ⟨[], (List.append_nil _).symm, List.nodup_nil,
      fun _ mem => absurd mem List.not_mem_nil⟩
  have finishes : ∀ {α : Type} {about : String}
      {operation : CoinView Hex → Outcome (CoinView Hex) PyError α}
      {next : α → ActionValue},
      (((monitor.onView about operation).bind fun monitor value =>
        Outcome.pure monitor (next value)).state.fired =
          (operation (monitor.view about)).state.fired) := by
    intro α about operation next
    exact Outcome.bind_state (motive := fun after : TXMonitor Hex =>
      after.fired = _) rfl fun _ _ => rfl
  cases action with
  | add currency args answers =>
      rcases @addWatch_fired _ (monitor.view currency) env currency args
          answers with same | ⟨fired, starts, fires⟩
      · exact nothing (finishes.trans same)
      · refine ⟨[fired], finishes.trans fires, List.nodup_singleton _, ?_⟩
        intro callback mem
        rw [List.mem_singleton] at mem
        exact mem ▸ starts
  | remove currency watchId =>
      exact nothing (finishes.trans (removeWatch_fired watchId))
  | started now => exact nothing rfl
  | latest currency block => exact nothing rfl
  | orphan currency hash =>
      exact nothing (finishes.trans (processOrphan_fired hash))
  | block currency block txHexs answers tx =>
      obtain ⟨fired, fires, below, announced⟩ := @processBlock_fired _
        (monitor.view currency) answers _ env currency block txHexs tx
        (distinct currency)
      exact ⟨fired, finishes.trans fires, (distinct currency).sublist below,
        announced⟩
  | arrivals currency txHexs answers tx =>
      obtain ⟨fired, fires, below, arrives⟩ := @visitPools_fired _
        (monitor.view currency) answers _ env currency txHexs tx
        (monitor.view currency) _ (distinct currency) fun _ _ => rfl
      exact ⟨fired, finishes.trans fires, (distinct currency).sublist below,
        arrives⟩
  | finished => exact nothing rfl

end TXMonitor
end Coinbend
