import Coinbend.Monitor.Runs
import Coinbend.Monitor.Visits
import Mathlib.Logic.Relation

/-!
# What the monitor can do to a watch

Every operation changes the watching table by replacing watches and removing
them.  The changes an operation can make to a watch are few: it counts a block,
finds a transaction, is blamed for a double spend, loses a confirmation or its
event, or loses the callback of its arrival.  What all of these keep holds of
every watch in every run.
-/

namespace Coinbend

variable {Hex : Type}

/-- The watches of one table come from those of another through changes of a
kind; some were removed. -/
structure TableSteps
    (change : WatchId → Watch Hex → Watch Hex → Prop)
    (first second : Dict WatchId (Watch Hex)) : Prop where
  comesFrom : ∀ id after, second.get? id = some after →
    ∃ before, first.get? id = some before ∧
      Relation.ReflTransGen (change id) before after
  nodup : first.keys.Nodup → second.keys.Nodup

namespace TableSteps

variable {change : WatchId → Watch Hex → Watch Hex → Prop}
  {first second third : Dict WatchId (Watch Hex)}

theorem refl (watching : Dict WatchId (Watch Hex)) :
    TableSteps change watching watching :=
  ⟨fun _ after found => ⟨after, found, .refl⟩, id⟩

theorem trans
    (one : TableSteps change first second)
    (two : TableSteps change second third) :
    TableSteps change first third := by
  refine ⟨?_, fun distinct => two.nodup (one.nodup distinct)⟩
  intro id after found
  obtain ⟨between, isBetween, later⟩ := two.comesFrom id after found
  obtain ⟨before, isBefore, earlier⟩ := one.comesFrom id between isBetween
  exact ⟨before, isBefore, earlier.trans later⟩

/-- Change one watch. -/
theorem put
    {id : WatchId}
    {old new : Watch Hex}
    (found : first.get? id = some old)
    (isChange : change id old new) :
    TableSteps change first (first.set id new) := by
  refine ⟨?_, fun distinct => Dict.nodup_keys_set distinct id new⟩
  intro other after stored
  rw [Dict.get?_set] at stored
  split at stored
  next same =>
    subst same
    cases stored
    exact ⟨old, found, .single isChange⟩
  · exact ⟨after, stored, .refl⟩

/-- Remove one watch. -/
theorem erase (watching : Dict WatchId (Watch Hex)) (id : WatchId) :
    TableSteps change watching (watching.erase id) := by
  refine ⟨?_, fun distinct => Dict.nodup_keys_erase distinct id⟩
  intro other after stored
  rw [Dict.get?_erase] at stored
  split at stored
  · cases stored
  · exact ⟨after, stored, .refl⟩

theorem mono
    {other : WatchId → Watch Hex → Watch Hex → Prop}
    (steps : TableSteps change first second)
    (implies : ∀ id old new, change id old new → other id old new) :
    TableSteps other first second := by
  refine ⟨?_, steps.nodup⟩
  intro id after found
  obtain ⟨before, isBefore, through⟩ := steps.comesFrom id after found
  exact ⟨before, isBefore,
    Relation.ReflTransGen.mono (implies id) _ _ through⟩

/-- What the changes keep holds of every watch. -/
theorem each
    {Property : WatchId → Watch Hex → Prop}
    (steps : TableSteps change first second)
    (keeps : ∀ id old new, change id old new → Property id old →
      Property id new)
    (before : ∀ id watch, first.get? id = some watch → Property id watch) :
    ∀ id watch, second.get? id = some watch → Property id watch := by
  intro id watch found
  obtain ⟨old, isOld, through⟩ := steps.comesFrom id watch found
  have start := before id old isOld
  clear found
  induction through with
  | refl => exact start
  | tail _ isChange inductionHypothesis =>
      exact keeps id _ _ isChange inductionHypothesis

end TableSteps

namespace CoinView

variable {view : CoinView Hex}
  {change : WatchId → Watch Hex → Watch Hex → Prop}

/-- What an operation does to the watching table. -/
def Steps
    (change : WatchId → Watch Hex → Watch Hex → Prop)
    (view after : CoinView Hex) : Prop :=
  TableSteps change view.watching after.watching

theorem Steps.refl (view : CoinView Hex) : Steps change view view :=
  TableSteps.refl _

theorem Steps.trans
    {first second third : CoinView Hex}
    (one : Steps change first second)
    (two : Steps change second third) :
    Steps change first third :=
  TableSteps.trans one two

/-- An operation after which the table is what it was. -/
theorem Steps.of_eq
    {after : CoinView Hex}
    (same : after.watching = view.watching) :
    Steps change view after := by
  unfold Steps
  rw [same]
  exact .refl _

/-! ## Removing -/

theorem removeInputs_watching (prevouts : List COutPoint) :
    (removeInputs prevouts view).state.watching = view.watching := by
  induction prevouts generalizing view with
  | nil => rfl
  | cons prevout prevouts inductionHypothesis =>
      have once : (view.removeInput prevout).state.watching =
          view.watching := by
        unfold removeInput
        split
        · rfl
        dsimp only
        split <;> rfl
      rw [removeInputs]
      apply Outcome.bind_state (motive := fun after : CoinView Hex =>
        after.watching = view.watching) once
      intro _ _
      exact inductionHypothesis.trans once

theorem removeSeen_watching (watchId : WatchId) :
    (view.removeSeen watchId).state.watching = view.watching := by
  unfold removeSeen
  apply Outcome.attempt_state (motive := fun after : CoinView Hex =>
    after.watching = view.watching) rfl
  intro watch _
  apply Outcome.attempt_state (motive := fun after : CoinView Hex =>
    after.watching = view.watching) rfl
  intro hash _
  exact Outcome.attempt_state (motive := fun after : CoinView Hex =>
    after.watching = view.watching) rfl fun _ _ => rfl

theorem removeWatch_watching (watchId : WatchId) :
    (view.removeWatch watchId).state.watching = view.watching ∨
      (view.removeWatch watchId).state.watching =
        view.watching.erase watchId := by
  have kept : ∀ {after : CoinView Hex}, after.watching = view.watching →
      after.watching = view.watching ∨
        after.watching = view.watching.erase watchId := Or.inl
  unfold removeWatch
  apply Outcome.attempt_state (motive := fun after : CoinView Hex =>
    after.watching = view.watching ∨
      after.watching = view.watching.erase watchId) (kept rfl)
  intro watch _
  apply Outcome.attempt_state (motive := fun after : CoinView Hex =>
    after.watching = view.watching ∨
      after.watching = view.watching.erase watchId) (kept rfl)
  intro _ _
  have inputs := @removeInputs_watching _
    { view with watchesById := view.watchesById.erase watchId } watch.inputs
  dsimp only
  generalize removeInputs watch.inputs
    { view with watchesById := view.watchesById.erase watchId } = removed
    at inputs ⊢
  apply Outcome.bind_state (motive := fun after : CoinView Hex =>
    after.watching = view.watching ∨
      after.watching = view.watching.erase watchId) (kept inputs)
  intro _ _
  have seen := @removeSeen_watching _ removed.state watchId
  generalize removed.state.removeSeen watchId = unseen at seen ⊢
  apply Outcome.bind_state (motive := fun after : CoinView Hex =>
    after.watching = view.watching ∨
      after.watching = view.watching.erase watchId) (kept (seen.trans inputs))
  intro _ _
  exact .inr (congrArg (Dict.erase · watchId) (seen.trans inputs))

/-- A watch whose removal returns is not in the table any more. -/
theorem removeWatch_watching_of_ok
    {watchId : WatchId}
    (returned : (view.removeWatch watchId).result = .ok ()) :
    (view.removeWatch watchId).state.watching =
      view.watching.erase watchId := by
  unfold removeWatch at returned ⊢
  rw [Outcome.attempt_result_eq_ok_iff] at returned
  obtain ⟨watch, found, returned⟩ := returned
  rw [Outcome.attempt_result_eq_ok_iff] at returned
  obtain ⟨_, known, returned⟩ := returned
  rw [found, known, Outcome.attempt_ok, Outcome.attempt_ok]
  dsimp only at returned ⊢
  rw [Outcome.bind_result_eq_ok_iff] at returned
  obtain ⟨_, inputs, returned⟩ := returned
  rw [Outcome.bind_result_eq_ok_iff] at returned
  obtain ⟨_, seen, _⟩ := returned
  rw [Outcome.bind_of_ok inputs, Outcome.bind_of_ok seen]
  exact congrArg (Dict.erase · watchId)
    ((removeSeen_watching watchId).trans (removeInputs_watching watch.inputs))

theorem steps_removeWatch (watchId : WatchId) :
    Steps change view (view.removeWatch watchId).state := by
  rcases @removeWatch_watching _ view watchId with kept | erased
  · exact Steps.of_eq kept
  · unfold Steps
    rw [erased]
    exact .erase _ watchId

/-! ## Orphans -/

/-- A watch loses a confirmation, and with its last one its event. -/
def Uncounted (_ : WatchId) (old new : Watch Hex) : Prop :=
  old.confirmations ≠ 0 ∧
    new = { old with
      confirmations := old.confirmations - 1
      event := if old.confirmations - 1 = 0 then none else old.event }

theorem steps_orphanWatch (watchId : WatchId) :
    Steps Uncounted view (view.orphanWatch watchId).state := by
  unfold orphanWatch
  apply Outcome.attempt_state (Steps.refl view)
  intro watch found
  rw [Except.ofOption_eq_ok_iff] at found
  split
  · exact Steps.refl view
  next counted =>
  split
  next last =>
    unfold Steps
    rw [removeSeen_watching]
    refine .put found ⟨counted, ?_⟩
    rw [if_pos last, last]
  next more =>
    refine .put found ⟨counted, ?_⟩
    rw [if_neg more]

theorem steps_orphanSeen (hash : BlockHash) (left index : Nat) :
    Steps Uncounted view (orphanSeen hash left index view).state := by
  induction left generalizing index view with
  | zero => exact Steps.refl view
  | succ left inductionHypothesis =>
      unfold orphanSeen
      split
      · exact Steps.refl view
      next watchId _ =>
        have once := @steps_orphanWatch _ view watchId
        apply Outcome.bind_state once
        intro _ _
        exact once.trans (inductionHypothesis (index + 1))

theorem steps_orphanBlocks (hashes : List BlockHash) :
    Steps Uncounted view (orphanBlocks hashes view).state := by
  induction hashes generalizing view with
  | nil => exact Steps.refl view
  | cons hash hashes inductionHypothesis =>
      rw [orphanBlocks]
      apply Outcome.attempt_state (Steps.refl view)
      intro seen _
      have once := @steps_orphanSeen _ view hash seen.length 0
      apply Outcome.bind_state once
      intro _ _
      have dropped : Steps Uncounted (orphanSeen hash seen.length 0 view).state
          ((orphanSeen hash seen.length 0 view).state.dropEmpty hash) := by
        unfold dropEmpty
        split <;> exact Steps.of_eq rfl
      exact (once.trans dropped).trans inductionHypothesis

theorem steps_processOrphan (hash : BlockHash) :
    Steps Uncounted view (view.processOrphan hash).state := by
  unfold processOrphan
  have blocks := @steps_orphanBlocks _ view view.blocks.keys
  apply Outcome.bind_state blocks
  intro _ _
  refine blocks.trans (Steps.of_eq ?_)
  change (clearProcessed _ hash).watching = _
  unfold clearProcessed
  split <;> rfl

/-! ## Arrivals -/

/-- A watch loses the callback of its arrival. -/
def Arrived (_ : WatchId) (old new : Watch Hex) : Prop :=
  new = { old with callback := { old.callback with arrival := none } }

theorem runCallback_watching
    (answers : CallbackAnswers)
    (code : Option Code)
    (fired : Fired Hex) :
    (view.runCallback answers code fired).state.watching = view.watching := by
  unfold runCallback
  split
  · rfl
  · exact Outcome.attempt_state (motive := fun after : CoinView Hex =>
      after.watching = view.watching) rfl fun _ _ => rfl

theorem steps_arrive
    {answers : CallbackAnswers}
    {watchId : WatchId}
    {watch : Watch Hex}
    {txHex : Hex}
    (found : view.watching.get? watchId = some watch) :
    Steps Arrived view (view.arrive answers watchId watch txHex).state := by
  unfold arrive
  split
  · exact Steps.refl view
  next code _ =>
    have ran := @runCallback_watching _ view answers (some code)
      ⟨watchId, .arrival, some txHex, watch.confirmations⟩
    generalize view.runCallback answers (some code)
      ⟨watchId, .arrival, some txHex, watch.confirmations⟩ = done at ran ⊢
    apply Outcome.bind_state (Steps.of_eq ran)
    intro _ _
    have put : Steps Arrived view (done.state.putWatch watchId { watch with
        callback := { watch.callback with arrival := none } }) := by
      change TableSteps _ _ (done.state.watching.set _ _)
      rw [ran]
      exact .put found rfl
    dsimp only
    split
    · exact put.trans (steps_removeWatch watchId)
    · exact put

variable [DecidableEq Hex] {env : MonitorEnv Hex} {currency : String}
  {block : Block} {txHexs : List Hex} {answers : CallbackAnswers}

theorem steps_visitPool
    {tx : Option CTransaction}
    {watchId : WatchId}
    {watch : Watch Hex}
    (found : view.watching.get? watchId = some watch) :
    Steps Arrived view
      (visitPool env currency tx answers watchId watch txHexs view).state := by
  induction txHexs with
  | nil => exact Steps.refl view
  | cons txHex txHexs inductionHypothesis =>
      rw [visitPool]
      apply Outcome.attempt_state (Steps.refl view)
      intro arrived _
      split
      · exact steps_arrive found
      · exact inductionHypothesis

theorem steps_visitPools (tx : Option CTransaction) (ids : List WatchId) :
    Steps Arrived view
      (visitPools env currency tx answers txHexs ids view).state := by
  induction ids generalizing view with
  | nil => exact Steps.refl view
  | cons id ids inductionHypothesis =>
      rw [visitPools]
      apply Outcome.attempt_state (Steps.refl view)
      intro watch found
      rw [Except.ofOption_eq_ok_iff] at found
      have once : Steps Arrived view
          (visitPool env currency tx answers id watch txHexs view).state :=
        steps_visitPool found
      apply Outcome.bind_state once
      intro _ _
      exact once.trans inductionHypothesis

/-! ## Blocks -/

/-- A watch is what the loop over the watches makes of it, or the loop has come
to its end and the watch is blamed for a double spend of the block. -/
def Blocked
    (env : MonitorEnv Hex)
    (currency : String)
    (block : Block)
    (txHexs : List Hex)
    (view : CoinView Hex)
    (id : WatchId)
    (old new : Watch Hex) : Prop :=
  (view.watching.get? id = some old ∧
      new = old.visited env currency view.inputs block txHexs id) ∨
    Scanned env currency txHexs view ∧
      ∃ doubleSpend ∈ blamed env currency block txHexs view,
        doubleSpend.watchId = id ∧
          new = old.defrauded block doubleSpend.txHex

omit [DecidableEq Hex] in
theorem steps_removeOldWatches (ids : List WatchId) :
    Steps change view (removeOldWatches ids view).state := by
  induction ids generalizing view with
  | nil => exact Steps.refl view
  | cons id ids inductionHypothesis =>
      have removed : Steps change view ((view.removeWatch id).bind
          fun view _ => removeOldWatches ids view).state := by
        have once : Steps change view (view.removeWatch id).state :=
          steps_removeWatch id
        apply Outcome.bind_state once
        intro _ _
        exact once.trans inductionHypothesis
      rw [removeOldWatches]
      apply Outcome.attempt_state (Steps.refl view)
      intro watch _
      split
      · exact removed
      · exact removed
      · exact inductionHypothesis

/-- The loop over the watches changes each of them as it does. -/
theorem Visited.steps
    {ids : List WatchId}
    {after : CoinView Hex}
    (visited : Visited env currency block txHexs ids view after) :
    Steps (Blocked env currency block txHexs view) view after := by
  refine ⟨?_, fun distinct => visited.keys ▸ distinct⟩
  intro id watch found
  rw [visited.watches] at found
  obtain ⟨before, isBefore, same⟩ := Option.map_eq_some_iff.mp found
  refine ⟨before, isBefore, ?_⟩
  split at same
  · exact .single (Or.inl ⟨isBefore, same.symm⟩)
  · exact same ▸ .refl

theorem steps_actOn
    {doubleSpends : List (DoubleSpend Hex)}
    {after : CoinView Hex}
    (scanned : Scanned env currency txHexs view)
    (blames : ∀ doubleSpend ∈ doubleSpends,
      doubleSpend ∈ blamed env currency block txHexs view) :
    Steps (Blocked env currency block txHexs view) after
      (doubleSpends.foldl (actOn block) after) := by
  induction doubleSpends generalizing after with
  | nil => exact Steps.refl after
  | cons doubleSpend doubleSpends inductionHypothesis =>
      have once : Steps (Blocked env currency block txHexs view) after
          (after.actOn block doubleSpend) := by
        cases found : after.watching.get? doubleSpend.watchId with
        | none =>
            rw [actOn, found]
            exact Steps.refl after
        | some watch =>
            rw [actOn_of_get? found]
            exact TableSteps.put found (Or.inr ⟨scanned, doubleSpend,
              blames doubleSpend List.mem_cons_self, rfl, rfl⟩)
      exact once.trans (inductionHypothesis fun other mem =>
        blames other (List.mem_cons_of_mem _ mem))

theorem steps_processBlock
    {tx : Option CTransaction}
    (distinct : view.watching.keys.Nodup) :
    Steps (Blocked env currency block txHexs view) view
      (view.processBlock env currency block txHexs answers tx).state := by
  rcases @processBlock_cases _ _ env currency block txHexs answers view distinct
    tx with ⟨ids, error, _, visited, _⟩ |
      ⟨after, last, _, visited, returns, scanned⟩
  · exact visited.steps
  rw [returns]
  have acted : Steps (Blocked env currency block txHexs view) view
      ((blamed env currency block txHexs view).foldl (actOn block) after) :=
    visited.steps.trans (steps_actOn scanned fun _ mem => mem)
  have removed := acted.trans (steps_removeOldWatches
    (view.watching.keys.filter (growsOld env currency block txHexs view)))
  apply Outcome.bind_state removed
  intro _ _
  exact removed

/-! ## Adding -/

omit [DecidableEq Hex] in
theorem storeInputs_watching (prevouts : List COutPoint) :
    (storeInputs prevouts view).state.watching = view.watching := by
  induction prevouts generalizing view with
  | nil => rfl
  | cons prevout prevouts inductionHypothesis =>
      have once : (view.storeInput prevout).state.watching =
          view.watching := by
        unfold storeInput
        split
        · split <;> rfl
        · rfl
      rw [storeInputs]
      apply Outcome.bind_state (motive := fun after : CoinView Hex =>
        after.watching = view.watching) once
      intro _ _
      exact inductionHypothesis.trans once

/-- The watch that `add_watch` builds. -/
def Built
    (env : MonitorEnv Hex)
    (currency : String)
    (args : WatchArgs Hex)
    (answers : AddAnswers Hex)
    (watch : Watch Hex) : Prop :=
  ∃ needle tx confirmed,
    processNeedle env currency answers args.needle = .ok (needle, tx) ∧
      checkConfirmed env answers args needle = .ok confirmed ∧
      watch = buildWatch args (args.watchId.getD answers.generatedId) needle
        tx confirmed

omit [DecidableEq Hex] in
theorem fileWatch_watching
    (args : WatchArgs Hex)
    (answers : AddAnswers Hex)
    (watch : Watch Hex) :
    (view.fileWatch currency args answers watch).state.watching =
      view.watching.set watch.id watch := by
  unfold fileWatch
  dsimp only
  split
  · have same := (doCallback_tables (view.putWatch watch.id watch)
      answers.callbacks (args.callbacks.get? ‹_›).join
      ⟨watch.id, ‹_›, some ‹_›, watch.confirmations⟩).tables
    have watching := congrArg CoinWatches.watching same
    apply Outcome.bind_state (motive := fun after : CoinView Hex =>
      after.watching = view.watching.set watch.id watch) watching
    intro _ _
    exact watching
  · unfold saveWatch
    apply Outcome.bind_state (motive := fun after : CoinView Hex =>
      after.watching = view.watching.set watch.id watch)
    · exact Outcome.attempt_state (motive := fun after : CoinView Hex =>
        after.watching = view.watching.set watch.id watch) rfl fun _ _ => rfl
    intro _ returned
    rw [Outcome.attempt_result_eq_ok_iff] at returned
    obtain ⟨_, stores, _⟩ := returned
    rw [stores, Outcome.attempt_ok]
    have stored := @storeInputs_watching _ { view.putWatch watch.id watch with
      watchesById := view.watchesById.set watch.id currency } watch.inputs
    apply Outcome.bind_state (motive := fun after : CoinView Hex =>
      after.watching = view.watching.set watch.id watch) stored
    intro _ _
    exact stored

/-- The watch `add_watch` builds is stored, or nothing is. -/
def Added
    (env : MonitorEnv Hex)
    (currency : String)
    (args : WatchArgs Hex)
    (answers : AddAnswers Hex)
    (view after : CoinView Hex) : Prop :=
  after.watching = view.watching ∨
    ∃ watch, Built env currency args answers watch ∧
      after.watching = view.watching.set watch.id watch

omit [DecidableEq Hex] in
theorem added_addWatch
    (args : WatchArgs Hex)
    (answers : AddAnswers Hex) :
    Added env currency args answers view
      (view.addWatch env currency args answers).state := by
  have nothing : Added env currency args answers view view := Or.inl rfl
  unfold addWatch
  apply Outcome.attempt_state nothing
  intro _ _
  apply Outcome.attempt_state nothing
  rintro ⟨needle, tx⟩ processed
  apply Outcome.attempt_state nothing
  intro confirmed checked
  exact Or.inr ⟨_, ⟨needle, tx, confirmed, processed, checked, rfl⟩,
    fileWatch_watching args answers _⟩

end CoinView

/-! ## Actions -/

namespace TXMonitor

open CoinView

variable [DecidableEq Hex] (env : MonitorEnv Hex)

/-- What an action can do to a watch of a currency. -/
def Change
    (monitor : TXMonitor Hex)
    (currency : String)
    (action : MonitorAction Hex)
    (id : WatchId)
    (old new : Watch Hex) : Prop :=
  match action with
  | .orphan about _ => about = currency ∧ Uncounted id old new
  | .block about block txHexs _ _ =>
      about = currency ∧
        Blocked env currency block txHexs (monitor.view currency) id old new
  | .arrivals about _ _ _ => about = currency ∧ Arrived id old new
  | _ => False

/-- The ids of the watches of every currency are distinct. -/
def Distinct (monitor : TXMonitor Hex) : Prop :=
  ∀ currency, (monitor.coins currency).watching.keys.Nodup

variable {env} {monitor : TXMonitor Hex}

omit [DecidableEq Hex] in
theorem coins_setView
    (about currency : String)
    (after : CoinView Hex) :
    (monitor.setView about after).coins currency =
      if currency = about then after.toCoinWatches
      else monitor.coins currency := by
  change Function.update monitor.coins about _ currency = _
  rw [Function.update_apply]

theorem act_block
    (currency : String)
    (block : Block)
    (txHexs : List Hex)
    (answers : CallbackAnswers)
    (tx : Option CTransaction) :
    act env monitor (.block currency block txHexs answers tx) =
      monitor.setView currency ((monitor.view currency).processBlock env
        currency block txHexs answers tx).state :=
  Outcome.bind_state (motive := fun after : TXMonitor Hex => after = _) rfl
    fun _ _ => rfl

omit [DecidableEq Hex] in
/-- What an operation on one currency does to the watches of each. -/
theorem steps_onView
    {α : Type}
    {change : WatchId → Watch Hex → Watch Hex → Prop}
    {about : String}
    {operation : CoinView Hex → Outcome (CoinView Hex) PyError α}
    (currency : String)
    (steps : about = currency → Steps change (monitor.view currency)
      (operation (monitor.view currency)).state) :
    TableSteps change (monitor.coins currency).watching
      ((monitor.onView about operation).state.coins currency).watching := by
  change TableSteps change _
    (Function.update monitor.coins about _ currency).watching
  rw [Function.update_apply]
  split
  next same =>
    subst same
    exact steps rfl
  · exact .refl _

/-- An action that adds nothing changes watches as it can. -/
theorem act_steps
    (distinct : monitor.Distinct)
    (action : MonitorAction Hex)
    (currency : String)
    (adds : ∀ args answers, action ≠ .add currency args answers) :
    TableSteps (Change env monitor currency action)
      (monitor.coins currency).watching
      ((act env monitor action).coins currency).watching := by
  have finishes : ∀ {α : Type} {about : String}
      {operation : CoinView Hex → Outcome (CoinView Hex) PyError α}
      {next : α → ActionValue},
      (about = currency → Steps (Change env monitor currency action)
        (monitor.view currency) (operation (monitor.view currency)).state) →
      TableSteps (Change env monitor currency action)
        (monitor.coins currency).watching
        (((monitor.onView about operation).bind fun monitor value =>
          Outcome.pure monitor (next value)).state.coins
            currency).watching := by
    intro α about operation next steps
    have onView := steps_onView currency steps
    exact Outcome.bind_state (motive := fun after : TXMonitor Hex =>
      TableSteps (Change env monitor currency action) _
        (after.coins currency).watching) onView fun _ _ => onView
  cases action with
  | add about args answers =>
      refine finishes ?_
      rintro rfl
      exact absurd rfl (adds args answers)
  | remove about watchId => exact finishes fun _ => steps_removeWatch watchId
  | started now => exact .refl _
  | latest about block => exact .refl _
  | orphan about hash =>
      refine finishes fun same => ?_
      exact TableSteps.mono (steps_processOrphan hash)
        fun _ _ _ change => ⟨same, change⟩
  | block about block txHexs answers tx =>
      refine finishes ?_
      rintro rfl
      exact TableSteps.mono (steps_processBlock (distinct about))
        fun _ _ _ change => ⟨rfl, change⟩
  | arrivals about txHexs answers tx =>
      refine finishes ?_
      rintro rfl
      exact TableSteps.mono (steps_visitPools tx _)
        fun _ _ _ change => ⟨rfl, change⟩
  | finished => exact .refl _

/-- What an action that adds a watch stores. -/
theorem act_added
    (currency : String)
    (args : WatchArgs Hex)
    (answers : AddAnswers Hex) :
    Added env currency args answers (monitor.view currency)
      ((act env monitor (.add currency args answers)).view currency) := by
  have added := @added_addWatch _ (monitor.view currency) env currency args
    answers
  have stored : Added env currency args answers (monitor.view currency)
      ((monitor.onView currency fun view =>
        view.addWatch env currency args answers).state.view currency) := by
    unfold Added at added ⊢
    change (Function.update monitor.coins currency _ currency).watching = _ ∨
      ∃ watch, _ ∧
        (Function.update monitor.coins currency _ currency).watching = _
    rw [Function.update_self]
    exact added
  exact Outcome.bind_state (motive := fun after : TXMonitor Hex =>
    Added env currency args answers (monitor.view currency)
      (after.view currency)) stored fun _ _ => stored

/-- No action but an addition changes what a watch looks for. -/
theorem Change.sameNeedle
    {currency : String}
    {action : MonitorAction Hex}
    {id : WatchId}
    {old new : Watch Hex}
    (change : Change env monitor currency action id old new) :
    new.needle = old.needle ∧ new.tx = old.tx := by
  cases action with
  | orphan about hash =>
      obtain ⟨_, _, rfl⟩ := change
      exact ⟨rfl, rfl⟩
  | block about block txHexs answers tx =>
      rcases change with ⟨_, ⟨_, rfl⟩ | ⟨_, doubleSpend, _, _, rfl⟩⟩
      · exact ⟨Watch.visited_needle env, Watch.visited_tx env⟩
      · exact ⟨rfl, rfl⟩
  | arrivals about txHexs answers tx =>
      obtain ⟨_, rfl⟩ := change
      exact ⟨rfl, rfl⟩
  | _ => exact change.elim

theorem act_distinct
    (distinct : monitor.Distinct)
    (action : MonitorAction Hex) :
    (act env monitor action).Distinct := by
  intro currency
  by_cases adds : ∃ args answers, action = .add currency args answers
  · obtain ⟨args, answers, rfl⟩ := adds
    rcases @act_added _ _ env monitor currency args answers with
      same | ⟨watch, _, stored⟩
    · exact (congrArg (fun dict => dict.keys.Nodup) same).mpr
        (distinct currency)
    · exact (congrArg (fun dict => dict.keys.Nodup) stored).mpr
        (Dict.nodup_keys_set (distinct currency) _ _)
  · exact (act_steps distinct action currency fun args answers same =>
      adds ⟨args, answers, same⟩).nodup (distinct currency)

/-- Every watch of every currency has a property. -/
def Each
    (Property : String → WatchId → Watch Hex → Prop)
    (monitor : TXMonitor Hex) : Prop :=
  ∀ currency id watch, (monitor.coins currency).watching.get? id = some watch →
    Property currency id watch

/-- What a new watch has and every change keeps, every watch has after an
action.  A change may be taken to start from the needle the watch had before
the action. -/
theorem act_each
    {Property : String → WatchId → Watch Hex → Prop}
    {action : MonitorAction Hex}
    (distinct : monitor.Distinct)
    (built : ∀ currency args answers watch,
      action = .add currency args answers →
      Built env currency args answers watch →
      Property currency watch.id watch)
    (keeps : ∀ currency id start old new,
      (monitor.coins currency).watching.get? id = some start →
      old.needle = start.needle → old.tx = start.tx →
      Change env monitor currency action id old new →
      Property currency id old → Property currency id new)
    (before : Each Property monitor) :
    Each Property (act env monitor action) := by
  intro currency id watch found
  by_cases adds : ∃ args answers, action = .add currency args answers
  · obtain ⟨args, answers, rfl⟩ := adds
    rcases @act_added _ _ env monitor currency args answers with
      same | ⟨added, isBuilt, stored⟩
    · exact before currency id watch (same ▸ found)
    · have afterwards : ((monitor.coins currency).watching.set added.id
          added).get? id = some watch := stored ▸ found
      rw [Dict.get?_set] at afterwards
      split at afterwards
      next same =>
        cases afterwards
        subst same
        exact built currency args answers watch rfl isBuilt
      · exact before currency id watch afterwards
  · have steps := @act_steps _ _ env _ distinct action currency
      fun args answers same => adds ⟨args, answers, same⟩
    obtain ⟨start, isStart, through⟩ := steps.comesFrom id watch found
    have kept : watch.needle = start.needle ∧ watch.tx = start.tx ∧
        Property currency id watch := by
      clear found
      induction through with
      | refl => exact ⟨rfl, rfl, before currency id start isStart⟩
      | tail _ change inductionHypothesis =>
          obtain ⟨needle, tx, holds⟩ := inductionHypothesis
          have same := Change.sameNeedle change
          exact ⟨same.1.trans needle, same.2.trans tx,
            keeps currency id start _ _ isStart needle tx change holds⟩
    exact kept.2.2

/-- The rule for runs: what a new watch has and every change keeps, every watch
has before and after every action of a run. -/
theorem each_run
    {condition : TXMonitor Hex → MonitorAction Hex → Prop}
    {Property : String → WatchId → Watch Hex → Prop}
    (built : ∀ monitor currency args answers watch,
      condition monitor (.add currency args answers) →
      Built env currency args answers watch →
      Property currency watch.id watch)
    (keeps : ∀ monitor action currency id start old new,
      condition monitor action →
      (monitor.coins currency).watching.get? id = some start →
      old.needle = start.needle → old.tx = start.tx →
      Change env monitor currency action id old new →
      Property currency id old → Property currency id new)
    {latestBlocks : Dict String Block}
    {now : Nat}
    {commands : List (MonitorCommand Hex)}
    (meet : ActionsMeet env condition (init latestBlocks now) commands) :
    Each Property
        (Machine.run (command env) (init latestBlocks now) commands) ∧
      ActionsMeet env
        (fun monitor action => condition monitor action ∧
          monitor.Distinct ∧ Each Property monitor)
        (init latestBlocks now) commands := by
  have initially : (init latestBlocks now : TXMonitor Hex).Distinct ∧
      Each Property (init latestBlocks now : TXMonitor Hex) := by
    refine ⟨fun _ => List.nodup_nil, ?_⟩
    intro currency id watch found
    exact absurd found nofun
  have step : ∀ (monitor : TXMonitor Hex) action,
      monitor.Distinct ∧ Each Property monitor → condition monitor action →
      (act env monitor action).Distinct ∧
        Each Property (act env monitor action) := by
    rintro monitor action ⟨distinct, each⟩ met
    refine ⟨act_distinct distinct action, act_each distinct ?_ ?_ each⟩
    · rintro currency args answers watch rfl isBuilt
      exact built monitor currency args answers watch met isBuilt
    · intro currency id start old new
      exact keeps monitor action currency id start old new met
  have steps := @actionsMeet_of_invariant _ _ env condition
    (fun monitor action => condition monitor action ∧
      monitor.Distinct ∧ Each Property monitor)
    (fun monitor => monitor.Distinct ∧ Each Property monitor)
    (fun monitor action holds met =>
      ⟨step monitor action holds met, met, holds⟩) _ _ initially meet
  exact ⟨(invariant_commands env step initially meet).2, steps⟩

end TXMonitor
end Coinbend
