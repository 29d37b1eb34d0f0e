import Coinbend.Monitor.Blame
import Coinbend.Monitor.Findings
import Coinbend.Monitor.Orphans
import Coinbend.Monitor.Tables

/-!
# Fraud

A double spend is recorded for every watch that is scanned before its
transaction is found and acted on for the first of them, whichever input it
spends; and the block is noted for the last watch of the table, whoever is
blamed.  In the runs whose double spends are rightly blamed, and whose orphaned
blocks find every watch listed as it should be, a watch is defrauded by its own
inputs only, and a double spend changes no other watch.
-/

namespace Coinbend

open CoinView

variable {Hex : Type} [DecidableEq Hex]

/-- A transaction that is not equivalent to the needle of a watch spends an
input of the transaction of the watch. -/
def Watch.SpendsOwn
    (env : MonitorEnv Hex)
    (watch : Watch Hex)
    (txHex : Hex) : Prop :=
  match watch.needle, env.lib.deserialize txHex with
  | .txHex value, some spender =>
      (txHex ≠ value ∧ compareTransactions env.lib txHex value ≠ 1) ∧
        ∃ prevout ∈ Watch.outpoints spender, prevout ∈ watch.inputs
  | _, _ => False

instance
    (env : MonitorEnv Hex)
    (watch : Watch Hex)
    (txHex : Hex) : Decidable (watch.SpendsOwn env txHex) := by
  unfold Watch.SpendsOwn
  split <;> infer_instance

namespace TXMonitor

/-- The double spends of a block are rightly blamed, and an orphaned block
finds the watches rightly listed. -/
def FraudFits
    (env : MonitorEnv Hex)
    (monitor : TXMonitor Hex) : MonitorAction Hex → Prop
  | .block currency _ txHexs _ _ =>
      BlockFits env txHexs (monitor.view currency)
  | .orphan currency _ => OrphanFits (monitor.view currency)
  | _ => True

instance
    (env : MonitorEnv Hex)
    (monitor : TXMonitor Hex)
    (action : MonitorAction Hex) :
    Decidable (FraudFits env monitor action) := by
  unfold FraudFits
  split <;> infer_instance

variable {env : MonitorEnv Hex} {monitor : TXMonitor Hex} {currency : String}

/-- Whom a double spend is acted on for, it defrauds. -/
theorem spendsOwn_of_blamed
    {block : Block}
    {txHexs : List Hex}
    {doubleSpend : DoubleSpend Hex}
    {start : Watch Hex}
    (fits : BlockFits env txHexs (monitor.view currency))
    (scanned : Scanned env currency txHexs (monitor.view currency))
    (isBlamed : doubleSpend ∈
      blamed env currency block txHexs (monitor.view currency))
    (found : (monitor.coins currency).watching.get? doubleSpend.watchId =
      some start) :
    doubleSpend.txHex ∈ txHexs ∧
      ∀ watch : Watch Hex, watch.needle = start.needle →
        watch.tx = start.tx → watch.SpendsOwn env doubleSpend.txHex := by
  obtain ⟨stored, value, spender, isStored, _, isValue, mem, other, parsed,
    _⟩ := of_mem_suspicions (mem_of_mem_blame isBlamed)
  have same : stored = start := Option.some.inj (isStored.symm.trans found)
  obtain ⟨owner, isOwner, prevout, isSpent, own⟩ :=
    owns_of_blamed scanned fits isBlamed
  have sameOwner : owner = start := Option.some.inj (isOwner.symm.trans found)
  refine ⟨mem, ?_⟩
  intro watch needle tx
  have isNeedle : watch.needle = .txHex value :=
    needle.trans (same ▸ isValue)
  unfold Watch.SpendsOwn
  rw [isNeedle, parsed]
  refine ⟨needleEvent_eq_none_iff.mp other, prevout, ?_, ?_⟩
  · rw [spends, parsed] at isSpent
    exact (List.mem_filter.mp isSpent).1
  · rw [Watch.inputs_congr needle tx, ← sameOwner]
    exact own

/-- The fraud of a watch is the spending of its own inputs by a transaction of
the run. -/
def Cheated
    (env : MonitorEnv Hex)
    (actions : List (MonitorAction Hex))
    (currency : String)
    (watch : Watch Hex) : Prop :=
  watch.event = some .fraud →
    ∃ txHex hash, watch.foundTxHex = some txHex ∧
      InBlock actions currency hash txHex ∧ watch.SpendsOwn env txHex

theorem Cheated.congr
    {actions : List (MonitorAction Hex)}
    {watch other : Watch Hex}
    (cheated : Cheated env actions currency watch)
    (event : other.event = some .fraud → watch.event = some .fraud)
    (needle : other.needle = watch.needle)
    (tx : other.tx = watch.tx)
    (foundTxHex : other.foundTxHex = watch.foundTxHex) :
    Cheated env actions currency other := by
  intro isFraud
  obtain ⟨txHex, hash, isText, inBlock, own⟩ := cheated (event isFraud)
  refine ⟨txHex, hash, foundTxHex.trans isText, inBlock, ?_⟩
  unfold Watch.SpendsOwn at own ⊢
  rw [needle, Watch.inputs_congr needle tx]
  exact own

/-- The loop over the watches defrauds nobody. -/
theorem visited_fraud
    {inputs : Dict Txid (List Nat)}
    {block : Block}
    {txHexs : List Hex}
    {watchId : WatchId}
    {watch : Watch Hex}
    (isFraud : (watch.visited env currency inputs block txHexs watchId).event =
      some .fraud) :
    watch.event = some .fraud ∧
      (watch.visited env currency inputs block txHexs watchId).foundTxHex =
        watch.foundTxHex := by
  by_cases present : watch.event ≠ none
  · rw [Watch.visited_of_event env present] at isFraud ⊢
    exact ⟨isFraud, rfl⟩
  · have pending : watch.event = none := not_not.mp present
    cases something : watch.finds env currency inputs txHexs watchId with
    | none =>
        rw [Watch.visited_of_finds_none env pending something] at isFraud ⊢
        exact ⟨isFraud, rfl⟩
    | some pair =>
        obtain ⟨event, txHex⟩ := pair
        rw [Watch.visited_of_finds env pending something] at isFraud
        cases isFraud
        obtain ⟨_, value, _, isEvent⟩ := Watch.of_finds something
        rcases needleEvent_eq_some_iff.mp isEvent with ⟨_, no⟩ | ⟨_, _, no⟩
        · cases no
        · cases no

/-- Every change of a watch keeps its fraud its own. -/
theorem cheated_of_change
    {actions : List (MonitorAction Hex)}
    {action : MonitorAction Hex}
    {id : WatchId}
    {start old new : Watch Hex}
    (performed : action ∈ actions)
    (fits : FraudFits env monitor action)
    (found : (monitor.coins currency).watching.get? id = some start)
    (needle : old.needle = start.needle)
    (sameTx : old.tx = start.tx)
    (change : Change env monitor currency action id old new)
    (cheated : Cheated env actions currency old) :
    Cheated env actions currency new := by
  cases action with
  | orphan about hash =>
      obtain ⟨_, _, rfl⟩ := change
      refine cheated.congr ?_ rfl rfl rfl
      intro isFraud
      dsimp only at isFraud
      split at isFraud
      · cases isFraud
      · exact isFraud
  | block about block txHexs answers tx =>
      rcases change with ⟨rfl, ⟨_, rfl⟩ |
        ⟨scanned, doubleSpend, isBlamed, rfl, rfl⟩⟩
      · intro isFraud
        obtain ⟨wasFraud, sameText⟩ := visited_fraud isFraud
        exact cheated.congr (fun _ => wasFraud) (Watch.visited_needle env)
          (Watch.visited_tx env) sameText isFraud
      · intro _
        obtain ⟨mem, own⟩ := spendsOwn_of_blamed fits scanned isBlamed found
        exact ⟨doubleSpend.txHex, block.hash, rfl,
          ⟨block, txHexs, answers, _, performed, rfl, mem⟩,
          own _ needle sameTx⟩
  | arrivals about txHexs answers tx =>
      obtain ⟨_, rfl⟩ := change
      exact cheated.congr (fun isFraud => isFraud) rfl rfl rfl
  | _ => exact change.elim

/-! ## Other watches -/

/-- What an action may make of a watch.  A block whose transactions spend none
of the inputs of the watch makes of it what it makes of it by itself, unless it
raises before it comes to the watch; an orphaned block takes a confirmation from
it at most, and only if it is listed for the block it was found in. -/
def Undisturbed
    (env : MonitorEnv Hex)
    (monitor : TXMonitor Hex)
    (action : MonitorAction Hex)
    (currency : String)
    (id : WatchId)
    (old new : Watch Hex) : Prop :=
  match action with
  | .add about args answers =>
      new = old ∨ about = currency ∧ Built env currency args answers new
  | .block about block txHexs _ _ =>
      if about = currency then
        (∀ txHex ∈ txHexs, ¬old.SpendsOwn env txHex) →
          new = old.visited env currency (monitor.coins currency).inputs block
              txHexs id ∨
            new = old ∧
              ∃ error, (monitor.perform env action).result = .error error
      else new = old
  | .orphan about _ =>
      new = old ∨ about = currency ∧ Uncounted id old new ∧
        ∃ hash, old.block = some hash ∧ id ∈ (monitor.view currency).seen hash
  | .arrivals about _ _ _ => new = old ∨ about = currency ∧ Arrived id old new
  | _ => new = old

omit [DecidableEq Hex] in
/-- Where no change is possible, a watch that is still there is the same. -/
theorem TableSteps.eq_of_get?
    {change : WatchId → Watch Hex → Watch Hex → Prop}
    {first second : Dict WatchId (Watch Hex)}
    (steps : TableSteps change first second)
    (nothing : ∀ id old new, ¬change id old new)
    {id : WatchId}
    {old new : Watch Hex}
    (isOld : first.get? id = some old)
    (isNew : second.get? id = some new) :
    new = old := by
  obtain ⟨start, isStart, through⟩ := steps.comesFrom id new isNew
  rw [isOld, Option.some.injEq] at isStart
  subst isStart
  clear isNew
  cases through with
  | refl => rfl
  | tail _ change => exact absurd change (nothing id _ _)

omit [DecidableEq Hex] in
/-- Acting on double spends leaves the watches that are not blamed. -/
theorem actOn_get?_of_ne
    {doubleSpends : List (DoubleSpend Hex)}
    {block : Block}
    {view : CoinView Hex}
    {id : WatchId}
    (others : ∀ doubleSpend ∈ doubleSpends, doubleSpend.watchId ≠ id) :
    (doubleSpends.foldl (actOn block) view).watching.get? id =
      view.watching.get? id := by
  induction doubleSpends generalizing view with
  | nil => rfl
  | cons doubleSpend doubleSpends inductionHypothesis =>
      rw [List.foldl_cons, inductionHypothesis fun other mem =>
        others other (List.mem_cons_of_mem _ mem)]
      have different := others doubleSpend List.mem_cons_self
      cases found : view.watching.get? doubleSpend.watchId with
      | none => rw [actOn, found]
      | some watch =>
          rw [actOn_of_get? found]
          exact (Dict.get?_set _ _ _ _).trans (if_neg different.symm)

/-- A block makes of a watch whose inputs it does not spend what it makes of it
by itself. -/
theorem processBlock_undisturbed
    {block : Block}
    {txHexs : List Hex}
    {answers : CallbackAnswers}
    {tx : Option CTransaction}
    {id : WatchId}
    {old new : Watch Hex}
    (distinct : monitor.Distinct)
    (fits : BlockFits env txHexs (monitor.view currency))
    (isOld : (monitor.coins currency).watching.get? id = some old)
    (isNew : ((monitor.view currency).processBlock env currency block txHexs
      answers tx).state.watching.get? id = some new)
    (others : ∀ txHex ∈ txHexs, ¬old.SpendsOwn env txHex) :
    new = old.visited env currency (monitor.coins currency).inputs block
        txHexs id ∨
      new = old ∧ ∃ error, ((monitor.view currency).processBlock env currency
        block txHexs answers tx).result = .error error := by
  rcases @processBlock_cases _ _ env currency block txHexs answers
    (monitor.view currency) (distinct currency) tx with
    ⟨ids, error, _, visited, _, raised⟩ |
      ⟨after, last, _, visited, returns, scanned⟩
  · by_cases mem : id ∈ ids
    · have isVisited := visited.get?_of_mem mem isOld
      rw [isNew, Option.some.injEq] at isVisited
      exact Or.inl isVisited
    · have unvisited := visited.get?_of_notMem mem
      rw [isNew] at unvisited
      exact Or.inr ⟨Option.some.inj (unvisited.trans isOld), error, raised⟩
  · left
    have isVisited := visited.get?_of_mem (Dict.mem_keys_of_get? isOld) isOld
    have unblamed : ∀ doubleSpend ∈ blamed env currency block txHexs
        (monitor.view currency), doubleSpend.watchId ≠ id := by
      rintro doubleSpend isBlamed rfl
      obtain ⟨mem, own⟩ := spendsOwn_of_blamed fits scanned isBlamed isOld
      exact others _ mem (own old rfl rfl)
    have acted := @actOn_get?_of_ne _ _ block after id unblamed
    rw [isVisited] at acted
    rw [returns] at isNew
    have removed : TableSteps (fun _ _ _ => False)
        ((blamed env currency block txHexs (monitor.view currency)).foldl
          (actOn block) after).watching
        ((removeOldWatches ((monitor.view currency).watching.keys.filter
          (growsOld env currency block txHexs (monitor.view currency)))
          ((blamed env currency block txHexs (monitor.view currency)).foldl
            (actOn block) after)).bind fun view _ =>
          Outcome.pure (view.recordProcessed block.hash) last).state.watching :=
      Outcome.bind_state (motive := fun done : CoinView Hex =>
        TableSteps (fun _ _ _ => False) _ done.watching)
        (steps_removeOldWatches _) fun _ _ => steps_removeOldWatches _
    exact TableSteps.eq_of_get? removed (fun _ _ _ no => no) acted isNew

omit [DecidableEq Hex] in
/-- A watch loses the callback of its arrival once. -/
theorem arrived_of_steps
    {id : WatchId}
    {old new : Watch Hex}
    (through : Relation.ReflTransGen (Arrived id) old new) :
    new = old ∨ Arrived id old new := by
  induction through with
  | refl => exact Or.inl rfl
  | tail _ change inductionHypothesis =>
      rcases inductionHypothesis with rfl | arrived
      · exact Or.inr change
      · right
        unfold Arrived at arrived change ⊢
        rw [change, arrived]

theorem act_orphan (hash : BlockHash) :
    act env monitor (.orphan currency hash) =
      monitor.setView currency
        ((monitor.view currency).processOrphan hash).state :=
  Outcome.bind_state (motive := fun after : TXMonitor Hex => after = _) rfl
    fun _ _ => rfl

/-- Another coin's new watch leaves the tables of a coin. -/
theorem coins_act_add_of_ne
    {about : String}
    {args : WatchArgs Hex}
    {answers : AddAnswers Hex}
    (different : about ≠ currency) :
    (act env monitor (.add about args answers)).coins currency =
      monitor.coins currency := by
  have onView : (monitor.onView about fun view =>
      view.addWatch env about args answers).state.coins currency =
        monitor.coins currency := by
    change (monitor.setView about _).coins currency = _
    rw [coins_setView, if_neg (Ne.symm different)]
  exact Outcome.bind_state (motive := fun after : TXMonitor Hex =>
    after.coins currency = _) onView fun _ _ => onView

/-- No action disturbs a watch. -/
theorem act_undisturbed
    {action : MonitorAction Hex}
    {id : WatchId}
    {old new : Watch Hex}
    (distinct : monitor.Distinct)
    (fits : FraudFits env monitor action)
    (isOld : (monitor.coins currency).watching.get? id = some old)
    (isNew : ((act env monitor action).coins currency).watching.get? id =
      some new) :
    Undisturbed env monitor action currency id old new := by
  have elsewhere : (∀ args answers, action ≠ .add currency args answers) →
      (∀ id old new, ¬Change env monitor currency action id old new) →
      new = old := fun adds nothing =>
    TableSteps.eq_of_get? (act_steps distinct action currency adds) nothing
      isOld isNew
  cases action with
  | add about args answers =>
      by_cases same : about = currency
      · subst same
        rcases @act_added _ _ env monitor about args answers with
          kept | ⟨watch, isBuilt, stored⟩
        · refine Or.inl (Option.some.inj ?_)
          exact (isNew.symm.trans (congrArg (Dict.get? · id) kept)).trans isOld
        · have isStored := isNew.symm.trans (congrArg (Dict.get? · id) stored)
          rw [Dict.get?_set] at isStored
          split at isStored
          · exact Or.inr ⟨rfl, Option.some.inj isStored ▸ isBuilt⟩
          · exact Or.inl (Option.some.inj (isStored.trans isOld))
      · rw [coins_act_add_of_ne same, isOld] at isNew
        exact Or.inl (Option.some.inj isNew).symm
  | remove about watchId =>
      exact elsewhere (by simp) fun _ _ _ change => change.elim
  | started now =>
      exact elsewhere (by simp) fun _ _ _ change => change.elim
  | latest about block =>
      exact elsewhere (by simp) fun _ _ _ change => change.elim
  | orphan about hash =>
      by_cases same : about = currency
      · subst same
        rw [act_orphan, coins_setView, if_pos rfl] at isNew
        rcases processOrphan_once fits hash isOld isNew with kept | loses
        · exact Or.inl kept
        · exact Or.inr ⟨rfl, loses⟩
      · exact Or.inl (elsewhere (by simp) fun _ _ _ change =>
          same change.1)
  | block about block txHexs answers tx =>
      unfold Undisturbed
      dsimp only
      split
      next same =>
        subst same
        intro others
        rw [act_block, coins_setView, if_pos rfl] at isNew
        rcases processBlock_undisturbed distinct fits isOld isNew others with
          visited | ⟨kept, error, raised⟩
        · exact Or.inl visited
        · refine Or.inr ⟨kept, error, ?_⟩
          rw [perform, onView, Outcome.bind, raised]
          rfl
      next different =>
        exact elsewhere (by simp) fun _ _ _ change =>
          different change.1
  | arrivals about txHexs answers tx =>
      by_cases same : about = currency
      · obtain ⟨start, isStart, through⟩ := (@act_steps _ _ env _ distinct
          (.arrivals about txHexs answers tx) currency (by simp)).comesFrom id
          new isNew
        rw [isOld, Option.some.injEq] at isStart
        subst isStart
        rcases arrived_of_steps (Relation.ReflTransGen.mono
          (fun _ _ change => change.2) _ _ through) with kept | arrived
        · exact Or.inl kept
        · exact Or.inr ⟨same, arrived⟩
      · exact Or.inl (elsewhere (by simp) fun _ _ _ change =>
          same change.1)
  | finished =>
      exact elsewhere (by simp) fun _ _ _ change => change.elim

/-- What an action may do where fraud is concerned: the fraud callbacks it runs
are of watches whose own inputs were spent, and it leaves every watch
undisturbed. -/
def FraudIsOwn
    (env : MonitorEnv Hex)
    (monitor : TXMonitor Hex)
    (action : MonitorAction Hex) : Prop :=
  (∃ fired, (act env monitor action).fired = monitor.fired ++ fired ∧
    ∀ callback ∈ fired, callback.event = .fraud →
      ∃ currency watch txHex,
        (monitor.coins currency).watching.get? callback.id = some watch ∧
        watch.event = some .fraud ∧
        callback.txHex = some txHex ∧ watch.SpendsOwn env txHex) ∧
    ∀ currency id old new,
      (monitor.coins currency).watching.get? id = some old →
      ((act env monitor action).coins currency).watching.get? id = some new →
      Undisturbed env monitor action currency id old new

theorem fraudIsOwn_of_cheated
    {actions : List (MonitorAction Hex)}
    {action : MonitorAction Hex}
    (distinct : monitor.Distinct)
    (fits : FraudFits env monitor action)
    (cheated : Each (fun currency _ watch =>
      Cheated env actions currency watch) monitor) :
    FraudIsOwn env monitor action := by
  constructor
  · obtain ⟨fired, fires, _, justified⟩ :=
      @act_fired _ _ env monitor distinct action
    refine ⟨fired, fires, ?_⟩
    intro callback mem isFraud
    have reason := justified callback mem
    cases action with
    | add currency args answers =>
        obtain ⟨_, _, _, _, _, _, rfl⟩ := reason
        cases isFraud
    | block currency block txHexs answers tx =>
        obtain ⟨watch, visited, code, found, rfl, event, text, _⟩ := reason
        rw [isFraud] at event
        obtain ⟨wasFraud, sameText⟩ := visited_fraud event
        obtain ⟨txHex, _, isText, _, own⟩ :=
          cheated currency callback.id watch found wasFraud
        exact ⟨currency, watch, txHex, found, wasFraud,
          text.symm.trans (sameText.trans isText), own⟩
    | arrivals currency txHexs answers tx =>
        obtain ⟨_, _, _, _, _, _, _, _, _, same⟩ := reason
        rw [same] at isFraud
        cases isFraud
    | _ => exact reason.elim
  · exact fun _ _ _ _ => act_undisturbed distinct fits

end TXMonitor

/-! ## A sample -/

namespace Sample

/-- A monitor whose watches wait longer. -/
def patientEnv : MonitorEnv CTransaction :=
  { monitorEnv with confirmations := 3 }

/-- A transaction that spends the same output and pays another amount. -/
def doubleSpending (txid : Txid) : CTransaction :=
  { spending txid with vout := [⟨2000, .p2pkh [2]⟩] }

/-- Two watches, and a pass over a block that double spends the input of one
of them. -/
def doubleSpendCommands (txid : Txid) : List (MonitorCommand CTransaction) :=
  [.add "bitcoin" (watchArgs "first" (spending "a")) (addAnswers none),
    .add "bitcoin" (watchArgs "second" (spending "b")) (addAnswers none),
    .check 1 (List.replicate 8 (threeBlocks (doubleSpending txid)))]

end Sample

namespace TXMonitor

end TXMonitor
end Coinbend
