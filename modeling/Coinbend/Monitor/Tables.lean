import Coinbend.Monitor.Consistency

/-!
# The tables over whole runs

The tables of all currencies stay consistent over every run of the monitor
whose actions are used where they can be, and no action of such a run raises a
missing-key error.
-/

namespace Coinbend

open CoinWatches CoinView

variable {Hex : Type}

/-- Whether an action adds a watch. -/
def MonitorAction.isAdd : MonitorAction Hex → Bool
  | .add .. => true
  | _ => false

namespace TXMonitor

/-- The tables of every currency are consistent. -/
structure Consistent (monitor : TXMonitor Hex) : Prop where
  ids : ∀ currency, IdsMatch currency monitor.watchesById
    (monitor.coins currency).watching
  index : ∀ currency, Indexed (monitor.coins currency).inputs
    (monitor.coins currency).watching
  lists : ∀ currency, Listed (monitor.coins currency).blocks
    (monitor.coins currency).watching

/-- An action is used where it can be. -/
def ActionFits
    [DecidableEq Hex]
    (env : MonitorEnv Hex)
    (monitor : TXMonitor Hex) : MonitorAction Hex → Prop
  | .add currency args answers =>
      AddFits env currency args answers (monitor.view currency)
  | .remove currency watchId =>
      ∃ watch, (monitor.coins currency).watching.get? watchId = some watch ∧
        watch.event ≠ none
  | .block currency block txHexs _ _ =>
      0 < env.confirmations ∧
        BlockReadable env currency txHexs (monitor.view currency) ∧
        BlamesLast env currency block txHexs (monitor.view currency)
  | .arrivals currency txHexs _ tx =>
      ArrivalsFit env currency tx txHexs (monitor.view currency)
  | _ => True

instance
    [DecidableEq Hex]
    (env : MonitorEnv Hex)
    (monitor : TXMonitor Hex)
    (action : MonitorAction Hex) :
    Decidable (ActionFits env monitor action) :=
  match action with
  | .add .. => inferInstanceAs (Decidable (AddFits _ _ _ _ _))
  | .remove currency watchId =>
      decidable_of_iff
        (∃ watch ∈ (monitor.coins currency).watching.get? watchId,
          watch.event ≠ none)
        Iff.rfl
  | .block .. => inferInstanceAs (Decidable (_ ∧ _ ∧ _))
  | .arrivals .. => inferInstanceAs (Decidable (ArrivalsFit _ _ _ _ _))
  | .started _ | .latest _ _ | .orphan _ _ | .finished => .isTrue trivial

variable {monitor : TXMonitor Hex} {currency : String}

theorem Consistent.view
    (consistent : monitor.Consistent)
    (currency : String) :
    (monitor.view currency).Consistent currency monitor.watchesById where
  ids := consistent.ids currency
  index := consistent.index currency
  lists := consistent.lists currency
  others := fun _ _ _ => Iff.rfl

/-- An operation on one currency that keeps its tables consistent keeps those
of the others. -/
theorem Consistent.setView
    {after : CoinView Hex}
    (consistent : monitor.Consistent)
    (kept : after.Consistent currency monitor.watchesById) :
    (monitor.setView currency after).Consistent := by
  have coins : ∀ other, (monitor.setView currency after).coins other =
      if other = currency then after.toCoinWatches
      else monitor.coins other := by
    intro other
    change Function.update monitor.coins currency _ other = _
    rw [Function.update_apply]
  refine ⟨?_, ?_, ?_⟩
  · intro other
    rw [coins]
    split
    next same =>
      subst same
      exact kept.ids
    next different =>
      refine ⟨(consistent.ids other).distinct, ?_⟩
      intro id
      exact (kept.others other id different).trans
        ((consistent.ids other).ids id)
  · intro other
    rw [coins]
    split
    · exact kept.index
    · exact consistent.index other
  · intro other
    rw [coins]
    split
    · exact kept.lists
    · exact consistent.lists other

theorem within_onView
    {α : Type}
    {change : CoinView Hex → Outcome (CoinView Hex) PyError α}
    (consistent : monitor.Consistent)
    (within : Outcome.Within
      (CoinView.Consistent currency monitor.watchesById) .keyError
      (change (monitor.view currency))) :
    Outcome.Within Consistent .keyError (monitor.onView currency change) :=
  ⟨consistent.setView within.1, within.2⟩

variable [DecidableEq Hex] {env : MonitorEnv Hex}

/-- What one action keeps. -/
theorem act_consistent
    (action : MonitorAction Hex)
    (consistent : monitor.Consistent)
    (fits : ActionFits env monitor action) :
    (act env monitor action).Consistent ∧
      (action.isAdd = false →
        (monitor.perform env action).result ≠ .error .keyError) := by
  have finishes : ∀ {α : Type} {done : Outcome (TXMonitor Hex) PyError α}
      {next : α → ActionValue},
      Outcome.Within Consistent .keyError done →
      Outcome.Within Consistent .keyError
        (done.bind fun monitor value => Outcome.pure monitor (next value)) := by
    intro α done next within
    refine Outcome.within_bind within (fun _ kept => kept) ?_
    exact fun _ _ kept => Outcome.within_pure _ kept
  have both : ∀ {done : Outcome (TXMonitor Hex) PyError ActionValue},
      Outcome.Within Consistent .keyError done →
      done.state.Consistent ∧
        (action.isAdd = false → done.result ≠ .error .keyError) :=
    fun within => ⟨within.1, fun _ => within.2⟩
  cases action with
  | add currency args answers =>
      refine ⟨?_, nofun⟩
      have kept : (monitor.onView currency fun view =>
          view.addWatch env currency args answers).state.Consistent :=
        consistent.setView
          (addWatch_consistent fits (consistent.view currency))
      exact Outcome.bind_state kept fun _ _ => kept
  | remove currency watchId =>
      obtain ⟨watch, found, present⟩ := fits
      obtain ⟨after, removed, kept, _⟩ :=
        removeWatch_spec (consistent.view currency) found present
      have within : Outcome.Within Consistent .keyError
          (monitor.onView currency fun view => view.removeWatch watchId) := by
        refine within_onView consistent ?_
        rw [removed]
        exact Outcome.within_pure () kept
      exact both (finishes within)
  | started now =>
      exact both (Outcome.within_pure _
        ⟨consistent.ids, consistent.index, consistent.lists⟩)
  | latest currency block =>
      exact both (Outcome.within_pure _
        ⟨consistent.ids, consistent.index, consistent.lists⟩)
  | orphan currency hash =>
      have within : Outcome.Within Consistent .keyError
          (monitor.onView currency fun view => view.processOrphan hash) :=
        within_onView consistent
          (within_processOrphan hash (consistent.view currency))
      exact both (finishes within)
  | block currency block txHexs answers tx =>
      obtain ⟨positive, readable, blames⟩ := fits
      have within : Outcome.Within Consistent .keyError
          (monitor.onView currency fun view =>
            view.processBlock env currency block txHexs answers tx) :=
        within_onView consistent
          (within_processBlock positive readable blames
            (consistent.view currency))
      exact both (finishes within)
  | arrivals currency txHexs answers tx =>
      have within : Outcome.Within Consistent .keyError
          (monitor.onView currency fun view =>
            visitPools env currency tx answers txHexs view.watching.keys
              view) :=
        within_onView consistent
          (within_visitPools fits (consistent.view currency).ids.distinct
            (consistent.view currency) fun id mem => ⟨mem, rfl⟩)
      exact both (finishes within)
  | finished =>
      exact both (Outcome.within_pure _
        ⟨consistent.ids, consistent.index, consistent.lists⟩)

omit [DecidableEq Hex] in
/-- The tables of a new monitor are empty. -/
theorem init_consistent
    (latestBlocks : Dict String Block)
    (now : Nat) :
    (init latestBlocks now : TXMonitor Hex).Consistent := by
  have unstored : ∀ {κ α : Type} [DecidableEq κ] {key : κ} {value : α},
      (∅ : Dict κ α).get? key ≠ some value := by
    intro κ α _ key value
    rw [Dict.get?_empty]
    exact nofun
  refine ⟨?_, ?_, ?_⟩
  · intro currency
    exact ⟨List.nodup_nil, fun id => iff_of_false unstored List.not_mem_nil⟩
  · intro currency
    refine ⟨?_, fun _ => List.nodup_nil, ?_, ?_, ?_⟩
    · intro prevout
      refine iff_of_false List.not_mem_nil ?_
      rintro ⟨id, watch, stored, _⟩
      exact unstored stored
    · exact fun _ _ stored => absurd stored unstored
    · exact fun _ _ stored => absurd stored unstored
    · exact fun _ _ stored => absurd stored unstored
  · intro currency
    refine ⟨?_, ?_, ?_, fun _ => List.nodup_nil, ?_, ?_, List.nodup_nil⟩
    · exact fun _ _ stored => absurd stored unstored
    · exact fun _ _ stored => absurd stored unstored
    · exact fun _ _ seen => absurd seen List.not_mem_nil
    · exact fun _ _ stored => absurd stored unstored
    · exact fun _ _ stored => absurd stored unstored

/-- In every run whose actions are used where they can be the tables are
consistent, before and after each of the actions, and no pass and no removal
raises a missing-key error. -/
theorem run_keeps_tables_consistent
    (env : MonitorEnv Hex)
    (latestBlocks : Dict String Block)
    (now : Nat)
    (commands : List (MonitorCommand Hex))
    (fits : ActionsMeet env (ActionFits env) (init latestBlocks now)
      commands) :
    (Machine.run (command env) (init latestBlocks now) commands).Consistent ∧
      ActionsMeet env
        (fun monitor action => monitor.Consistent ∧
          (act env monitor action).Consistent ∧
          (action.isAdd = false →
            (monitor.perform env action).result ≠ .error .keyError))
        (init latestBlocks now) commands := by
  have initially : (init latestBlocks now : TXMonitor Hex).Consistent :=
    init_consistent latestBlocks now
  constructor
  · exact @invariant_commands _ _ env (ActionFits env) Consistent
      (fun monitor action consistent fits =>
        (act_consistent action consistent fits).1)
      _ _ initially fits
  · refine actionsMeet_of_invariant env ?_ initially fits
    intro monitor action consistent fits
    have kept := act_consistent action consistent fits
    exact ⟨kept.1, consistent, kept⟩

end TXMonitor

/-! ## A sample monitor -/

namespace Sample

/-- A monitor of one coin whose transactions are their own text. -/
def monitorEnv : MonitorEnv CTransaction where
  lib := BitcoinLib.transparent
  coins := ["bitcoin"]
  connected := fun _ => true
  confirmations := 2
  scriptElements := fun script =>
    match script with
    | .p2sh hash => .ok [.op opHash160, .data hash, .op opEqual]
    | .p2pkh hash =>
        .ok [.op opDup, .op opHash160, .data hash, .op opEqualverify,
          .op opChecksig]
    | _ => .ok []
  constructAddress := fun currency _ => .ok currency
  checkInterval := none

/-- A transaction that spends the first output of another. -/
def spending (txid : Txid) : CTransaction where
  nVersion := 1
  vin := [⟨⟨txid, 0⟩, .raw [], finalSequence⟩]
  vout := [⟨1000, .p2pkh [1]⟩]
  nLockTime := 0

/-- A chain of three blocks; the transaction is in the second. -/
def threeBlocks (tx : CTransaction) : Instant CTransaction where
  getblockcount := .ok 2
  getblockhash := fun _ => .error .jsonRpcException
  getblock := fun hash =>
    match hash with
    | "b0" => .ok ⟨"b0", 0, 3, [], none, some "b1"⟩
    | "b1" => .ok ⟨"b1", 1, 2, ["tx"], some "b0", some "b2"⟩
    | "b2" => .ok ⟨"b2", 2, 1, [], some "b1", none⟩
    | _ => .error .jsonRpcException
  getrawmempool := .ok []
  batch := fun txids => .ok (txids.map fun _ => tx)
  callbacks := ⟨fun _ => true, fun _ => true⟩

def firstBlock : Dict String Block :=
  ⟨[("bitcoin", ⟨"b0", 0, 1, [], none, none⟩)]⟩

/-- A watch for a transaction, with a callback for its confirmation. -/
def watchArgs (id : WatchId) (tx : CTransaction) : WatchArgs CTransaction where
  needle := .txHex tx
  callbacks := ⟨[(.confirm, some "callback")]⟩
  watchId := some id
  expires := true

/-- The daemon knows the transaction with these confirmations. -/
def addAnswers (confirmations : Option Int) : AddAnswers CTransaction where
  getrawtransaction := .error .jsonRpcException
  fees := .ok ()
  lookup := some (.ok ⟨confirmations, "b0"⟩)
  height := .ok 0
  generatedId := "generated"
  callbacks := ⟨fun _ => true, fun _ => true⟩

/-- Two watches are added, and a pass finds the transaction of the first and
removes it one block later. -/
def honestCommands : List (MonitorCommand CTransaction) :=
  [.add "bitcoin" (watchArgs "first" (spending "a")) (addAnswers none),
    .add "bitcoin" (watchArgs "second" (spending "b")) (addAnswers none),
    .check 1 (List.replicate 8 (threeBlocks (spending "a")))]

/-- A watch for a transaction that has its confirmations already. -/
def confirmedCommands : List (MonitorCommand CTransaction) :=
  [.add "bitcoin" (watchArgs "first" (spending "a")) (addAnswers (some 2))]

end Sample

namespace TXMonitor

/-- The tables over the sample run. -/
theorem run_keeps_tables_consistent_sample :
    (Machine.run (command Sample.monitorEnv) (init Sample.firstBlock 0)
        Sample.honestCommands).Consistent ∧
      ActionsMeet Sample.monitorEnv
        (fun monitor action => monitor.Consistent ∧
          (act Sample.monitorEnv monitor action).Consistent ∧
          (action.isAdd = false →
            (monitor.perform Sample.monitorEnv action).result ≠
              .error .keyError))
        (init Sample.firstBlock 0) Sample.honestCommands :=
  run_keeps_tables_consistent Sample.monitorEnv Sample.firstBlock 0
    Sample.honestCommands (by unfold ActionsMeet; decide +kernel)

/-- A watch for a confirmed transaction stays in the watching table only, and
the pass that finds its confirmations once more raises a missing-key error. -/
theorem confirmed_watch_breaks_tables :
    ¬(Machine.run (command Sample.monitorEnv) (init Sample.firstBlock 0)
        Sample.confirmedCommands).Consistent ∧
      ¬ActionsMeet Sample.monitorEnv
        (fun monitor action => action.isAdd = false →
          (monitor.perform Sample.monitorEnv action).result ≠
            .error .keyError)
        (init Sample.firstBlock 0)
        (Sample.confirmedCommands ++
          [.check 1 (List.replicate 8 (Sample.threeBlocks
            (Sample.spending "b")))]) := by
  constructor
  · intro consistent
    have matching := (consistent.ids "bitcoin").ids "first"
    revert matching
    decide +kernel
  · unfold ActionsMeet
    decide +kernel

end TXMonitor
end Coinbend
