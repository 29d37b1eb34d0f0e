import Coinbend.Monitor.Check

/-!
# Runs of the monitor

A pass leaves the state its actions lead to.  The monitor is used through
commands, a command stands for its actions, and a condition on commands is a
condition on the actions they perform.
-/

namespace Coinbend

namespace Pass

variable {Hex : Type} [DecidableEq Hex] (env : MonitorEnv Hex)

/-- The monitor is where the actions lead. -/
def Tracks (start : TXMonitor Hex) (pass : Pass Hex) : Prop :=
  pass.monitor = Machine.run (TXMonitor.act env) start pass.actions

variable {env} {start : TXMonitor Hex} {pass : Pass Hex}

theorem tracks_ask
    {α : Type}
    (tracks : Tracks env start pass)
    (call : Instant Hex → Except PyError α) :
    Tracks env start (pass.ask call).state := by
  unfold ask
  split
  · exact tracks
  · exact tracks

theorem tracks_act
    (tracks : Tracks env start pass)
    (action : MonitorAction Hex) :
    Tracks env start (pass.act env action).state := by
  unfold Tracks at tracks ⊢
  change (pass.monitor.perform env action).state = Machine.run _ _ (_ ++ [_])
  rw [Machine.run_append, ← tracks]
  rfl

theorem tracks_findPrevious
    (left : Nat)
    (height : Int)
    (block : Block)
    (orphaned : List Block)
    (tracks : Tracks env start pass) :
    Tracks env start (findPrevious left height block orphaned pass).state := by
  induction left generalizing height block orphaned pass with
  | zero => exact tracks
  | succ left inductionHypothesis =>
      unfold findPrevious
      split
      · exact tracks
      have asked := tracks_ask tracks fun instant => instant.getblockhash height
      dsimp only
      split
      · exact inductionHypothesis _ _ _ asked
      · apply Outcome.bind_state
        · exact tracks_ask asked _
        intro found _
        exact inductionHypothesis _ _ _ (tracks_ask asked _)

theorem tracks_stepBack
    (currency : String)
    (left : Nat)
    (block : Block)
    (orphaned : List Block)
    (tracks : Tracks env start pass) :
    Tracks env start (stepBack env currency left block orphaned pass).state := by
  induction left generalizing block orphaned pass with
  | zero => exact tracks
  | succ left inductionHypothesis =>
      unfold stepBack
      split
      · have forgot := tracks_act tracks (.latest currency none)
        apply Outcome.bind_state forgot
        intro _ _
        have found := tracks_findPrevious
          ((pass.act env (.latest currency none)).state.calls.length + 1)
          block.height block orphaned forgot
        apply Outcome.bind_state found
        intro previous _
        have asked := tracks_ask found
          fun instant => instant.getblock previous.1
        apply Outcome.bind_state asked
        intro answered _
        have latest := tracks_act asked
          (.latest currency (some (validNext answered)))
        apply Outcome.bind_state latest
        intro _ _
        exact inductionHypothesis _ _ latest
      · exact tracks

theorem tracks_processOrphans
    (currency : String)
    (orphaned : List Block)
    (tracks : Tracks env start pass) :
    Tracks env start (processOrphans env currency orphaned pass).state := by
  induction orphaned generalizing pass with
  | nil => exact tracks
  | cons orphan orphaned inductionHypothesis =>
      have acted := tracks_act tracks (.orphan currency orphan.hash)
      apply Outcome.bind_state acted
      intro _ _
      exact inductionHypothesis acted

theorem tracks_findStart
    (currency : String)
    (height : Int)
    (block : Block)
    (tracks : Tracks env start pass) :
    Tracks env start (findStart env currency height block pass).state := by
  unfold findStart
  split
  · exact tracks
  have asked := tracks_ask tracks fun instant => instant.getblock block.hash
  apply Outcome.bind_state asked
  intro answered _
  split
  · exact asked
  have stepped := tracks_stepBack currency
    ((pass.ask fun instant => instant.getblock block.hash).state.calls.length + 1)
    answered [] asked
  apply Outcome.bind_state stepped
  intro found _
  have processed := tracks_processOrphans currency found.2 stepped
  apply Outcome.bind_state processed
  intro _ _
  exact processed

theorem tracks_getTransactions
    (currency : String)
    (txids : List Txid)
    (tracks : Tracks env start pass) :
    Tracks env start (pass.getTransactions currency txids).state := by
  unfold getTransactions
  split
  · exact tracks_ask tracks _
  · exact tracks

theorem tracks_processBlocks
    (currency : String)
    (checks : Nat)
    (block : Block)
    (tx : Option CTransaction)
    (tracks : Tracks env start pass) :
    Tracks env start
      (processBlocks env currency checks block tx pass).state := by
  induction checks generalizing block tx pass with
  | zero => exact tracks
  | succ checks inductionHypothesis =>
      have processes : ∀ (block : Block) {pass : Pass Hex}
          (continues : Pass Hex → ActionValue →
            Outcome (Pass Hex) PyError (Option CTransaction)),
          (∀ {pass done}, Tracks env start pass →
            Tracks env start (continues pass done).state) →
          Tracks env start pass →
          Tracks env start
            ((pass.getTransactions currency block.tx).bind fun pass txHexs =>
              (pass.act env (.block currency block txHexs pass.answers tx)).bind
                continues).state := by
        intro block pass continues kept tracks
        have got := tracks_getTransactions currency block.tx tracks
        apply Outcome.bind_state got
        intro txHexs _
        have acted := tracks_act got (.block currency block txHexs
          (pass.getTransactions currency block.tx).state.answers tx)
        apply Outcome.bind_state acted
        intro done _
        exact kept acted
      have continues : ∀ {pass : Pass Hex} (next : BlockHash)
          (tx : Option CTransaction), Tracks env start pass →
          Tracks env start
            ((pass.ask fun instant => instant.getblock next).bind
              fun pass block =>
            processBlocks env currency checks block tx pass).state := by
        intro pass next tx tracks
        apply Outcome.bind_state (tracks_ask tracks _)
        intro answered _
        exact inductionHypothesis _ _ (tracks_ask tracks _)
      have ends : ∀ {pass : Pass Hex} (block : Block)
          (tx : Option CTransaction), Tracks env start pass →
          Tracks env start
            ((pass.act env (.latest currency (some block))).bind fun pass _ =>
              Outcome.pure pass tx).state := by
        intro pass block tx tracks
        apply Outcome.bind_state (tracks_act tracks _)
        intro _ _
        exact tracks_act tracks _
      unfold processBlocks
      dsimp only
      split
      · split
        next next _ =>
          have asked := tracks_ask tracks fun instant => instant.getblock next
          apply Outcome.bind_state
          · apply Outcome.bind_state asked
            intro _ _
            exact asked
          intro found returned
          cases answered : (pass.ask fun instant =>
              instant.getblock next).result with
          | error error =>
              rw [Outcome.bind, answered] at returned
              cases returned
          | ok block =>
              rw [Outcome.bind_of_ok answered] at returned ⊢
              cases returned
              refine processes block _ ?_ asked
              intro _ _ tracked
              split
              · exact continues _ _ tracked
              · exact ends _ _ tracked
        · exact tracks
      · refine processes block _ ?_ tracks
        intro _ _ tracked
        split
        · exact continues _ _ tracked
        · exact ends _ _ tracked

theorem tracks_checkPool
    (currency : String)
    (tx : Option CTransaction)
    (tracks : Tracks env start pass) :
    Tracks env start (checkPool env currency tx pass).state := by
  unfold checkPool
  have asked := tracks_ask tracks fun instant => instant.getrawmempool
  apply Outcome.bind_state asked
  intro txids _
  split
  · have batched := tracks_ask asked fun instant => instant.batch txids
    apply Outcome.bind_state batched
    intro txHexs _
    have acted := tracks_act batched (.arrivals currency txHexs
      (Outcome.state ((pass.ask fun instant =>
        instant.getrawmempool).state.ask fun instant =>
          instant.batch txids)).answers tx)
    apply Outcome.bind_state acted
    intro _ _
    exact acted
  · exact asked

theorem tracks_getLatestBlocks
    (currencies : List String)
    (tracks : Tracks env start pass) :
    Tracks env start (getLatestBlocks env currencies pass).state := by
  induction currencies generalizing pass with
  | nil => exact tracks
  | cons currency currencies inductionHypothesis =>
      have counted := tracks_ask tracks fun instant => instant.getblockcount
      apply Outcome.bind_state counted
      intro height _
      have hashed := tracks_ask counted
        fun instant => instant.getblockhash height
      apply Outcome.bind_state hashed
      intro blockHash _
      have answered := tracks_ask hashed
        fun instant => instant.getblock blockHash
      apply Outcome.bind_state answered
      intro block _
      have latest := tracks_act answered (.latest currency (some block))
      apply Outcome.bind_state latest
      intro _ _
      exact inductionHypothesis latest

theorem tracks_checkCurrency
    (currency : String)
    (tx : Option CTransaction)
    (tracks : Tracks env start pass) :
    Tracks env start (checkCurrency env currency tx pass).state := by
  unfold checkCurrency
  have counted := tracks_ask tracks fun instant => instant.getblockcount
  apply Outcome.bind_state counted
  intro height _
  split
  · split
    · exact counted
    · have latest := tracks_getLatestBlocks
        (env.coins.filter env.connected) counted
      apply Outcome.bind_state latest
      intro _ _
      exact latest
  next block _ =>
    have started := tracks_findStart currency height block counted
    apply Outcome.bind_state started
    intro block _
    have processed :=
      tracks_processBlocks currency maxBlockChecks block tx started
    apply Outcome.bind_state processed
    intro tx _
    have pooled := tracks_checkPool currency tx processed
    apply Outcome.bind_state pooled
    intro _ _
    exact pooled

theorem tracks_checkCurrencies
    (currencies : List String)
    (tx : Option CTransaction)
    (tracks : Tracks env start pass) :
    Tracks env start (checkCurrencies env currencies tx pass).state := by
  induction currencies generalizing tx pass with
  | nil => exact tracks
  | cons currency currencies inductionHypothesis =>
      have checked := tracks_checkCurrency currency tx tracks
      apply Outcome.bind_state checked
      intro tx _
      exact inductionHypothesis tx checked

theorem tracks_run
    (now : Nat)
    (tracks : Tracks env start pass) :
    Tracks env start (run env now pass).state := by
  have started := tracks_act tracks (.started now)
  apply Outcome.bind_state started
  intro _ _
  exact tracks_checkCurrencies _ none started

end Pass

/-! ## Commands -/

/-- How the monitor is used. -/
inductive MonitorCommand (Hex : Type)
  | add (currency : String) (args : WatchArgs Hex) (answers : AddAnswers Hex)
  | remove (currency : String) (watchId : WatchId)
  | check (now : Nat) (calls : List (Instant Hex))

namespace TXMonitor

variable {Hex : Type} [DecidableEq Hex] (env : MonitorEnv Hex)

/-- The monitor after a command, whether it raised or not. -/
def command (monitor : TXMonitor Hex) : MonitorCommand Hex → TXMonitor Hex
  | .add currency args answers =>
      (monitor.onView currency fun view =>
        view.addWatch env currency args answers).state
  | .remove currency watchId =>
      (monitor.onView currency fun view => view.removeWatch watchId).state
  | .check now calls => monitor.check env now calls

/-- The actions of a command. -/
def actionsOf (monitor : TXMonitor Hex) :
    MonitorCommand Hex → List (MonitorAction Hex)
  | .add currency args answers => [.add currency args answers]
  | .remove currency watchId => [.remove currency watchId]
  | .check now calls => (monitor.passOf env now calls).actions

/-- A pass leaves the state its actions lead to. -/
theorem check_eq_run
    (monitor : TXMonitor Hex)
    (now : Nat)
    (calls : List (Instant Hex)) :
    monitor.check env now calls =
      Machine.run (act env) monitor (monitor.passOf env now calls).actions := by
  have start : Pass.Tracks env monitor ⟨monitor, calls, []⟩ := rfl
  change Pass.Tracks env monitor (monitor.passOf env now calls)
  unfold passOf
  split
  · exact Pass.tracks_act (Pass.tracks_run now start) .finished
  · exact start

/-- A command leaves the state its actions lead to. -/
theorem command_eq_run
    (monitor : TXMonitor Hex)
    (command : MonitorCommand Hex) :
    monitor.command env command =
      Machine.run (act env) monitor (monitor.actionsOf env command) := by
  cases command with
  | add currency args answers =>
      exact (Outcome.bind_state (motive := fun after => _ = after) rfl
        fun _ _ => rfl)
  | remove currency watchId =>
      exact (Outcome.bind_state (motive := fun after => _ = after) rfl
        fun _ _ => rfl)
  | check now calls => exact check_eq_run env monitor now calls

/-- Every action of every command of a run meets a condition in the state it
is performed in. -/
def ActionsMeet
    (condition : TXMonitor Hex → MonitorAction Hex → Prop)
    (monitor : TXMonitor Hex)
    (commands : List (MonitorCommand Hex)) : Prop :=
  Machine.Allowed (command env)
    (fun monitor command =>
      Machine.Allowed (act env) condition monitor
        (monitor.actionsOf env command))
    monitor commands

/-- The actions of a run of commands. -/
def actionsOfRun (monitor : TXMonitor Hex) :
    List (MonitorCommand Hex) → List (MonitorAction Hex)
  | [] => []
  | command :: commands =>
      monitor.actionsOf env command ++
        actionsOfRun (monitor.command env command) commands

/-- The actions of a run are known to be those of the run. -/
theorem actionsMeet_mem
    {condition : TXMonitor Hex → MonitorAction Hex → Prop}
    {monitor : TXMonitor Hex}
    {commands : List (MonitorCommand Hex)}
    (meet : ActionsMeet env condition monitor commands) :
    ActionsMeet env
      (fun before action => condition before action ∧
        action ∈ actionsOfRun env monitor commands)
      monitor commands := by
  have inside : ∀ (all : List (MonitorAction Hex))
      {monitor : TXMonitor Hex} {commands : List (MonitorCommand Hex)},
      actionsOfRun env monitor commands ⊆ all →
      ActionsMeet env condition monitor commands →
      ActionsMeet env
        (fun before action => condition before action ∧ action ∈ all)
        monitor commands := by
    intro all monitor commands
    induction commands generalizing monitor with
    | nil => exact fun _ _ => trivial
    | cons command commands inductionHypothesis =>
        intro included meet
        obtain ⟨here, later⟩ := List.append_subset.mp included
        refine ⟨?_, inductionHypothesis later meet.2⟩
        exact Machine.Allowed.mono (act env)
          (fun _ action mem met => ⟨met, here mem⟩) meet.1
  exact inside _ (List.Subset.refl _) meet

/-- A condition that all actions meet. -/
theorem actionsMeet_always
    {condition : TXMonitor Hex → MonitorAction Hex → Prop}
    (holds : ∀ monitor action, condition monitor action)
    (monitor : TXMonitor Hex)
    (commands : List (MonitorCommand Hex)) :
    ActionsMeet env condition monitor commands :=
  Machine.Allowed.always (command env)
    (fun _ _ => Machine.Allowed.always (act env) holds _ _) monitor commands

/-- What the actions keep that meet a condition holds after every run of
commands whose actions do. -/
theorem invariant_commands
    {condition : TXMonitor Hex → MonitorAction Hex → Prop}
    {Invariant : TXMonitor Hex → Prop}
    (keeps : ∀ monitor action, Invariant monitor → condition monitor action →
      Invariant (act env monitor action))
    {monitor : TXMonitor Hex}
    {commands : List (MonitorCommand Hex)}
    (initially : Invariant monitor)
    (meet : ActionsMeet env condition monitor commands) :
    Invariant (Machine.run (command env) monitor commands) := by
  refine Machine.invariant_run (command env) ?_ initially meet
  intro monitor command holds meets
  rw [command_eq_run]
  exact Machine.invariant_run (act env) keeps holds meets

/-- What an action that meets a condition does in a state with an invariant
holds of every action of a run. -/
theorem actionsMeet_of_invariant
    {condition conclusion : TXMonitor Hex → MonitorAction Hex → Prop}
    {Invariant : TXMonitor Hex → Prop}
    (keeps : ∀ monitor action, Invariant monitor → condition monitor action →
      Invariant (act env monitor action) ∧ conclusion monitor action)
    {monitor : TXMonitor Hex}
    {commands : List (MonitorCommand Hex)}
    (initially : Invariant monitor)
    (meet : ActionsMeet env condition monitor commands) :
    ActionsMeet env conclusion monitor commands := by
  refine Machine.allowed_of_invariant (command env) ?_ initially meet
  intro monitor command holds meets
  rw [command_eq_run]
  exact ⟨Machine.invariant_run (act env)
      (fun monitor action holds met => (keeps monitor action holds met).1)
      holds meets,
    Machine.allowed_of_invariant (act env) keeps holds meets⟩

/-- What every action keeps holds after every run of commands. -/
theorem invariant_always
    {Invariant : TXMonitor Hex → Prop}
    (keeps : ∀ monitor action, Invariant monitor →
      Invariant (act env monitor action))
    {monitor : TXMonitor Hex}
    (initially : Invariant monitor)
    (commands : List (MonitorCommand Hex)) :
    Invariant (Machine.run (command env) monitor commands) := by
  refine Machine.invariant_always (command env) ?_ initially commands
  intro monitor command holds
  rw [command_eq_run]
  exact Machine.invariant_always (act env) keeps holds _

end TXMonitor
end Coinbend
