import Coinbend.Library.Machine
import Coinbend.Monitor.Blocks

/-!
# Passes of the monitor

`TXMonitor.check`, `add_watch` and `remove_watch`.  A pass asks the coin
daemons, whose chains may change between any two calls, and acts on the tables
in between.  The changes it makes are named by actions, and a pass is the run
of its actions: what holds of every run of actions holds of every state the
monitor can be in, also after a pass that raised halfway.
-/

namespace Coinbend

/-- What a coin daemon answers at one instant, and what running a callback
comes to then. -/
structure Instant (Hex : Type) where
  getblockcount : Except PyError Int
  getblockhash : Int → Except PyError BlockHash
  getblock : BlockHash → Except PyError Block
  getrawmempool : Except PyError (List Txid)
  /-- `rpc.batch` of `getrawtransaction` calls. -/
  batch : List Txid → Except PyError (List Hex)
  callbacks : CallbackAnswers

/-- The state of `TXMonitor`. -/
structure TXMonitor (Hex : Type) where
  latestBlocks : Dict String (Option Block)
  coins : String → CoinWatches Hex
  watchesById : Dict WatchId String
  fired : List (Fired Hex)
  lastRunTime : Nat
  firstRun : Bool

/-- `self.max_block_checks`. -/
def maxBlockChecks : Nat := 1000

namespace TXMonitor

variable {Hex : Type}

/-- What an operation on a currency sees. -/
def view (monitor : TXMonitor Hex) (currency : String) : CoinView Hex where
  toCoinWatches := monitor.coins currency
  watchesById := monitor.watchesById
  fired := monitor.fired

/-- The monitor after an operation on a currency. -/
def setView
    (monitor : TXMonitor Hex)
    (currency : String)
    (view : CoinView Hex) : TXMonitor Hex :=
  { monitor with
    coins := Function.update monitor.coins currency view.toCoinWatches
    watchesById := view.watchesById
    fired := view.fired }

/-- Run an operation on a currency. -/
def onView {α : Type}
    (monitor : TXMonitor Hex)
    (currency : String)
    (change : CoinView Hex → Outcome (CoinView Hex) PyError α) :
    Outcome (TXMonitor Hex) PyError α :=
  let done := change (monitor.view currency)
  ⟨monitor.setView currency done.state, done.result⟩

/-- The monitor of `__init__`, with the latest block of every currency whose
daemon is connected. -/
def init (latestBlocks : Dict String Block) (now : Nat) : TXMonitor Hex where
  latestBlocks := ⟨latestBlocks.entries.map fun entry => (entry.1, some entry.2)⟩
  coins := fun _ => ⟨none, ∅, ∅, ∅⟩
  watchesById := ∅
  fired := []
  lastRunTime := now
  firstRun := true

end TXMonitor

/-! ## Adding watches -/

/-- `rpc.getrawtransaction(txid, 1)`. -/
structure RawTransaction where
  confirmations : Option Int
  blockhash : BlockHash

/-- The arguments of `add_watch`. -/
structure WatchArgs (Hex : Type) where
  needle : Needle Hex
  callbacks : Dict WatchEvent (Option Code)
  watchId : Option WatchId
  expires : Bool

/-- What `add_watch` asks and reads. -/
structure AddAnswers (Hex : Type) where
  getrawtransaction : Except PyError Hex
  /-- `calculate_tx_fees` and the texts of the amounts. -/
  fees : Except PyError Unit
  /-- `none` when no daemon is connected. -/
  lookup : Option (Except PyError RawTransaction)
  height : Except PyError Nat
  /-- The hash of the time, the currency and the needle. -/
  generatedId : WatchId
  callbacks : CallbackAnswers

/-- The event, block and height a watch starts with. -/
structure AlreadyConfirmed where
  event : Option WatchEvent
  block : Option BlockHash
  height : Nat
  deriving DecidableEq

namespace CoinView

variable {Hex : Type} (env : MonitorEnv Hex)

/-- The needle and, for a `tx_hex` needle, its transaction. -/
def processNeedle
    (currency : String)
    (answers : AddAnswers Hex)
    (needle : Needle Hex) :
    Except PyError (Needle Hex × Option CTransaction) := do
  let needle ← match needle with
    | .txid _ => answers.getrawtransaction.map Needle.txHex
    | needle => .ok needle
  match needle with
  | .txHex value =>
      let tx ← env.lib.parse value
      answers.fees
      let _addresses ← parseAddress env currency tx
      return (needle, some tx)
  | _ => return (needle, none)

/-- "Check tx_hex isn't already confirmed."  An error of the daemon is caught,
also after the event and the block were set. -/
def checkConfirmed
    (answers : AddAnswers Hex)
    (args : WatchArgs Hex)
    (needle : Needle Hex) : Except PyError AlreadyConfirmed :=
  let pending : AlreadyConfirmed := ⟨none, none, 0⟩
  match needle, answers.lookup with
  | .txHex _, some lookup =>
      match lookup with
      | .error .jsonRpcException => .ok pending
      | .error error => .error error
      | .ok ret =>
          match ret.confirmations with
          | none => .ok pending
          | some confirmations =>
              if confirmations < env.confirmations ∨
                  args.callbacks.contains .confirm = false then .ok pending
              else
                match answers.height with
                | .ok height => .ok ⟨some .confirm, some ret.blockhash, height⟩
                | .error .jsonRpcException =>
                    .ok ⟨some .confirm, some ret.blockhash, 0⟩
                | .error error => .error error
  | _, _ => .ok pending

/-- "Make callbacks dict valid." -/
def validCallbacks (callbacks : Dict WatchEvent (Option Code)) : Callbacks where
  confirm := (callbacks.get? .confirm).join
  mutate := (callbacks.get? .mutate).join
  fraud := (callbacks.get? .fraud).join
  arrival := (callbacks.get? .arrival).join

/-- "Build watch." -/
def buildWatch
    (args : WatchArgs Hex)
    (watchId : WatchId)
    (needle : Needle Hex)
    (tx : Option CTransaction)
    (confirmed : AlreadyConfirmed) : Watch Hex where
  tx := tx
  foundTxHex := none
  callback := validCallbacks args.callbacks
  needle := needle
  event := confirmed.event
  confirmations := 0
  block := confirmed.block
  height := confirmed.height
  id := watchId
  expires := args.expires

/-- "Store inputs", for one of them. -/
def storeInput (view : CoinView Hex) (prevout : COutPoint) :
    Outcome (CoinView Hex) PyError Unit :=
  match view.inputs.get? prevout.hash with
  | some indices =>
      if prevout.n ∈ indices then
        Outcome.raise view
          (.exception "Attempted double spend in add_watch.")
      else
        Outcome.pure
          { view with
            inputs :=
              view.inputs.set prevout.hash (indices ++ [prevout.n]) } ()
  | none =>
      Outcome.pure
        { view with inputs := view.inputs.set prevout.hash [prevout.n] } ()

/-- "Store inputs." -/
def storeInputs : List COutPoint → CoinView Hex →
    Outcome (CoinView Hex) PyError Unit
  | [], view => Outcome.pure view ()
  | prevout :: prevouts, view =>
      (view.storeInput prevout).bind fun view _ => storeInputs prevouts view

/-- `save_watch`. -/
def saveWatch
    (view : CoinView Hex)
    (answers : CallbackAnswers)
    (watchId : WatchId) : Outcome (CoinView Hex) PyError Unit :=
  Outcome.attempt view
    (Except.raiseIf (answers.stores watchId = false)
      (.exception "database")) fun _ =>
  Outcome.pure view ()

/-- `add_watch` once the watch is built. -/
def fileWatch
    (view : CoinView Hex)
    (currency : String)
    (args : WatchArgs Hex)
    (answers : AddAnswers Hex)
    (watch : Watch Hex) :
    Outcome (CoinView Hex) PyError (Option WatchId) :=
  let view := view.putWatch watch.id watch
  match watch.event, watch.needle with
  | some event, .txHex value =>
      (view.doCallback answers.callbacks (args.callbacks.get? event).join
        ⟨watch.id, event, some value, watch.confirmations⟩).bind fun view _ =>
      Outcome.pure view none
  | _, _ =>
      let view :=
        { view with watchesById := view.watchesById.set watch.id currency }
      (view.saveWatch answers.callbacks watch.id).bind fun view _ =>
      (storeInputs watch.inputs view).bind fun view _ =>
      Outcome.pure view (some watch.id)

/-- `add_watch`. -/
def addWatch
    (view : CoinView Hex)
    (currency : String)
    (args : WatchArgs Hex)
    (answers : AddAnswers Hex) :
    Outcome (CoinView Hex) PyError (Option WatchId) :=
  Outcome.attempt view (Except.raiseIf (currency ∉ env.coins) .keyError)
    fun _ =>
  Outcome.attempt view (processNeedle env currency answers args.needle)
    fun (needle, tx) =>
  Outcome.attempt view (checkConfirmed env answers args needle)
    fun confirmed =>
  let watchId := args.watchId.getD answers.generatedId
  view.fileWatch currency args answers
    (buildWatch args watchId needle tx confirmed)

end CoinView

/-! ## Actions -/

/-- A change the monitor makes between two calls of a daemon. -/
inductive MonitorAction (Hex : Type)
  | add (currency : String) (args : WatchArgs Hex) (answers : AddAnswers Hex)
  | remove (currency : String) (watchId : WatchId)
  | started (now : Nat)
  | latest (currency : String) (block : Option Block)
  | orphan (currency : String) (hash : BlockHash)
  | block (currency : String) (block : Block) (txHexs : List Hex)
      (answers : CallbackAnswers) (tx : Option CTransaction)
  | arrivals (currency : String) (txHexs : List Hex)
      (answers : CallbackAnswers) (tx : Option CTransaction)
  | finished

/-- What an action returns. -/
structure ActionValue where
  watchId : Option WatchId
  /-- The local `tx` after a block. -/
  tx : Option CTransaction
  deriving DecidableEq

namespace TXMonitor

variable {Hex : Type} [DecidableEq Hex] (env : MonitorEnv Hex)

/-- Perform an action. -/
def perform (monitor : TXMonitor Hex) :
    MonitorAction Hex → Outcome (TXMonitor Hex) PyError ActionValue
  | .add currency args answers =>
      (monitor.onView currency fun view =>
        view.addWatch env currency args answers).bind fun monitor watchId =>
      Outcome.pure monitor ⟨watchId, none⟩
  | .remove currency watchId =>
      (monitor.onView currency fun view => view.removeWatch watchId).bind
        fun monitor _ =>
      Outcome.pure monitor ⟨none, none⟩
  | .started now =>
      Outcome.pure { monitor with lastRunTime := now } ⟨none, none⟩
  | .latest currency block =>
      Outcome.pure
        { monitor with latestBlocks := monitor.latestBlocks.set currency block }
        ⟨none, none⟩
  | .orphan currency hash =>
      (monitor.onView currency fun view => view.processOrphan hash).bind
        fun monitor _ =>
      Outcome.pure monitor ⟨none, none⟩
  | .block currency block txHexs answers tx =>
      (monitor.onView currency fun view =>
        view.processBlock env currency block txHexs answers tx).bind
        fun monitor tx =>
      Outcome.pure monitor ⟨none, tx⟩
  | .arrivals currency txHexs answers tx =>
      (monitor.onView currency fun view =>
        CoinView.visitPools env currency tx answers txHexs view.watching.keys
          view).bind fun monitor _ =>
      Outcome.pure monitor ⟨none, none⟩
  | .finished => Outcome.pure { monitor with firstRun := false } ⟨none, none⟩

/-- The state an action leaves, whether it raised or not. -/
def act (monitor : TXMonitor Hex) (action : MonitorAction Hex) :
    TXMonitor Hex :=
  (monitor.perform env action).state

end TXMonitor

/-! ## Passes -/

/-- A pass under way: the monitor, what the daemons answer to the calls that
are still made, one after the other, and the actions performed so far.  A pass
that never ends, stepping back before a daemon that does not answer, is cut off
where the answers end. -/
structure Pass (Hex : Type) where
  monitor : TXMonitor Hex
  calls : List (Instant Hex)
  actions : List (MonitorAction Hex)

namespace Pass

variable {Hex : Type} [DecidableEq Hex] (env : MonitorEnv Hex)

/-- Make a call.  A call nobody answers fails. -/
def ask {α : Type}
    (pass : Pass Hex)
    (call : Instant Hex → Except PyError α) : Outcome (Pass Hex) PyError α :=
  match pass.calls with
  | [] => Outcome.raise pass .jsonRpcException
  | instant :: calls => ⟨{ pass with calls }, call instant⟩

/-- Perform an action. -/
def act (pass : Pass Hex) (action : MonitorAction Hex) :
    Outcome (Pass Hex) PyError ActionValue :=
  let done := pass.monitor.perform env action
  ⟨{ pass with
      monitor := done.state
      actions := pass.actions ++ [action] }, done.result⟩

/-- A text of hexadecimal digits, with the line feed that `$` lets pass. -/
def hexText (text : String) : Bool :=
  let digits :=
    if text.toList.getLast? = some '\n' then text.toList.dropLast
    else text.toList
  digits ≠ [] ∧ digits.all fun char =>
    ('0' ≤ char ∧ char ≤ '9') ∨ ('a' ≤ char ∧ char ≤ 'f') ∨
      ('A' ≤ char ∧ char ≤ 'F')

/-- "Prevent us from ever getting stuck": the block itself if it names the one
before it, else the first block below that does. -/
def findPrevious : Nat → Int → Block → List Block → Pass Hex →
    Outcome (Pass Hex) PyError (BlockHash × List Block)
  | 0, _, _, _, pass => Outcome.raise pass .jsonRpcException
  | left + 1, height, block, orphaned, pass =>
      match block.previousblockhash with
      | some previous => Outcome.pure pass (previous, orphaned)
      | none =>
          let asked := pass.ask fun instant => instant.getblockhash height
          match asked.result with
          | .error _ =>
              findPrevious left (height - 1) block orphaned asked.state
          | .ok blockHash =>
              (asked.state.ask fun instant => instant.getblock blockHash).bind
                fun pass block =>
              findPrevious left (height - 1) block (orphaned ++ [block]) pass

/-- "Check next block hash is valid." -/
def validNext (block : Block) : Block :=
  match block.nextblockhash with
  | some next =>
      if hexText next then block else { block with nextblockhash := none }
  | none => block

/-- "Step back until unfrozen": the block that is on the chain and the blocks
stepped over to get there, this one included. -/
def stepBack (currency : String) : Nat → Block → List Block → Pass Hex →
    Outcome (Pass Hex) PyError (Block × List Block)
  | 0, _, _, pass => Outcome.raise pass .jsonRpcException
  | left + 1, block, orphaned, pass =>
      if block.confirmations < 1 ∨ block.nextblockhash = none then
        (pass.act env (.latest currency none)).bind fun pass _ =>
        (findPrevious (pass.calls.length + 1) block.height block orphaned
          pass).bind fun pass (blockHash, orphaned) =>
        (pass.ask fun instant => instant.getblock blockHash).bind
          fun pass block =>
        let block := validNext block
        (pass.act env (.latest currency (some block))).bind fun pass _ =>
        stepBack currency left block (orphaned ++ [block]) pass
      else Outcome.pure pass (block, orphaned)

/-- "Process orphans." -/
def processOrphans (currency : String) :
    List Block → Pass Hex → Outcome (Pass Hex) PyError Unit
  | [], pass => Outcome.pure pass ()
  | orphan :: orphaned, pass =>
      (pass.act env (.orphan currency orphan.hash)).bind fun pass _ =>
      processOrphans currency orphaned pass

/-- "A new block might of arrived." -/
def findStart (currency : String) (height : Int) (block : Block)
    (pass : Pass Hex) : Outcome (Pass Hex) PyError Block :=
  if height ≤ block.height then Outcome.pure pass block
  else
    (pass.ask fun instant => instant.getblock block.hash).bind fun pass block =>
    if block.nextblockhash ≠ none then Outcome.pure pass block
    else
      (stepBack env currency (pass.calls.length + 1) block [] pass).bind
        fun pass (block, orphaned) =>
      (processOrphans env currency orphaned pass).bind fun pass _ =>
      Outcome.pure pass block

/-- "Get transactions", of a list of ids. -/
def getTransactions
    (pass : Pass Hex)
    (currency : String)
    (txids : List Txid) : Outcome (Pass Hex) PyError (List Hex) :=
  if txids ≠ [] ∧ (pass.monitor.coins currency).watching.keys ≠ [] then
    pass.ask fun instant => instant.batch txids
  else Outcome.pure pass []

/-- What running callbacks now comes to. -/
def answers (pass : Pass Hex) : CallbackAnswers :=
  match pass.calls with
  | [] => ⟨fun _ => true, fun _ => true⟩
  | instant :: _ => instant.callbacks

/-- "Already processed, skip block." -/
def isProcessed
    (pass : Pass Hex) (currency : String) (block : Block) : Bool :=
  (pass.monitor.coins currency).processedBlock = some block.hash ∨
    (pass.monitor.coins currency).blocks.contains block.hash = true

/-- "Process blocks."  The value is the local `tx`. -/
def processBlocks (currency : String) :
    Nat → Block → Option CTransaction → Pass Hex →
      Outcome (Pass Hex) PyError (Option CTransaction)
  | 0, _, tx, pass => Outcome.pure pass tx
  | checks + 1, block, tx, pass =>
      let skipped : Outcome (Pass Hex) PyError (Option Block) :=
        if pass.isProcessed currency block then
          match block.nextblockhash with
          | some next =>
              (pass.ask fun instant => instant.getblock next).bind
                fun pass block =>
              Outcome.pure pass (some block)
          | none => Outcome.pure pass none
        else Outcome.pure pass (some block)
      skipped.bind fun pass block =>
      match block with
      | none => Outcome.pure pass tx
      | some block =>
          (pass.getTransactions currency block.tx).bind fun pass txHexs =>
          (pass.act env (.block currency block txHexs pass.answers tx)).bind
            fun pass done =>
          match block.nextblockhash with
          | some next =>
              (pass.ask fun instant => instant.getblock next).bind
                fun pass block =>
              processBlocks currency checks block done.tx pass
          | none =>
              (pass.act env (.latest currency (some block))).bind fun pass _ =>
              Outcome.pure pass done.tx

/-- "Get transactions in mem pool." -/
def checkPool (currency : String) (tx : Option CTransaction) (pass : Pass Hex) :
    Outcome (Pass Hex) PyError Unit :=
  (pass.ask fun instant => instant.getrawmempool).bind fun pass mempoolTx =>
  if mempoolTx ≠ [] ∧ (pass.monitor.coins currency).watching.keys ≠ [] then
    (pass.ask fun instant => instant.batch mempoolTx).bind fun pass txHexs =>
    (pass.act env (.arrivals currency txHexs pass.answers tx)).bind
      fun pass _ =>
    Outcome.pure pass ()
  else Outcome.pure pass ()

/-- `get_latest_blocks(heights=None)`, for the connected coins. -/
def getLatestBlocks : List String → Pass Hex → Outcome (Pass Hex) PyError Unit
  | [], pass => Outcome.pure pass ()
  | currency :: currencies, pass =>
      (pass.ask fun instant => instant.getblockcount).bind fun pass height =>
      (pass.ask fun instant => instant.getblockhash height).bind
        fun pass blockHash =>
      (pass.ask fun instant => instant.getblock blockHash).bind
        fun pass block =>
      (pass.act env (.latest currency (some block))).bind fun pass _ =>
      getLatestBlocks currencies pass

/-- The pass over one currency.  The value is the local `tx`. -/
def checkCurrency (currency : String) (tx : Option CTransaction)
    (pass : Pass Hex) : Outcome (Pass Hex) PyError (Option CTransaction) :=
  let latest := (pass.monitor.latestBlocks.get? currency).join
  (pass.ask fun instant => instant.getblockcount).bind fun pass height =>
  match latest with
  | none =>
      -- The local `block` stays `None`, and `block["height"]` raises.
      if pass.monitor.firstRun then Outcome.raise pass .typeError
      else
        (getLatestBlocks env (env.coins.filter env.connected) pass).bind
          fun pass _ =>
        Outcome.raise pass .typeError
  | some block =>
      (findStart env currency height block pass).bind fun pass block =>
      (processBlocks env currency maxBlockChecks block tx pass).bind
        fun pass tx =>
      (checkPool env currency tx pass).bind fun pass _ =>
      Outcome.pure pass tx

def checkCurrencies : List String → Option CTransaction → Pass Hex →
    Outcome (Pass Hex) PyError Unit
  | [], _, pass => Outcome.pure pass ()
  | currency :: currencies, tx, pass =>
      (checkCurrency env currency tx pass).bind fun pass tx =>
      checkCurrencies currencies tx pass

/-- The pass `check` makes unless it is too early. -/
def run (now : Nat) (pass : Pass Hex) : Outcome (Pass Hex) PyError Unit :=
  (pass.act env (.started now)).bind fun pass _ =>
  checkCurrencies env pass.monitor.latestBlocks.keys none pass

end Pass

namespace TXMonitor

variable {Hex : Type} [DecidableEq Hex] (env : MonitorEnv Hex)

/-- Whether a pass is made at this time. -/
def isDue (monitor : TXMonitor Hex) (now : Nat) : Bool :=
  match env.checkInterval with
  | none => true
  | some interval => interval ≤ now - monitor.lastRunTime

/-- The pass of `check`, up to where it ended or raised. -/
def passOf
    (monitor : TXMonitor Hex)
    (now : Nat)
    (calls : List (Instant Hex)) : Pass Hex :=
  if monitor.isDue env now then
    -- Every exception is caught and printed.
    let done := (Pass.run env now ⟨monitor, calls, []⟩).state
    (done.act env .finished).state
  else ⟨monitor, calls, []⟩

/-- `check`. -/
def check
    (monitor : TXMonitor Hex)
    (now : Nat)
    (calls : List (Instant Hex)) : TXMonitor Hex :=
  (monitor.passOf env now calls).monitor

end TXMonitor
end Coinbend
