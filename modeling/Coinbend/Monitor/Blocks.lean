import Coinbend.Monitor.Defs

/-!
# Blocks, orphans and arrivals

What `TXMonitor.check` does to the watches of one currency for a block, for a
block that was orphaned and for the transactions in the memory pool.
-/

namespace Coinbend

/-- A transaction of a block that spends inputs some watch is filed under. -/
structure DoubleSpend (Hex : Type) where
  txHex : Hex
  inputs : List COutPoint
  watchId : WatchId
  deriving DecidableEq

/-- What the transactions of a block hold for a watch: the event and the
transaction it found, the suspected double spends and the local `tx`. -/
structure Scan (Hex : Type) where
  found : Option (WatchEvent × Hex)
  doubleSpends : List (DoubleSpend Hex)
  tx : Option CTransaction
  deriving DecidableEq

/-- The local variables of the loop over the watches. -/
structure BlockLoop (Hex : Type) where
  oldWatches : List WatchId
  doubleSpends : List (DoubleSpend Hex)
  tx : Option CTransaction
  deriving DecidableEq

variable {Hex : Type} [DecidableEq Hex] (env : MonitorEnv Hex)

/-- The inputs of a transaction that are in the index. -/
def spentInputs
    (inputs : Dict Txid (List Nat))
    (tx : CTransaction) : List COutPoint :=
  (Watch.outpoints tx).filter fun prevout =>
    match inputs.get? prevout.hash with
    | none => false
    | some indices => prevout.n ∈ indices

/-- The event a transaction is for a `tx_hex` needle. -/
def needleEvent (value txHex : Hex) : Option WatchEvent :=
  if txHex = value then some .confirm
  else if compareTransactions env.lib txHex value = 1 then some .mutate
  else none

/-- "Check transactions against watch." -/
def scan
    (currency : String)
    (inputs : Dict Txid (List Nat))
    (watchId : WatchId)
    (needle : Needle Hex) :
    List Hex → Option CTransaction → Except PyError (Scan Hex)
  | [], tx => .ok ⟨none, [], tx⟩
  | txHex :: txHexs, _ => do
      let tx ← env.lib.parse txHex
      match needle with
      | .txHex value =>
          match needleEvent env value txHex with
          | some event => return ⟨some (event, txHex), [], some tx⟩
          | none =>
              let rest ← scan currency inputs watchId needle txHexs (some tx)
              let spent := spentInputs inputs tx
              if spent = [] then return rest
              return { rest with
                doubleSpends := ⟨txHex, spent, watchId⟩ :: rest.doubleSpends }
      | .address type value =>
          let ret ← parseAddress env currency tx
          -- `ret["type"]` indexes the list of addresses with a text.
          Except.raiseIf (inFoundAddresses type value ret = true) .typeError
          scan currency inputs watchId needle txHexs (some tx)
      | _ => scan currency inputs watchId needle txHexs (some tx)

namespace CoinView

/-! ## Blocks -/

/-- Count a block for a watch that was found already, look for it otherwise. -/
def lookFor
    (view : CoinView Hex)
    (currency : String)
    (block : Block)
    (txHexs : List Hex)
    (watchId : WatchId)
    (locals : BlockLoop Hex) :
    Outcome (CoinView Hex) PyError (BlockLoop Hex) :=
  Outcome.attempt view
    (Except.ofOption .keyError (view.watching.get? watchId)) fun watch =>
  if watch.event ≠ none then
    Outcome.pure
      (view.putWatch watchId
        { watch with confirmations := watch.confirmations + 1 }) locals
  else
    Outcome.attempt view
      (scan env currency view.inputs watchId watch.needle txHexs locals.tx)
      fun scanned =>
    let locals := { locals with
      doubleSpends := locals.doubleSpends ++ scanned.doubleSpends
      tx := scanned.tx }
    match scanned.found with
    | none => Outcome.pure view locals
    | some (event, txHex) =>
        Outcome.pure
          ((view.putWatch watchId { watch with
              foundTxHex := some txHex
              event := some event
              confirmations := watch.confirmations + 1
              block := some block.hash
              height := block.height }).saveBlock block.hash watchId) locals

/-- "Do callback if confirmation threshold met." -/
def announce
    (view : CoinView Hex)
    (answers : CallbackAnswers)
    (watchId : WatchId)
    (locals : BlockLoop Hex) :
    Outcome (CoinView Hex) PyError (BlockLoop Hex) :=
  Outcome.attempt view
    (Except.ofOption .keyError (view.watching.get? watchId)) fun watch =>
  if env.confirmations ≤ watch.confirmations then
    Outcome.attempt view (Except.ofOption .keyError watch.event) fun event =>
    let done :=
      match watch.callback.get event with
      | none => Outcome.pure view ()
      | some code =>
          view.doCallback answers (some code)
            ⟨watchId, event, watch.foundTxHex, watch.confirmations⟩
    done.bind fun view _ =>
    Outcome.pure view
      { locals with oldWatches := locals.oldWatches ++ [watchId] }
  else Outcome.pure view locals

/-- One pass of the loop over the watches. -/
def visitWatch
    (view : CoinView Hex)
    (currency : String)
    (block : Block)
    (txHexs : List Hex)
    (answers : CallbackAnswers)
    (watchId : WatchId)
    (locals : BlockLoop Hex) :
    Outcome (CoinView Hex) PyError (BlockLoop Hex) :=
  (view.lookFor env currency block txHexs watchId locals).bind
    fun view locals => view.announce env answers watchId locals

/-- "Does this transaction apply to any watches?" -/
def visitWatches
    (currency : String)
    (block : Block)
    (txHexs : List Hex)
    (answers : CallbackAnswers) :
    List WatchId → CoinView Hex → BlockLoop Hex →
      Outcome (CoinView Hex) PyError (BlockLoop Hex)
  | [], view, locals => Outcome.pure view locals
  | watchId :: watchIds, view, locals =>
      (view.visitWatch env currency block txHexs answers watchId locals).bind
        fun view locals =>
      visitWatches currency block txHexs answers watchIds view locals

/-- Whether a suspected double spend is what some watch found. -/
def isFound (view : CoinView Hex) (doubleSpend : DoubleSpend Hex) : Bool :=
  view.watching.values.any fun watch =>
    watch.foundTxHex = some doubleSpend.txHex

/-- "Check for double spends", for one of them.  The block list gets the last
value of the loop variable `watch_id`. -/
def resolveDoubleSpend
    (view : CoinView Hex)
    (block : Block)
    (doubleSpend : DoubleSpend Hex) : Outcome (CoinView Hex) PyError Unit :=
  if view.isFound doubleSpend then Outcome.pure view ()
  else
    Outcome.attempt view
      (Except.ofOption .keyError (view.watching.get? doubleSpend.watchId))
      fun watch =>
    let lastId := view.watching.keys.getLast?.getD doubleSpend.watchId
    Outcome.pure
      ((view.putWatch doubleSpend.watchId { watch with
          foundTxHex := some doubleSpend.txHex
          event := some .fraud
          confirmations := watch.confirmations + 1
          block := some block.hash }).saveBlock block.hash lastId) ()

/-- "Check for double spends." -/
def resolveDoubleSpends (block : Block) :
    List (DoubleSpend Hex) → CoinView Hex →
      Outcome (CoinView Hex) PyError Unit
  | [], view => Outcome.pure view ()
  | doubleSpend :: doubleSpends, view =>
      (view.resolveDoubleSpend block doubleSpend).bind fun view _ =>
      resolveDoubleSpends block doubleSpends view

/-- "Remove old watches." -/
def removeOldWatches :
    List WatchId → CoinView Hex → Outcome (CoinView Hex) PyError Unit
  | [], view => Outcome.pure view ()
  | watchId :: watchIds, view =>
      Outcome.attempt view
        (Except.ofOption .keyError (view.watching.get? watchId)) fun watch =>
      match watch.needle, watch.expires with
      | .txHex _, _ | _, true =>
          (view.removeWatch watchId).bind fun view _ =>
          removeOldWatches watchIds view
      | _, false => removeOldWatches watchIds view

/-- "Record that this block has been processed." -/
def recordProcessed (view : CoinView Hex) (hash : BlockHash) : CoinView Hex :=
  { view with processedBlock := some hash }

/-- The body of the loop over the blocks.  The value is the local `tx`. -/
def processBlock
    (view : CoinView Hex)
    (currency : String)
    (block : Block)
    (txHexs : List Hex)
    (answers : CallbackAnswers)
    (tx : Option CTransaction) :
    Outcome (CoinView Hex) PyError (Option CTransaction) :=
  (visitWatches env currency block txHexs answers view.watching.keys view
    ⟨[], [], tx⟩).bind fun view locals =>
  (resolveDoubleSpends block locals.doubleSpends view).bind fun view _ =>
  (removeOldWatches locals.oldWatches view).bind fun view _ =>
  Outcome.pure (view.recordProcessed block.hash) locals.tx

/-! ## Orphans -/

/-- Take a confirmation from a watch. -/
def orphanWatch (view : CoinView Hex) (watchId : WatchId) :
    Outcome (CoinView Hex) PyError Unit :=
  Outcome.attempt view
    (Except.ofOption .keyError (view.watching.get? watchId)) fun watch =>
  if watch.confirmations = 0 then Outcome.pure view ()
  else if watch.confirmations - 1 = 0 then
    (view.putWatch watchId
      { watch with confirmations := 0, event := none }).removeSeen watchId
  else
    Outcome.pure
      (view.putWatch watchId
        { watch with confirmations := watch.confirmations - 1 }) ()

/-- The loop over a block list from an index on.  `remove_seen` takes watches
from the list that is gone through, so the loop skips the one after. -/
def orphanSeen (hash : BlockHash) :
    Nat → Nat → CoinView Hex → Outcome (CoinView Hex) PyError Unit
  | 0, _, view => Outcome.pure view ()
  | left + 1, index, view =>
      match ((view.blocks.get? hash).getD [])[index]? with
      | none => Outcome.pure view ()
      | some watchId =>
          (view.orphanWatch watchId).bind fun view _ =>
          orphanSeen hash left (index + 1) view

/-- "Delete old block container if needed." -/
def dropEmpty (view : CoinView Hex) (hash : BlockHash) : CoinView Hex :=
  if (view.blocks.get? hash).getD [] = [] then
    { view with blocks := view.blocks.erase hash }
  else view

/-- "All the watches are decreased since its a chain." -/
def orphanBlocks :
    List BlockHash → CoinView Hex → Outcome (CoinView Hex) PyError Unit
  | [], view => Outcome.pure view ()
  | hash :: hashes, view =>
      Outcome.attempt view
        (Except.ofOption .keyError (view.blocks.get? hash)) fun seen =>
      (orphanSeen hash seen.length 0 view).bind fun view _ =>
      orphanBlocks hashes (view.dropEmpty hash)

/-- "Clear processed blocks." -/
def clearProcessed (view : CoinView Hex) (hash : BlockHash) : CoinView Hex :=
  if view.processedBlock = some hash then { view with processedBlock := none }
  else view

/-- "Process orphans", for one of them. -/
def processOrphan (view : CoinView Hex) (hash : BlockHash) :
    Outcome (CoinView Hex) PyError Unit :=
  (orphanBlocks view.blocks.keys view).bind fun view _ =>
  Outcome.pure (view.clearProcessed hash) ()

/-! ## Arrivals -/

/-- Whether a transaction of the memory pool is the one a watch waits for. -/
def hasArrived
    (currency : String)
    (tx : Option CTransaction)
    (watch : Watch Hex)
    (txHex : Hex) : Except PyError Bool :=
  match watch.needle with
  | .txHex value => .ok ((needleEvent env value txHex).isSome)
  | .address type value => do
      -- The local `tx` is what the loop over the blocks left in it.
      let tx ← Except.ofOption (.nameError "tx") tx
      let ret ← parseAddress env currency tx
      Except.raiseIf (inFoundAddresses type value ret = true) .typeError
      return false
  | _ => .ok false

/-- "Process callback." -/
def arrive
    (view : CoinView Hex)
    (answers : CallbackAnswers)
    (watchId : WatchId)
    (watch : Watch Hex)
    (txHex : Hex) : Outcome (CoinView Hex) PyError Unit :=
  match watch.callback.arrival with
  | none => Outcome.pure view ()
  | some code =>
      (view.runCallback answers (some code)
        ⟨watchId, .arrival, some txHex, watch.confirmations⟩).bind fun view _ =>
      let callback := { watch.callback with arrival := none }
      let view := view.putWatch watchId { watch with callback := callback }
      if callback = Callbacks.none then view.removeWatch watchId
      else Outcome.pure view ()

/-- "Process tx_hex", for one watch. -/
def visitPool
    (currency : String)
    (tx : Option CTransaction)
    (answers : CallbackAnswers)
    (watchId : WatchId)
    (watch : Watch Hex) :
    List Hex → CoinView Hex → Outcome (CoinView Hex) PyError Unit
  | [], view => Outcome.pure view ()
  | txHex :: txHexs, view =>
      Outcome.attempt view (hasArrived env currency tx watch txHex) fun found =>
      if found then view.arrive answers watchId watch txHex
      else visitPool currency tx answers watchId watch txHexs view

/-- "Does this mempool transaction apply to any watches?" -/
def visitPools
    (currency : String)
    (tx : Option CTransaction)
    (answers : CallbackAnswers)
    (txHexs : List Hex) :
    List WatchId → CoinView Hex → Outcome (CoinView Hex) PyError Unit
  | [], view => Outcome.pure view ()
  | watchId :: watchIds, view =>
      Outcome.attempt view
        (Except.ofOption .keyError (view.watching.get? watchId)) fun watch =>
      (visitPool env currency tx answers watchId watch txHexs view).bind
        fun view _ =>
      visitPools currency tx answers txHexs watchIds view

end CoinView
end Coinbend
