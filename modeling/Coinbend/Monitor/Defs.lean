import Coinbend.Library.Dict
import Coinbend.Library.Outcome
import Coinbend.Transaction.Compare

/-!
# The transaction monitor

The watches of `tx_monitor.py` and the tables they are filed in.  A watch waits
for a transaction to be found in a block and counts the blocks after it; four
tables say where each watch is: by currency, by id, by the outpoints its
transaction spends and by the block it was found in.
-/

namespace Coinbend

abbrev WatchId := String

abbrev BlockHash := String

inductive WatchEvent
  | confirm
  | mutate
  | fraud
  | arrival
  deriving DecidableEq, Repr

/-- `self.address_types`. -/
inductive AddressType
  | p2pkh
  | p2sh
  deriving DecidableEq, Repr

/-- What a watch looks for. -/
inductive Needle (Hex : Type)
  | txHex (value : Hex)
  | txid (value : Txid)
  | address (type : AddressType) (value : Address)
  | other (type value : String)
  deriving DecidableEq

/-- Callback code: a function or a text to execute. -/
abbrev Code := String

/-- The callbacks of a watch, one for each event. -/
structure Callbacks where
  confirm : Option Code
  mutate : Option Code
  fraud : Option Code
  arrival : Option Code
  deriving DecidableEq

/-- `watch["callback"][event]`. -/
def Callbacks.get (callbacks : Callbacks) : WatchEvent → Option Code
  | .confirm => callbacks.confirm
  | .mutate => callbacks.mutate
  | .fraud => callbacks.fraud
  | .arrival => callbacks.arrival

/-- No callback is left. -/
def Callbacks.none : Callbacks := ⟨.none, .none, .none, .none⟩

structure Watch (Hex : Type) where
  tx : Option CTransaction
  foundTxHex : Option Hex
  callback : Callbacks
  needle : Needle Hex
  event : Option WatchEvent
  confirmations : Nat
  block : Option BlockHash
  height : Nat
  id : WatchId
  expires : Bool
  deriving DecidableEq

/-- A block as the coin daemon describes it. -/
structure Block where
  hash : BlockHash
  height : Nat
  confirmations : Int
  tx : List Txid
  previousblockhash : Option BlockHash
  nextblockhash : Option BlockHash
  deriving DecidableEq

/-- The tables of one currency. -/
structure CoinWatches (Hex : Type) where
  processedBlock : Option BlockHash
  watching : Dict WatchId (Watch Hex)
  inputs : Dict Txid (List Nat)
  blocks : Dict BlockHash (List WatchId)
  deriving DecidableEq

/-- A callback that was executed, with its arguments and the confirmations the
watch had. -/
structure Fired (Hex : Type) where
  id : WatchId
  event : WatchEvent
  txHex : Option Hex
  confirmations : Nat
  deriving DecidableEq

/-- What an operation on one currency sees: its tables, `watches_by_id` with
the currency of each watch, and the callbacks executed so far. -/
structure CoinView (Hex : Type) extends CoinWatches Hex where
  watchesById : Dict WatchId String
  fired : List (Fired Hex)
  deriving DecidableEq

/-- What running a callback and storing its watch come to. -/
structure CallbackAnswers where
  /-- Whether the code of a watch returns. -/
  runs : WatchId → Bool
  /-- Whether the database takes the row of a watch. -/
  stores : WatchId → Bool

/-- A part of a script: an opcode or pushed bytes. -/
inductive ScriptElement
  | op (code : Nat)
  | data (bytes : Bytes)
  deriving DecidableEq

/-- What the monitor runs with. -/
structure MonitorEnv (Hex : Type) where
  lib : BitcoinLib Hex
  coins : List String
  /-- Whether the daemon of a coin is connected. -/
  connected : String → Bool
  /-- The confirmations a watch waits for. -/
  confirmations : Nat
  /-- `list(script_pub_key)`. -/
  scriptElements : Script → Except PyError (List ScriptElement)
  /-- `self.addresses[currency].construct_address(addr_hash, hashed=1)`. -/
  constructAddress : String → ScriptElement → Except PyError Address
  /-- The seconds between two passes. -/
  checkInterval : Option Nat

namespace Watch

variable {Hex : Type}

/-- The outpoints of a transaction. -/
def outpoints (tx : CTransaction) : List COutPoint :=
  tx.vin.map CTxIn.prevout

/-- The outpoints a watch is filed under. -/
def inputs (watch : Watch Hex) : List COutPoint :=
  match watch.needle, watch.tx with
  | .txHex _, some tx => outpoints tx
  | _, _ => []

end Watch

/-! ## Addresses -/

def opDup : Nat := 0x76
def opHash160 : Nat := 0xa9
def opEqual : Nat := 0x87
def opEqualverify : Nat := 0x88
def opChecksig : Nat := 0xac

/-- The parts of an output script that pays to an address; `none` stands for
any part. -/
def AddressType.expected : AddressType → List (Option ScriptElement)
  | .p2sh => [some (.op opHash160), none, some (.op opEqual)]
  | .p2pkh =>
      [some (.op opDup), some (.op opHash160), none,
        some (.op opEqualverify), some (.op opChecksig)]

/-- "Count expected parts for this output": the parts that match and the place
of the hash. -/
def countExpected :
    List ScriptElement → List (Option ScriptElement) → Nat → Nat → Nat →
      Nat × Nat
  | [], _, _, matchNo, hashIndex => (matchNo, hashIndex)
  | _ :: _, [], _, _, hashIndex => (0, hashIndex)
  | _ :: found, none :: expected, i, matchNo, _ =>
      countExpected found expected (i + 1) (matchNo + 1) i
  | part :: found, some wanted :: expected, i, matchNo, hashIndex =>
      countExpected found expected (i + 1)
        (if wanted = part then matchNo + 1 else matchNo) hashIndex

structure FoundAddress where
  type : Option AddressType
  value : Address
  vout : Nat
  deriving DecidableEq

section

variable {Hex : Type} (env : MonitorEnv Hex)

/-- The outputs of a transaction that pay to one type of address. -/
def outputAddresses (currency : String) (type : AddressType) :
    Nat → List CTxOut → Except PyError (List FoundAddress)
  | _, [] => .ok []
  | voutIndex, output :: outputs => do
      let found ← env.scriptElements output.scriptPubKey
      let (matchNo, hashIndex) := countExpected found type.expected 0 0 0
      if matchNo = type.expected.length then
        let addrHash ← Except.ofOption .indexError found[hashIndex]?
        let addr ← env.constructAddress currency addrHash
        let rest ← outputAddresses currency type (voutIndex + 1) outputs
        return { type := type, value := addr, vout := voutIndex } :: rest
      else outputAddresses currency type (voutIndex + 1) outputs

/-- `parse_address`.  The first address that is found is inserted into the empty
list, so the order is the order in which they are found. -/
def parseAddress (currency : String) (tx : CTransaction) :
    Except PyError (List FoundAddress) := do
  let scriptHashes ← outputAddresses env currency .p2sh 0 tx.vout
  let keyHashes ← outputAddresses env currency .p2pkh 0 tx.vout
  if scriptHashes ++ keyHashes = [] then
    return [{ type := none, value := "", vout := 0 }]
  return scriptHashes ++ keyHashes

end

/-- `in_found_addresses`. -/
def inFoundAddresses
    (type : AddressType)
    (value : Address)
    (foundAddresses : List FoundAddress) : Bool :=
  foundAddresses.any fun found => found.type = some type ∧ found.value = value

/-! ## Filing -/

namespace CoinView

variable {Hex : Type}

/-- One step of `remove_inputs`. -/
def removeInput (view : CoinView Hex) (prevout : COutPoint) :
    Outcome (CoinView Hex) PyError Unit :=
  match view.inputs.get? prevout.hash with
  | none => Outcome.pure view ()
  | some indices =>
      if prevout.n ∈ indices then
        let rest := indices.erase prevout.n
        Outcome.pure
          { view with
            inputs :=
              if rest = [] then view.inputs.erase prevout.hash
              else view.inputs.set prevout.hash rest } ()
      else Outcome.raise view .valueError

/-- `remove_inputs`. -/
def removeInputs : List COutPoint → CoinView Hex →
    Outcome (CoinView Hex) PyError Unit
  | [], view => Outcome.pure view ()
  | prevout :: prevouts, view =>
      (view.removeInput prevout).bind fun view _ => removeInputs prevouts view

/-- `remove_seen`. -/
def removeSeen (view : CoinView Hex) (watchId : WatchId) :
    Outcome (CoinView Hex) PyError Unit :=
  Outcome.attempt view
    (Except.ofOption .keyError (view.watching.get? watchId)) fun watch =>
  -- `self.blocks[currency][None]` is a missing key.
  Outcome.attempt view (Except.ofOption .keyError watch.block) fun inBlock =>
  Outcome.attempt view
    (Except.ofOption .keyError (view.blocks.get? inBlock)) fun seen =>
  let rest := seen.erase watchId
  Outcome.pure
    { view with
      blocks :=
        if rest = [] then view.blocks.erase inBlock
        else view.blocks.set inBlock rest } ()

/-- `self.watching[currency].pop(watch_id, None)`. -/
def popWatch (view : CoinView Hex) (watchId : WatchId) : CoinView Hex :=
  { view with watching := view.watching.erase watchId }

/-- `remove_watch`. -/
def removeWatch (view : CoinView Hex) (watchId : WatchId) :
    Outcome (CoinView Hex) PyError Unit :=
  Outcome.attempt view
    (Except.ofOption .keyError (view.watching.get? watchId)) fun watch =>
  Outcome.attempt view
    (Except.ofOption .keyError (view.watchesById.get? watchId)) fun _ =>
  let view := { view with watchesById := view.watchesById.erase watchId }
  (removeInputs watch.inputs view).bind fun view _ =>
  (view.removeSeen watchId).bind fun view _ =>
  Outcome.pure (view.popWatch watchId) ()

/-- `self.watching[currency][watch_id] = watch`, and every change of a watch
that is stored there. -/
def putWatch
    (view : CoinView Hex)
    (watchId : WatchId)
    (watch : Watch Hex) : CoinView Hex :=
  { view with watching := view.watching.set watchId watch }

/-- "Save block this was found in." -/
def saveBlock
    (view : CoinView Hex)
    (hash : BlockHash)
    (watchId : WatchId) : CoinView Hex :=
  { view with
    blocks :=
      view.blocks.set hash
        ((view.blocks.get? hash).getD [] ++ [watchId]) }

/-! ## Callbacks -/

/-- `update_watch`. -/
def updateWatch
    (view : CoinView Hex)
    (answers : CallbackAnswers)
    (watchId : WatchId) : Outcome (CoinView Hex) PyError Unit :=
  Outcome.attempt view
    (Except.ofOption .keyError (view.watchesById.get? watchId)) fun _ =>
  Outcome.attempt view
    (Except.raiseIf (answers.stores watchId = false)
      (.exception "database")) fun _ =>
  Outcome.pure view ()

/-- The code of a callback runs; executing nothing is a type error. -/
def runCallback
    (view : CoinView Hex)
    (answers : CallbackAnswers)
    (code : Option Code)
    (fired : Fired Hex) : Outcome (CoinView Hex) PyError Unit :=
  match code with
  | none => Outcome.raise view .typeError
  | some _ =>
      let view := { view with fired := view.fired ++ [fired] }
      Outcome.attempt view
        (Except.raiseIf (answers.runs fired.id = false)
          (.exception "callback")) fun _ =>
      Outcome.pure view ()

/-- `do_callback` with a watch. -/
def doCallback
    (view : CoinView Hex)
    (answers : CallbackAnswers)
    (code : Option Code)
    (fired : Fired Hex) : Outcome (CoinView Hex) PyError Unit :=
  (view.runCallback answers code fired).bind fun view _ =>
  view.updateWatch answers fired.id

end CoinView
end Coinbend
