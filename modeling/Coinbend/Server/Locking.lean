import Coinbend.Library.Machine
import Coinbend.Microtransfer.Validation
import Coinbend.Server.Steps
import Mathlib.Data.Finset.Card
import Mathlib.Order.Interval.Finset.Nat

/-!
# Locked setups

An index is locked again whenever its contract is matched again, so the number
of locks says nothing about how many outputs are matched.  In runs that never
lock an output twice `READY` goes out for completely matched setups only.
-/

namespace Coinbend

variable {Hex : Type}

namespace ContractServer

/-- The output exists in its instance and funds one side of a contract. -/
def OutputFunds
    (env : ServerEnv Hex)
    (server : ContractServer Hex)
    (contract : ParsedContract)
    (side : Actor)
    (output : OutputRef) : Prop :=
  ∃ found position vout,
    server.instances.get? output.instanceId = some found ∧
    output.index = position + 1 ∧
    found.details.contractVouts[position]? = some vout ∧
    Funds env contract side vout

/-- An accepted message matched the output in a contract both of whose outputs
exist. -/
def OutputMatched
    (env : ServerEnv Hex)
    (server : ContractServer Hex)
    (id : InstanceId)
    (index : Nat) : Prop :=
  ∃ works ∈ server.matched, (∃ side, works.side side = ⟨id, index⟩) ∧
    ∀ side, OutputFunds env server works.contract side (works.side side)

/-- The locks of every instance are different outputs of it, all matched. -/
structure LocksSound
    (env : ServerEnv Hex)
    (server : ContractServer Hex) : Prop where
  funds : ∀ works ∈ server.matched, ∀ side,
    OutputFunds env server works.contract side (works.side side)
  nodup : ∀ id found, server.instances.get? id = some found →
    found.locked.Nodup
  matched : ∀ id found, server.instances.get? id = some found →
    ∀ index ∈ found.locked, OutputMatched env server id index

/-- The output is not locked yet. -/
def Unlocked (server : ContractServer Hex) (output : OutputRef) : Prop :=
  ∀ found, server.instances.get? output.instanceId = some found →
    output.index ∉ found.locked

instance (server : ContractServer Hex) (output : OutputRef) :
    Decidable (server.Unlocked output) :=
  inferInstanceAs (Decidable
    (∀ found ∈ server.instances.get? output.instanceId,
      output.index ∉ found.locked))

/-- The two outputs a message matches are different and not locked yet. -/
def LocksNewOutputs
    (env : ServerEnv Hex)
    (server : ContractServer Hex)
    (contract : ParsedContract) : Prop :=
  ∀ buyer seller,
    findOutput env server contract .buyer = some buyer →
    findOutput env server contract .seller = some seller →
    server.Unlocked buyer ∧ server.Unlocked seller ∧ buyer ≠ seller

instance
    (env : ServerEnv Hex)
    (server : ContractServer Hex)
    (contract : ParsedContract) :
    Decidable (LocksNewOutputs env server contract) :=
  decidable_of_iff
    (∀ buyer ∈ findOutput env server contract .buyer,
      ∀ seller ∈ findOutput env server contract .seller,
        server.Unlocked buyer ∧ server.Unlocked seller ∧ buyer ≠ seller)
    ⟨fun new buyer seller isBuyer isSeller => new buyer isBuyer seller isSeller,
      fun new buyer isBuyer seller isSeller => new buyer seller isBuyer isSeller⟩

/-! ## What only grows -/

/-- The setups and the log of matches of a server are kept in another one. -/
structure Extends (before after : ContractServer Hex) : Prop where
  matched : ∀ works ∈ before.matched, works ∈ after.matched
  details : ∀ id old, before.instances.get? id = some old →
    ∃ found, after.instances.get? id = some found ∧
      found.details = old.details

theorem Quiet.extends
    {before after : ContractServer Hex}
    (quiet : before.Quiet after) :
    before.Extends after where
  matched := by
    intro works logged
    rw [quiet.matched]
    exact logged
  details := by
    intro id old stored
    obtain ⟨found, isFound, same⟩ := quiet.forward id old stored
    exact ⟨found, isFound, same.details⟩

theorem Sends.extends
    {works : TwoSided}
    {before after : ContractServer Hex}
    (sends : Sends works before after) :
    before.Extends after := by
  obtain ⟨new, rfl, _⟩ := sends
  exact ⟨fun _ logged => logged, fun _ old stored => ⟨old, stored, rfl⟩⟩

theorem lockSide_extends
    (server : ContractServer Hex)
    (works : TwoSided)
    (side : Actor) :
    server.Extends (server.lockSide works side) where
  matched := by
    intro other logged
    rw [lockSide, matched_modifyInstance]
    exact logged
  details := by
    intro id old stored
    rw [lockSide, get?_modifyInstance]
    split
    next same =>
      subst same
      rw [stored]
      exact ⟨_, rfl, rfl⟩
    · exact ⟨old, stored, rfl⟩

section Sound

variable {env : ServerEnv Hex} {before after server : ContractServer Hex}

theorem OutputFunds.extend
    {contract : ParsedContract}
    {side : Actor}
    {output : OutputRef}
    (funds : OutputFunds env before contract side output)
    (kept : before.Extends after) :
    OutputFunds env after contract side output := by
  obtain ⟨old, position, vout, stored, index, isVout, pays⟩ := funds
  obtain ⟨found, isFound, same⟩ := kept.details _ old stored
  exact ⟨found, position, vout, isFound, index, same ▸ isVout, pays⟩

theorem OutputMatched.extend
    {id : InstanceId}
    {index : Nat}
    (isMatched : OutputMatched env before id index)
    (kept : before.Extends after) :
    OutputMatched env after id index := by
  obtain ⟨works, logged, isSide, funds⟩ := isMatched
  exact ⟨works, kept.matched works logged, isSide, fun side =>
    (funds side).extend kept⟩

/-- An output that is found funds its side. -/
theorem findOutput_funds
    {contract : ParsedContract}
    {side : Actor}
    {output : OutputRef}
    (isOutput : findOutput env server contract side = some output) :
    OutputFunds env server contract side output := by
  simp only [findOutput, Option.bind_eq_bind, Option.bind_eq_some_iff]
    at isOutput
  obtain ⟨id, _, found, stored, isOutput⟩ := isOutput
  split at isOutput
  · cases isOutput
  · simp only [Option.bind_eq_some_iff, Option.pure_def, Option.some.injEq]
      at isOutput
    obtain ⟨position, isPosition, rfl⟩ := isOutput
    obtain ⟨bound, pays, _⟩ :=
      List.findIdx?_eq_some_iff_getElem.mp isPosition
    exact ⟨found, position, _, stored, rfl, List.getElem?_eq_getElem bound,
      of_decide_eq_true pays⟩

/-! ## Keeping the locks sound -/

theorem LocksSound.quiet
    (sound : LocksSound env before)
    (quiet : before.Quiet after) :
    LocksSound env after where
  funds := by
    intro works logged side
    rw [quiet.matched] at logged
    exact (sound.funds works logged side).extend quiet.extends
  nodup := by
    intro id found stored
    obtain ⟨old, isOld, same⟩ := quiet.backward id found stored
    rw [same.locked]
    exact sound.nodup id old isOld
  matched := by
    intro id found stored index locked
    obtain ⟨old, isOld, same⟩ := quiet.backward id found stored
    rw [same.locked] at locked
    exact (sound.matched id old isOld index locked).extend quiet.extends

theorem LocksSound.sends
    {works : TwoSided}
    (sound : LocksSound env before)
    (sends : Sends works before after) :
    LocksSound env after := by
  obtain ⟨new, rfl, _⟩ := sends
  exact ⟨sound.funds, sound.nodup, sound.matched⟩

theorem LocksSound.logMatch
    (sound : LocksSound env server)
    {works : TwoSided}
    (funds : ∀ side,
      OutputFunds env server works.contract side (works.side side)) :
    LocksSound env { server with matched := server.matched ++ [works] } where
  funds := by
    intro other logged side
    rcases List.mem_append.mp logged with old | new
    · exact sound.funds other old side
    · rw [List.mem_singleton.mp new]
      exact funds side
  nodup := sound.nodup
  matched := by
    intro id found stored index locked
    obtain ⟨other, logged, isSide, pays⟩ :=
      sound.matched id found stored index locked
    exact ⟨other, List.mem_append_left _ logged, isSide, pays⟩

/-- Locking an output that is matched and not locked. -/
theorem LocksSound.lockSide
    (sound : LocksSound env server)
    {works : TwoSided}
    {side : Actor}
    (logged : works ∈ server.matched)
    (unlocked : server.Unlocked (works.side side)) :
    LocksSound env (server.lockSide works side) := by
  have kept := lockSide_extends server works side
  refine {
    funds := ?_
    nodup := ?_
    matched := ?_ }
  · intro other isLogged side'
    rw [ContractServer.lockSide, matched_modifyInstance] at isLogged
    exact (sound.funds other isLogged side').extend kept
  · intro id found stored
    obtain ⟨old, isOld, ⟨same, rfl⟩ | ⟨_, rfl⟩⟩ := mem_modifyInstance stored
    · rw [List.nodup_append]
      refine ⟨sound.nodup id old isOld, List.nodup_singleton _, ?_⟩
      intro index locked other isNew
      rw [List.mem_singleton] at isNew
      rintro rfl
      subst same
      exact unlocked old isOld (isNew ▸ locked)
    · exact sound.nodup id found isOld
  · intro id found stored index locked
    obtain ⟨old, isOld, ⟨same, rfl⟩ | ⟨_, rfl⟩⟩ := mem_modifyInstance stored
    · rcases List.mem_append.mp locked with before | new
      · exact (sound.matched id old isOld index before).extend kept
      · rw [List.mem_singleton] at new
        have isMatched : OutputMatched env server id index := by
          refine ⟨works, logged, ⟨side, ?_⟩, sound.funds works logged⟩
          rw [new, same]
        exact isMatched.extend kept
    · exact (sound.matched id found isOld index locked).extend kept

/-- A valid index of a contract output. -/
def ValidIndex (found : Instance Hex) (index : Nat) : Prop :=
  1 ≤ index ∧ index ≤ found.details.contractVouts.length

/-- The locks of every instance are different valid indices. -/
def LocksValid (server : ContractServer Hex) : Prop :=
  ∀ id found, server.instances.get? id = some found →
    found.locked.Nodup ∧ ∀ index ∈ found.locked, ValidIndex found index

theorem LocksSound.valid
    (sound : LocksSound env server) :
    LocksValid server := by
  intro id found stored
  refine ⟨sound.nodup id found stored, ?_⟩
  intro index locked
  obtain ⟨works, _, ⟨side, isSide⟩, funds⟩ :=
    sound.matched id found stored index locked
  obtain ⟨old, position, vout, isOld, isIndex, isVout, _⟩ := funds side
  rw [isSide] at isOld isIndex
  rw [stored, Option.some.injEq] at isOld
  subst isOld
  have bound := (List.getElem?_eq_some_iff.mp isVout).1
  simp only at isIndex
  unfold ValidIndex
  omega

/-- Every output of a setup is matched. -/
def CompletelyMatched
    (env : ServerEnv Hex)
    (server : ContractServer Hex)
    (id : InstanceId) : Prop :=
  ∃ found, server.instances.get? id = some found ∧
    ∀ index, 1 ≤ index → index ≤ found.details.contractVouts.length →
      OutputMatched env server id index

theorem CompletelyMatched.extend
    {id : InstanceId}
    (complete : CompletelyMatched env before id)
    (kept : before.Extends after) :
    CompletelyMatched env after id := by
  obtain ⟨old, stored, isMatched⟩ := complete
  obtain ⟨found, isFound, same⟩ := kept.details id old stored
  refine ⟨found, isFound, ?_⟩
  rw [same]
  intro index positive bound
  exact (isMatched index positive bound).extend kept

/-- A setup with as many locks as contract outputs is completely matched. -/
theorem LocksSound.matched_of_isReady
    (sound : LocksSound env server)
    {id : InstanceId}
    (ready : server.isReady id = true) :
    CompletelyMatched env server id := by
  unfold isReady at ready
  split at ready
  case h_2 => cases ready
  next found stored =>
  have length_eq := of_decide_eq_true ready
  refine ⟨found, stored, ?_⟩
  obtain ⟨nodup, isValid⟩ := sound.valid id found stored
  have valid : found.locked.toFinset ⊆
      Finset.Icc 1 found.details.contractVouts.length := by
    intro index locked
    rw [Finset.mem_Icc]
    exact isValid index (List.mem_toFinset.mp locked)
  have card : (Finset.Icc 1 found.details.contractVouts.length).card ≤
      found.locked.toFinset.card := by
    rw [Nat.card_Icc, List.toFinset_card_of_nodup nodup]
    omega
  have all_locked := Finset.eq_of_subset_of_card_le valid card
  intro index positive bound
  apply sound.matched id found stored
  rw [← List.mem_toFinset, all_locked, Finset.mem_Icc]
  exact ⟨positive, bound⟩

/-- New messages go to completely matched setups. -/
def ReadyMatched
    (env : ServerEnv Hex)
    (before after : ContractServer Hex) : Prop :=
  ∃ new, after.sent = before.sent ++ new ∧
    ∀ entry ∈ new, CompletelyMatched env after entry.2.instanceId

theorem readyMatched_of_sent_eq
    (same : after.sent = before.sent) :
    ReadyMatched env before after := by
  refine ⟨[], by rw [same, List.append_nil], ?_⟩
  intro entry impossible
  cases impossible

/-- Locking the two new outputs of a contract. -/
theorem LocksSound.locks
    (sound : LocksSound env server)
    {works : TwoSided}
    (funds : ∀ side,
      OutputFunds env server works.contract side (works.side side))
    (buyerUnlocked : server.Unlocked works.buyer)
    (sellerUnlocked : server.Unlocked works.seller)
    (different : works.buyer ≠ works.seller) :
    LocksSound env (server.lockBuyer works) ∧
      LocksSound env (server.locks works) := by
  have logged : works ∈ server.matched ++ [works] :=
    List.mem_append_right _ (List.mem_singleton_self works)
  have buyerSound : LocksSound env (server.lockBuyer works) :=
    (sound.logMatch funds).lockSide logged buyerUnlocked
  refine ⟨buyerSound, buyerSound.lockSide ?_ ?_⟩
  · rw [lockBuyer, ContractServer.lockSide, matched_modifyInstance]
    exact logged
  · intro found stored locked
    obtain ⟨old, isOld, ⟨same, rfl⟩ | ⟨_, rfl⟩⟩ := mem_modifyInstance stored
    · rcases List.mem_append.mp locked with before | new
      · exact sellerUnlocked old isOld before
      · rw [List.mem_singleton] at new
        apply different
        have sameId : works.seller.instanceId = works.buyer.instanceId := same
        have sameIndex : works.seller.index = works.buyer.index := new
        cases buyer : works.buyer
        cases seller : works.seller
        rw [buyer, seller] at sameId sameIndex
        simp_all
    · exact sellerUnlocked found isOld locked

/-- Locking both outputs sends `READY` for completely matched setups only. -/
theorem LocksSound.lockBoth
    (sound : LocksSound env server)
    {works : TwoSided}
    (funds : ∀ side,
      OutputFunds env server works.contract side (works.side side))
    (buyerUnlocked : server.Unlocked works.buyer)
    (sellerUnlocked : server.Unlocked works.seller)
    (different : works.buyer ≠ works.seller) :
    LocksSound env (ContractServer.lockBoth env server works).state ∧
      ReadyMatched env server
        (ContractServer.lockBoth env server works).state := by
  obtain ⟨buyerSound, bothSound⟩ :=
    sound.locks funds buyerUnlocked sellerUnlocked different
  obtain ⟨sends, ready⟩ := lockBoth_sends env server works
  refine ⟨bothSound.sends sends, ?_⟩
  have sent_locks : (server.locks works).sent = server.sent := by
    simp [ContractServer.locks, lockBuyer, ContractServer.lockSide]
  rcases ready with nothing | ⟨buyerReady, sellerReady⟩
  · rw [nothing]
    exact readyMatched_of_sent_eq sent_locks
  have buyerMatched :=
    (buyerSound.matched_of_isReady buyerReady).extend
      (lockSide_extends (server.lockBuyer works) works .seller)
  have sellerMatched := bothSound.matched_of_isReady sellerReady
  have kept := sends.extends
  obtain ⟨new, isNew, toSides⟩ := sends
  refine ⟨new, by rw [isNew, ← sent_locks], ?_⟩
  intro entry isEntry
  obtain ⟨side, isSide⟩ := toSides entry isEntry
  rw [isSide]
  cases side with
  | buyer => exact buyerMatched.extend kept
  | seller => exact sellerMatched.extend kept

/-- Matching a contract whose outputs are not locked yet. -/
theorem matchSides_sound
    {contract : ParsedContract}
    (sound : LocksSound env server)
    (new : LocksNewOutputs env server contract) :
    LocksSound env (matchSides env server contract).state ∧
      ReadyMatched env server (matchSides env server contract).state := by
  rcases matchSides_cases env server contract with
    quiet | ⟨buyer, seller, saved, isBuyer, isSeller, quiet, same⟩
  · exact ⟨sound.quiet quiet, readyMatched_of_sent_eq quiet.sent⟩
  obtain ⟨buyerUnlocked, sellerUnlocked, different⟩ :=
    new buyer seller isBuyer isSeller
  have unlocked_saved : ∀ output, server.Unlocked output →
      saved.Unlocked output := by
    intro output unlocked found stored
    obtain ⟨old, isOld, kept⟩ := quiet.backward _ found stored
    rw [kept.locked]
    exact unlocked old isOld
  have funds : ∀ side, OutputFunds env saved contract side
      (TwoSided.side ⟨contract, buyer, seller⟩ side) := by
    intro side
    cases side with
    | buyer => exact (findOutput_funds isBuyer).extend quiet.extends
    | seller => exact (findOutput_funds isSeller).extend quiet.extends
  obtain ⟨bothSound, readyMatched⟩ := (sound.quiet quiet).lockBoth funds
    (unlocked_saved buyer buyerUnlocked) (unlocked_saved seller sellerUnlocked)
    different
  rw [same]
  refine ⟨bothSound, ?_⟩
  unfold ReadyMatched at readyMatched ⊢
  rw [← quiet.sent]
  exact readyMatched

/-- A newly registered setup has no locks. -/
theorem parseRegisterMsg_sound
    (sound : LocksSound env server)
    (msg : RegisterMsg Hex) :
    LocksSound env (parseRegisterMsg env server msg).state ∧
      (parseRegisterMsg env server msg).state.sent = server.sent := by
  rcases parseRegisterMsg_cases env server msg with
    same | ⟨registered, new, _, unlocked, _, same⟩
  · rw [same]
    exact ⟨sound, rfl⟩
  rw [same]
  have kept : server.Extends (server.register msg.instanceId registered) :=
    ⟨fun _ logged => logged, fun _ old stored =>
      ⟨old, get?_register new stored, rfl⟩⟩
  refine ⟨?_, rfl⟩
  refine {
    funds := fun works logged side => (sound.funds works logged side).extend kept
    nodup := ?_
    matched := ?_ }
  · intro id found stored
    rcases mem_register stored with rfl | old
    · rw [unlocked]
      exact List.nodup_nil
    · exact sound.nodup id found old
  · intro id found stored index locked
    rcases mem_register stored with rfl | old
    · rw [unlocked] at locked
      cases locked
    · exact (sound.matched id found old index locked).extend kept

end Sound

/-! ## Runs -/

/-- The two outputs a `MATCH` message matches, once its collateral is recorded,
are different and not locked yet. -/
def FreshLocks (env : ServerEnv Hex) (server : ContractServer Hex) :
    ServerEvent Hex → Prop
  | .matchMsg msg => ∀ contract actor,
      (acceptMatchMsg env server msg).result = .ok (some (contract, actor)) →
      LocksNewOutputs env (acceptMatchMsg env server msg).state contract
  | _ => True

instance FreshLocks.decidable
    (env : ServerEnv Hex)
    (server : ContractServer Hex) :
    (event : ServerEvent Hex) → Decidable (FreshLocks env server event)
  | .matchMsg _ => decidableOfAccepted _
  | .connectionMade _ | .connectionLost _ | .registerMsg _ => isTrue trivial

theorem serverStep_locksSound
    (env : ServerEnv Hex)
    (server : ContractServer Hex)
    (event : ServerEvent Hex)
    (sound : LocksSound env server)
    (fresh : FreshLocks env server event) :
    LocksSound env (serverStep env server event) ∧
      ReadyMatched env server (serverStep env server event) := by
  cases event with
  | connectionMade ident =>
      exact ⟨⟨sound.funds, sound.nodup, sound.matched⟩,
        readyMatched_of_sent_eq rfl⟩
  | connectionLost ident =>
      exact ⟨⟨sound.funds, sound.nodup, sound.matched⟩,
        readyMatched_of_sent_eq rfl⟩
  | registerMsg msg =>
      obtain ⟨registered, same⟩ := parseRegisterMsg_sound sound msg
      exact ⟨registered, readyMatched_of_sent_eq same⟩
  | matchMsg msg =>
      have quiet := acceptMatchMsg_quiet env server msg
      have accepted := sound.quiet quiet
      have unsent : ReadyMatched env server (acceptMatchMsg env server msg).state :=
        readyMatched_of_sent_eq quiet.sent
      unfold serverStep parseMatchMsg Outcome.bind
      simp only
      split
      next found isOk =>
        cases found with
        | none => exact ⟨accepted, unsent⟩
        | some pair =>
            obtain ⟨contract, actor⟩ := pair
            obtain ⟨sound', readyMatched⟩ :=
              matchSides_sound accepted (fresh contract actor isOk)
            refine ⟨sound', ?_⟩
            unfold ReadyMatched at readyMatched ⊢
            rw [← quiet.sent]
            exact readyMatched
      · exact ⟨accepted, unsent⟩

theorem locksSound_empty (env : ServerEnv Hex) :
    LocksSound env (ContractServer.empty : ContractServer Hex) where
  funds := by
    intro works logged
    cases logged
  nodup := by
    intro id found stored
    cases stored
  matched := by
    intro id found stored
    cases stored

/-- In runs that never lock an output twice every lock is valid and `READY` is
sent for completely matched setups only. -/
theorem serverRun_locks
    (env : ServerEnv Hex)
    (events : List (ServerEvent Hex))
    (fresh : Machine.Allowed (serverStep env) (FreshLocks env)
      ContractServer.empty events) :
    LocksValid (Machine.run (serverStep env) ContractServer.empty events) ∧
      Machine.Allowed (serverStep env)
        (fun before event =>
          ReadyMatched env before (serverStep env before event))
        ContractServer.empty events := by
  constructor
  · have sound := Machine.invariant_run (serverStep env)
      (fun server event sound fresh =>
        (serverStep_locksSound env server event sound fresh).1)
      (locksSound_empty env) fresh
    exact sound.valid
  · exact Machine.allowed_of_invariant (serverStep env)
      (fun server event sound fresh =>
        serverStep_locksSound env server event sound fresh)
      (locksSound_empty env) fresh

end ContractServer

/-! ## A sample server

The buyer and the seller of the sample contract register a setup transaction
each and match the contract, the seller last. -/

namespace Sample

def serverEnv : ServerEnv CTransaction where
  toMicrotransferEnv := env
  ecdsa := namedEcdsa
  config := feeConfig
  tradeContext := {
    prec := 8
    isIpValid := fun _ => true
    isAddressValid := fun _ => true }
  contractHash := fun msg => "contract of " ++ msg.orderHash
  amountOfText := fun text =>
    [C.coins 1, C.coins 2].find? fun amount => amount.str = text

def serverContractMsg : ContractMsg where
  version := 1
  timestamp := 0
  orderHash := "order"
  pair := ⟨"dogecoin", "litecoin"⟩
  amount := C.coins 4
  ppc := C.coins 2
  buyer := {
    address := "buyerAddress"
    pubKey1 := "buyer1"
    pubKey2 := "buyer2"
    serverPubKey := "encrypted"
    depositTxid := "buyerDeposit"
    vouts := [0]
    sig1 := ""
    sig2 := "" }
  seller := {
    address := "sellerAddress"
    pubKey1 := "seller1"
    pubKey2 := "seller2"
    serverPubKey := "encrypted"
    depositTxid := "sellerDeposit"
    vouts := [0]
    sig1 := ""
    sig2 := "" }
  baseUsdWorth := 0
  quoteUsdWorth := 0
  amountChunk := C.coins 1
  totalChunk := C.coins 2

/-- A setup transaction before it is signed: its own chunk as the fee, the
output of the contract and some more outputs. -/
def unsignedSetup
    (deposit : Txid)
    (keys : ContractKeys)
    (chunk value : Int)
    (more : List CTxOut) : CTransaction where
  nVersion := 1
  vin := [⟨⟨deposit, 0⟩, .raw [], finalSequence⟩]
  vout :=
    ⟨chunk, .p2pkh (textBytes "fee")⟩ ::
      ⟨value, p2shScript BitcoinLib.transparent (bondRedeemScript keys .us)⟩ ::
        more
  nLockTime := 0

def registerBuyer (more : List CTxOut) : RegisterMsg CTransaction where
  txHex := unsignedSetup "buyerDeposit"
    ⟨("buyer1", "buyer2"), ("seller1", "seller2"), "arbiter"⟩ 200000000
    600000000 more
  pub1 := "buyer1"
  pub2 := "buyer2"
  sig1 := "sig:buyer1"
  sig2 := "sig:buyer2"
  instanceId := "buyerInstance"
  ident := "10.0.0.1:1"

def registerSeller (more : List CTxOut) : RegisterMsg CTransaction where
  txHex := unsignedSetup "sellerDeposit" sellerKeys 100000000 300000000 more
  pub1 := "seller1"
  pub2 := "seller2"
  sig1 := "sig:seller1"
  sig2 := "sig:seller2"
  instanceId := "sellerInstance"
  ident := "10.0.0.2:1"

/-- One side's handshake on the contract of an order. -/
def handshakeOf (key : PubKey) (orderHash : OrderHash) : Handshake :=
  let unsigned : Handshake := {
    version := "1"
    ntp := "0"
    rpc := "shake_on_it"
    contractHash := "contract of " ++ orderHash
    sig := "" }
  { unsigned with sig := namedEcdsa.sign key unsigned.signedText }

/-- One side's signed chunk size. -/
def collateralOf (keys : PubKey × PubKey) (chunkSize : C) : CollateralMsg :=
  let unsigned : CollateralMsg := {
    chunkSize := chunkSize.str
    pubArbiter := "arbiter"
    sig1 := ""
    pub1 := keys.1
    sig2 := ""
    pub2 := keys.2 }
  { unsigned with
    sig1 := namedEcdsa.sign keys.1 unsigned.signedText
    sig2 := namedEcdsa.sign keys.2 unsigned.signedText }

def matchBuyer : MatchMsg where
  contractMsg := serverContractMsg
  ours := handshakeOf "buyer1" "order"
  theirs := handshakeOf "seller1" "order"
  collateralInfo := collateralOf ("buyer1", "buyer2") (C.coins 1)
  instanceId := "buyerInstance"
  ident := "10.0.0.1:1"

def matchSeller : MatchMsg where
  contractMsg := serverContractMsg
  ours := handshakeOf "seller1" "order"
  theirs := handshakeOf "buyer1" "order"
  collateralInfo := collateralOf ("seller1", "seller2") (C.coins 2)
  instanceId := "sellerInstance"
  ident := "10.0.0.2:1"

/-- Both sides register and match once. -/
def serverEvents (more : List CTxOut) : List (ServerEvent CTransaction) := [
  .connectionMade "10.0.0.1:1",
  .connectionMade "10.0.0.2:1",
  .registerMsg (registerBuyer more),
  .registerMsg (registerSeller more),
  .matchMsg matchBuyer,
  .matchMsg matchSeller]

/-- The setups with a second contract output that nobody matches. -/
def lockedOnce : ContractServer CTransaction :=
  Machine.run (serverStep serverEnv) ContractServer.empty
    (serverEvents [⟨100000000, .p2pkh (textBytes "other")⟩])

/-- The same after the seller's message arrives again. -/
def lockedTwice : ContractServer CTransaction :=
  serverStep serverEnv lockedOnce (.matchMsg matchSeller)

end Sample

namespace ContractServer

/-- Setups with one contract output, matched once. -/
theorem serverRun_locks_sample :
    LocksValid (Machine.run (serverStep Sample.serverEnv) ContractServer.empty
        (Sample.serverEvents [])) ∧
      Machine.Allowed (serverStep Sample.serverEnv)
        (fun before event =>
          ReadyMatched Sample.serverEnv before
            (serverStep Sample.serverEnv before event))
        ContractServer.empty (Sample.serverEvents []) :=
  serverRun_locks Sample.serverEnv (Sample.serverEvents []) (by decide +kernel)

theorem lockedTwice_spec :
    Sample.lockedOnce.sent = [] ∧
      Sample.lockedTwice.sent.map (fun entry => entry.2.instanceId) =
        ["buyerInstance", "sellerInstance"] ∧
      (Sample.lockedTwice.instances.get? "buyerInstance").map (fun found =>
        (found.locked, found.details.contractVouts.length)) =
          some ([1, 1], 2) ∧
      ∀ works ∈ Sample.lockedTwice.matched, ∀ id,
        works.buyer ≠ ⟨id, 2⟩ ∧ works.seller ≠ ⟨id, 2⟩ := by
  refine ⟨by decide +kernel, by decide +kernel, by decide +kernel, ?_⟩
  have indices : ∀ works ∈ Sample.lockedTwice.matched,
      works.buyer.index = 1 ∧ works.seller.index = 1 := by
    decide +kernel
  intro works logged id
  obtain ⟨buyer, seller⟩ := indices works logged
  constructor
  · intro isSecond
    rw [isSecond] at buyer
    cases buyer
  · intro isSecond
    rw [isSecond] at seller
    cases seller

/-- A message that arrives twice locks its output twice, and `READY` goes out
although the second output of both setups is not matched. -/
theorem repeated_match_locks :
    ¬LocksValid Sample.lockedTwice ∧
      ¬ReadyMatched Sample.serverEnv Sample.lockedOnce Sample.lockedTwice := by
  obtain ⟨unsent, sent_eq, stored, never⟩ := lockedTwice_spec
  rw [Option.map_eq_some_iff] at stored
  obtain ⟨found, isFound, isTwice⟩ := stored
  rw [Prod.mk.injEq] at isTwice
  obtain ⟨locked, two_outputs⟩ := isTwice
  constructor
  · intro valid
    have nodup := (valid _ found isFound).1
    rw [locked] at nodup
    revert nodup
    decide
  · rintro ⟨new, sent, complete⟩
    rw [unsent, List.nil_append] at sent
    have to_buyer : "buyerInstance" ∈
        new.map fun entry => entry.2.instanceId := by
      rw [← sent, sent_eq]
      exact List.mem_cons_self
    rw [List.mem_map] at to_buyer
    obtain ⟨entry, isEntry, isBuyer⟩ := to_buyer
    obtain ⟨found', isFound', isMatched⟩ := complete entry isEntry
    rw [isBuyer, isFound, Option.some.injEq] at isFound'
    subst isFound'
    obtain ⟨works, logged, ⟨side, isSide⟩, _⟩ :=
      isMatched 2 (by decide) (by rw [two_outputs])
    obtain ⟨buyer, seller⟩ := never works logged entry.2.instanceId
    cases side with
    | buyer => exact buyer isSide
    | seller => exact seller isSide

end ContractServer
end Coinbend
