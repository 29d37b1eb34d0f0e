import Coinbend.Library.Machine
import Coinbend.Microtransfer.OutputValues

/-!
# Bookkeeping of the contract factory

What a sequence of `add_contract` and `remove_contract` calls keeps: the slots
reserved and left, the number of contracts and the output each contract is
given.  A repeated contract hash replaces a contract that stays reserved, and
a failing database insert leaves the contract stored.
-/

namespace Coinbend

variable {Hex : Type}

namespace MicrotransferFactory

/-- A call of `add_contract` or `remove_contract`, with the answers of the coin
daemon and of the database. -/
inductive Call
  | add
      (contractHash : ContractHash)
      (args : MicrotransferContract.Args)
      (rpc : CoinRpc)
      (save : Except PyError Unit)
  | remove (contractHash : ContractHash)

/-- One call.  `contract.save()` runs after the contract is recorded. -/
def call
    (env : MicrotransferEnv Hex)
    (coins : String → Option CoinConfig)
    (factory : MicrotransferFactory Hex) :
    Call → Outcome (MicrotransferFactory Hex) PyError Unit
  | .add contractHash args rpc save =>
      (factory.addContract env coins rpc contractHash args).bind
        fun factory _ =>
      Outcome.attempt factory save fun _ => Outcome.pure factory ()
  | .remove contractHash => factory.removeContract contractHash

/-- The factory after a call. -/
def callStep
    (env : MicrotransferEnv Hex)
    (coins : String → Option CoinConfig)
    (factory : MicrotransferFactory Hex)
    (call : Call) : MicrotransferFactory Hex :=
  (factory.call env coins call).state

/-- What the stored contracts reserve. -/
def reserved (factory : MicrotransferFactory Hex) : Nat :=
  (factory.contracts.values.map fun contract =>
    contract.trade.remaining.val).sum

/-- The contracts are numbered from one in the order of an entry list. -/
def Numbered
    (entries : List (ContractHash × MicrotransferContract Hex)) : Prop :=
  ∀ index entry, entries[index]? = some entry → entry.2.vout = index + 1

/-- The books of a factory that had some amount to reserve. -/
structure Bookkept (slots : C) (factory : MicrotransferFactory Hex) : Prop where
  slots : factory.trade.remaining.val + factory.total.val = slots.val
  total : factory.total.val = factory.reserved
  limit : factory.contracts.size ≤ maxContractLimit
  numbered : Numbered factory.contracts.entries

/-- A factory as its constructor leaves it. -/
structure Fresh (factory : MicrotransferFactory Hex) : Prop where
  contracts : factory.contracts = ∅
  total : factory.total = 0

theorem Fresh.bookkept
    {factory : MicrotransferFactory Hex}
    (fresh : Fresh factory) :
    Bookkept factory.trade.remaining factory where
  slots := by
    rw [fresh.total, C.val_zero, Nat.add_zero]
  total := by
    rw [fresh.total, reserved, fresh.contracts]
    rfl
  limit := by
    rw [fresh.contracts]
    exact Nat.zero_le _
  numbered := by
    intro index entry found
    rw [fresh.contracts] at found
    cases found

/-- A call that does not repeat a stored hash and whose database insert, if it
comes to one, succeeds. -/
def Orderly
    (env : MicrotransferEnv Hex)
    (coins : String → Option CoinConfig)
    (factory : MicrotransferFactory Hex) : Call → Prop
  | .add contractHash args rpc save =>
      (prepareContract env coins rpc factory args).isOk = true →
        factory.contracts.contains contractHash = false ∧ save = .ok ()
  | .remove _ => True

instance
    (env : MicrotransferEnv Hex)
    (coins : String → Option CoinConfig)
    (factory : MicrotransferFactory Hex) :
    (call : Call) → Decidable (Orderly env coins factory call)
  | .add contractHash args rpc save =>
      inferInstanceAs (Decidable
        ((prepareContract env coins rpc factory args).isOk = true →
          factory.contracts.contains contractHash = false ∧ save = .ok ()))
  | .remove _ => isTrue trivial

section Calls

variable {env : MicrotransferEnv Hex} {coins : String → Option CoinConfig}
variable {factory : MicrotransferFactory Hex}

/-- What the checks of `add_contract` establish. -/
theorem prepareContract_spec
    {rpc : CoinRpc}
    {args : MicrotransferContract.Args}
    {contract : MicrotransferContract Hex}
    (prepared : prepareContract env coins rpc factory args = .ok contract) :
    args.trade.remaining.val ≤ factory.trade.remaining.val ∧
      factory.contracts.size + 1 ≤ maxContractLimit ∧
      contract.trade = args.trade ∧
      contract.vout = factory.contracts.size + 1 := by
  simp only [prepareContract, Except.bind_eq_ok_iff,
    Except.raiseIf_eq_ok_iff] at prepared
  obtain ⟨_, _, _, room, _, limit, built, isBuilt, _, _, _, _, _, _,
    returned⟩ := prepared
  cases returned
  rw [C.lt_iff, Nat.not_lt] at room
  refine ⟨room, Nat.not_lt.mp limit, ?_⟩
  simp only [MicrotransferContract.new, Except.bind_eq_ok_iff] at isBuilt
  obtain ⟨_, _, _, _, _, _, _, _, _, _, _, _, _, _, _, _, _, _, _, _, _, _,
    returned⟩ := isBuilt
  cases returned
  exact ⟨rfl, rfl⟩

/-- A contract that passed the checks is stored. -/
theorem addContract_of_prepared
    {slots : C}
    (books : Bookkept slots factory)
    {rpc : CoinRpc}
    {args : MicrotransferContract.Args}
    {contract : MicrotransferContract Hex}
    (contractHash : ContractHash)
    (prepared : prepareContract env coins rpc factory args = .ok contract) :
    ∃ remaining total,
      factory.addContract env coins rpc contractHash args = Outcome.pure
        { factory with
          trade := { factory.trade with remaining }
          total
          contracts := factory.contracts.set contractHash contract }
        contract ∧
      remaining.val + args.trade.remaining.val = factory.trade.remaining.val ∧
      total.val = factory.total.val + args.trade.remaining.val := by
  obtain ⟨room, _, _, _⟩ := prepareContract_spec prepared
  obtain ⟨remaining, difference, remaining_val⟩ := C.sub_of_le room
  have total_le : factory.total.val + args.trade.remaining.val ≤ slots.val := by
    have := books.slots
    omega
  obtain ⟨total, sum, total_val⟩ := C.add_of_le total_le
  refine ⟨remaining, total, ?_, by omega, total_val⟩
  rw [addContract, prepared, Outcome.attempt_ok, difference, Outcome.attempt_ok]
  simp only [sum, Outcome.attempt_ok]

/-- A contract under a new hash keeps the books. -/
theorem Bookkept.store
    {slots : C}
    (books : Bookkept slots factory)
    {contractHash : ContractHash}
    {contract : MicrotransferContract Hex}
    {remaining total : C}
    (new : factory.contracts.get? contractHash = none)
    (room : factory.contracts.size + 1 ≤ maxContractLimit)
    (vout : contract.vout = factory.contracts.size + 1)
    (remaining_val : remaining.val + contract.trade.remaining.val =
      factory.trade.remaining.val)
    (total_val : total.val =
      factory.total.val + contract.trade.remaining.val) :
    Bookkept slots
      { factory with
        trade := { factory.trade with remaining }
        total
        contracts := factory.contracts.set contractHash contract } := by
  have entries := Dict.entries_set_of_new contract new
  exact {
    slots := by
      have := books.slots
      simp only
      omega
    total := by
      simp only [reserved, Dict.values, entries]
      rw [List.map_append, List.map_append, List.sum_append, total_val,
        books.total]
      simp [reserved, Dict.values]
    limit := by
      simp only [Dict.size, entries, List.length_append, List.length_singleton]
      exact room
    numbered := by
      intro index entry found
      simp only [entries] at found
      rcases Nat.lt_trichotomy index factory.contracts.entries.length with
        before | same | after
      · rw [List.getElem?_append_left before] at found
        exact books.numbered index entry found
      · subst same
        rw [List.getElem?_append_right (Nat.le_refl _), Nat.sub_self] at found
        cases found
        exact vout
      · rw [List.getElem?_eq_none] at found
        · cases found
        · rw [List.length_append, List.length_singleton]
          exact after }

/-- An orderly call keeps the books, and one that raises changes nothing. -/
theorem call_bookkept
    {slots : C}
    (books : Bookkept slots factory)
    {call : Call}
    (orderly : Orderly env coins factory call) :
    Bookkept slots (factory.callStep env coins call) ∧
      ((factory.call env coins call).result.isOk = false →
        factory.callStep env coins call = factory) := by
  cases call with
  | remove contractHash =>
      have same : factory.callStep env coins (.remove contractHash) =
          factory := by
        simp only [callStep, MicrotransferFactory.call, removeContract]
        split <;> rfl
      rw [same]
      exact ⟨books, fun _ => rfl⟩
  | add contractHash args rpc save =>
      cases prepared : prepareContract env coins rpc factory args with
      | error error =>
          have same : factory.callStep env coins
              (.add contractHash args rpc save) = factory := by
            simp only [callStep, MicrotransferFactory.call, addContract,
              prepared, Outcome.attempt_error]
            rfl
          rw [same]
          exact ⟨books, fun _ => rfl⟩
      | ok contract =>
          obtain ⟨isNew, rfl⟩ := orderly (by rw [prepared]; rfl)
          obtain ⟨_, room, trade, vout⟩ := prepareContract_spec prepared
          obtain ⟨remaining, total, stored, remaining_val, total_val⟩ :=
            addContract_of_prepared books contractHash prepared
          rw [← trade] at remaining_val total_val
          have new : factory.contracts.get? contractHash = none := by
            simpa [Dict.contains] using isNew
          have called : factory.call env coins
              (.add contractHash args rpc (.ok ())) = Outcome.pure
                { factory with
                  trade := { factory.trade with remaining }
                  total
                  contracts := factory.contracts.set contractHash contract }
                () := by
            rw [MicrotransferFactory.call, stored]
            rfl
          rw [callStep, called]
          constructor
          · exact books.store new room vout remaining_val total_val
          · intro raised
            cases raised

end Calls

/-! ## The outputs of the contracts -/

/-- The factory when its dictionary of contracts iterates in some order. -/
def iterating
    (factory : MicrotransferFactory Hex)
    (entries : List (ContractHash × MicrotransferContract Hex)) :
    MicrotransferFactory Hex :=
  { factory with contracts := ⟨entries⟩ }

/-- Every contract finds its own output of a transaction at its `vout`. -/
def OwnOutputs
    (env : MicrotransferEnv Hex)
    (factory : MicrotransferFactory Hex)
    (entries : List (ContractHash × MicrotransferContract Hex))
    (tx : CTransaction) : Prop :=
  ∀ index entry, entries[index]? = some entry →
    entry.2.vout = index + 1 ∧
      ∃ output, tx.vout[entry.2.vout]? = some output ∧
        factory.ContractOutput env entry.2 output

/-- Entries with the same numbers in another order are in the same order. -/
theorem eq_of_perm_numbered
    {entries others : List (ContractHash × MicrotransferContract Hex)}
    (same : entries.Perm others)
    (first : Numbered entries)
    (second : Numbered others) :
    entries = others := by
  have increasing {list : List (ContractHash × MicrotransferContract Hex)}
      (numbered : Numbered list) :
      list.Pairwise fun before after => before.2.vout < after.2.vout := by
    rw [List.pairwise_iff_getElem]
    intro i j hi hj less
    rw [numbered i list[i] (List.getElem?_eq_getElem hi),
      numbered j list[j] (List.getElem?_eq_getElem hj)]
    omega
  refine List.Perm.eq_of_pairwise ?_ (increasing first) (increasing second) same
  intro before after _ _ less greater
  exact absurd less (Nat.lt_asymm greater)

/-- In a transaction built in some iteration order the outputs are numbered in
that order. -/
theorem ownOutputs_of_numbered
    {env : MicrotransferEnv Hex}
    {config : Config}
    {factory : MicrotransferFactory Hex}
    {entries : List (ContractHash × MicrotransferContract Hex)}
    {tx : CTransaction}
    (numbered : Numbered entries)
    (built : (factory.iterating entries).setupTransaction env config =
      .ok tx) :
    OwnOutputs env factory entries tx := by
  obtain ⟨_, _, _, _, outputs, _, _, _, _, outputsFound, _, vout⟩ :=
    setupTransaction_spec built
  have paired := (contractOutputs_spec outputsFound).1
  intro index entry found
  have number := numbered index entry found
  refine ⟨number, ?_⟩
  have value : (factory.iterating entries).contracts.values[index]? =
      some entry.2 := by
    simp [iterating, Dict.values, found]
  obtain ⟨bound, isValue⟩ := List.getElem?_eq_some_iff.mp value
  have bound' : index < outputs.length := by
    rw [← paired.length_eq]
    exact bound
  refine ⟨outputs[index], ?_, ?_⟩
  · rw [number, vout, List.getElem?_cons_succ, List.getElem?_eq_getElem bound']
  · have isOutput := List.forall₂_iff_get.mp paired |>.2 index bound bound'
    rw [List.get_eq_getElem, isValue] at isOutput
    exact isOutput

/-- A run of calls. -/
def callRun
    (env : MicrotransferEnv Hex)
    (coins : String → Option CoinConfig)
    (factory : MicrotransferFactory Hex)
    (calls : List Call) : MicrotransferFactory Hex :=
  Machine.run (callStep env coins) factory calls

/-- In every run of orderly calls from a new factory the books are kept and a
raising call changes nothing; and each contract has its own output in every
setup transaction built in an iteration order exactly when that order is the
order of insertion. -/
theorem callRun_bookkept
    (env : MicrotransferEnv Hex)
    (coins : String → Option CoinConfig)
    {factory : MicrotransferFactory Hex}
    {calls : List Call}
    (fresh : Fresh factory)
    (orderly : Machine.Allowed (callStep env coins) (Orderly env coins) factory
      calls) :
    let final := factory.callRun env coins calls
    Bookkept factory.trade.remaining final ∧
      Machine.Allowed (callStep env coins)
        (fun before call => (before.call env coins call).result.isOk = false →
          before.callStep env coins call = before) factory calls ∧
      ∀ entries, entries.Perm final.contracts.entries →
        (Numbered entries ↔ entries = final.contracts.entries) ∧
        ∀ config tx,
          (final.iterating entries).setupTransaction env config = .ok tx →
          (OwnOutputs env final entries tx ↔
            entries = final.contracts.entries) := by
  have keeps (before : MicrotransferFactory Hex) (call : Call)
      (books : Bookkept factory.trade.remaining before)
      (isOrderly : Orderly env coins before call) :
      Bookkept factory.trade.remaining (before.callStep env coins call) ∧
        ((before.call env coins call).result.isOk = false →
          before.callStep env coins call = before) :=
    call_bookkept books isOrderly
  have books : Bookkept factory.trade.remaining
      (factory.callRun env coins calls) :=
    Machine.invariant_run (callStep env coins)
      (fun before call books isOrderly =>
        (keeps before call books isOrderly).1)
      fresh.bookkept orderly
  have ordered {entries : List (ContractHash × MicrotransferContract Hex)}
      (same : entries.Perm
        (factory.callRun env coins calls).contracts.entries) :
      Numbered entries ↔
        entries = (factory.callRun env coins calls).contracts.entries := by
    constructor
    · intro numbered
      exact eq_of_perm_numbered same numbered books.numbered
    · rintro rfl
      exact books.numbered
  refine ⟨books, ?_, ?_⟩
  · exact Machine.allowed_of_invariant (callStep env coins) keeps
      fresh.bookkept orderly
  · intro entries same
    refine ⟨ordered same, ?_⟩
    intro config tx built
    rw [← ordered same]
    constructor
    · intro own index entry found
      exact (own index entry found).1
    · intro numbered
      exact ownOutputs_of_numbered numbered built

end MicrotransferFactory

/-! ## A sample factory

Eight coins to sell, in contracts of four. -/

namespace Sample

def slotArgs : MicrotransferContract.Args where
  matched := 0
  trade := trade .sell
  keys := sellerKeys
  vout := 0
  ourAddress := "sellerAddress"
  theirAddress := "buyerAddress"
  chunkSizes := chunkSizes
  ntp := 0
  ourTxFee := 0
  theirTxFee := 0

/-- A call that stores a contract under some hash. -/
def addSlot (contractHash : ContractHash) : MicrotransferFactory.Call :=
  .add contractHash slotArgs
    { getnewaddress := .ok "sellerChange"
      getbalance := .error .jsonRpcException
      loadInputs := Outcome.raise [] .jsonRpcException } (.ok ())

end Sample

namespace MicrotransferFactory

/-- Two contracts fill the sample factory, and removing one raises. -/
theorem callRun_bookkept_sample :
    let calls := [Sample.addSlot "first", Sample.addSlot "second",
      .remove "first"]
    let final := Sample.slotFactory.callRun Sample.env Sample.freeCoins calls
    Bookkept (C.coins 8) final ∧ final.total = C.coins 8 ∧
      final.contracts.keys = ["first", "second"] := by
  have fresh : Fresh Sample.slotFactory := ⟨rfl, rfl⟩
  have orderly : Machine.Allowed (callStep Sample.env Sample.freeCoins)
      (Orderly Sample.env Sample.freeCoins) Sample.slotFactory
      [Sample.addSlot "first", Sample.addSlot "second", .remove "first"] := by
    decide +kernel
  refine ⟨(callRun_bookkept Sample.env Sample.freeCoins fresh orderly).1, ?_⟩
  decide +kernel

/-- A repeated hash reserves the slot again: eight coins are booked for one
contract of four, which is given the output of a second one. -/
theorem repeated_hash_books :
    let calls := [Sample.addSlot "first", Sample.addSlot "first"]
    let final := Sample.slotFactory.callRun Sample.env Sample.freeCoins calls
    final.total = C.coins 8 ∧ final.reserved = (C.coins 4).val ∧
      final.contracts.values.map MicrotransferContract.vout = [2] ∧
      ¬Bookkept (C.coins 8) final := by
  have books : ¬(C.coins 8).val = (C.coins 4).val := by decide
  refine ⟨by decide +kernel, by decide +kernel, by decide +kernel, ?_⟩
  intro kept
  have total := kept.total
  rw [show (Sample.slotFactory.callRun Sample.env Sample.freeCoins
      [Sample.addSlot "first", Sample.addSlot "first"]).total = C.coins 8 by
      decide +kernel,
    show (Sample.slotFactory.callRun Sample.env Sample.freeCoins
      [Sample.addSlot "first", Sample.addSlot "first"]).reserved =
        (C.coins 4).val by decide +kernel] at total
  exact books total

end MicrotransferFactory
end Coinbend
