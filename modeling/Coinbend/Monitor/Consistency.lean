import Coinbend.Monitor.Indexes
import Coinbend.Monitor.Visits

/-!
# What keeps the tables consistent

The operations of the monitor keep its tables consistent, and then raise no
missing-key error, as long as they are used where they can be: a new watch is
pending, has a new id and spends nothing that is watched, a watch has an event
when it is removed, and at most the last watch of the table is blamed for a
double spend.
-/

namespace Coinbend

open CoinWatches

variable {Hex : Type}

namespace CoinView

/-- The tables of a currency are consistent, and `watches_by_id` has what it
had for the other currencies. -/
structure Consistent
    (currency : String)
    (base : Dict WatchId String)
    (view : CoinView Hex) : Prop where
  ids : IdsMatch currency view.watchesById view.watching
  index : Indexed view.inputs view.watching
  lists : Listed view.blocks view.watching
  others : ∀ other id, other ≠ currency →
    (view.watchesById.get? id = some other ↔ base.get? id = some other)

variable {currency : String} {base : Dict WatchId String}
  {view : CoinView Hex} {id : WatchId} {watch : Watch Hex}

/-- Consistency is about the tables. -/
theorem Consistent.sameTables
    {after : CoinView Hex}
    (consistent : view.Consistent currency base)
    (same : SameTables view after) :
    after.Consistent currency base := by
  obtain ⟨ids, index, lists, others⟩ := consistent
  obtain ⟨tables, byId⟩ := same
  refine ⟨?_, ?_, ?_, ?_⟩
  · rw [byId, tables]
    exact ids
  · rw [tables]
    exact index
  · rw [tables]
    exact lists
  · rw [byId]
    exact others

/-- The ids of the table are in `watches_by_id`. -/
theorem Consistent.byId
    (consistent : view.Consistent currency base)
    (found : view.watching.get? id = some watch) :
    view.watchesById.get? id = some currency :=
  (consistent.ids.ids id).mpr (Dict.mem_keys_of_get? found)

/-- A watch with an event is in the list of its block. -/
theorem Consistent.inBlock
    (consistent : view.Consistent currency base)
    (found : view.watching.get? id = some watch)
    (present : watch.event ≠ none) :
    ∃ hash ids, watch.block = some hash ∧ view.blocks.get? hash = some ids ∧
      id ∈ ids := by
  obtain ⟨hash, block⟩ := consistent.lists.filed id watch found present
  have mem := (consistent.lists.listed id watch found hash).mpr
    ⟨present, block⟩
  unfold seenIn at mem
  cases stored : view.blocks.get? hash with
  | none =>
      rw [stored] at mem
      cases mem
  | some ids =>
      rw [stored] at mem
      exact ⟨hash, ids, block, stored, mem⟩

/-! ## Callbacks -/

theorem within_doCallback
    {answers : CallbackAnswers}
    {code : Code}
    {fired : Fired Hex}
    (consistent : view.Consistent currency base)
    (found : view.watching.get? fired.id = some watch) :
    Outcome.Within (SameTables view) .keyError
      (view.doCallback answers (some code) fired) := by
  refine ⟨doCallback_tables _ _ _ _, ?_⟩
  unfold doCallback runCallback updateWatch
  intro failed
  unfold Outcome.bind at failed
  dsimp only at failed
  by_cases runs : answers.runs fired.id = false
  · rw [runs] at failed
    cases failed
  · rw [Except.raiseIf, if_neg runs] at failed
    simp only [Outcome.attempt_ok, Outcome.pure_result, Outcome.pure_state]
      at failed
    rw [consistent.byId found] at failed
    by_cases stores : answers.stores fired.id = false
    · simp only [Except.ofOption, Outcome.attempt_ok, Except.raiseIf,
        if_pos stores, Outcome.attempt_error] at failed
      cases failed
    · simp only [Except.ofOption, Outcome.attempt_ok, Except.raiseIf,
        if_neg stores] at failed
      cases failed

/-! ## Removing a watch -/

/-- Taking a watch out of the list of its block. -/
theorem removeSeen_spec
    {hash : BlockHash}
    {ids : List WatchId}
    (found : view.watching.get? id = some watch)
    (block : watch.block = some hash)
    (listed : view.blocks.get? hash = some ids) :
    view.removeSeen id =
      Outcome.pure { view with blocks := unlist view.blocks hash id } () := by
  unfold removeSeen unlist seenIn
  rw [found, listed]
  simp only [Except.ofOption, Outcome.attempt_ok, block, listed,
    Option.getD_some]

/-- Removing a watch with an event. -/
theorem removeWatch_spec
    (consistent : view.Consistent currency base)
    (found : view.watching.get? id = some watch)
    (present : watch.event ≠ none) :
    ∃ after, view.removeWatch id = Outcome.pure after () ∧
      after.Consistent currency base ∧
      after.watching = view.watching.erase id ∧
      after.fired = view.fired := by
  obtain ⟨hash, ids, block, listed, _⟩ := consistent.inBlock found present
  have indexed := consistent.index
  have allPresent : ∀ prevout ∈ watch.inputs,
      prevout.n ∈ indices view.inputs prevout.hash := by
    intro prevout spends
    exact (indexed.holds prevout).mpr ⟨id, watch, found, spends⟩
  obtain ⟨left, removed, clean, holds⟩ := @removeInputs_spec _
    { view with watchesById := view.watchesById.erase id } watch.inputs
    indexed.clean (indexed.own id watch found) allPresent
  have seen := @removeSeen_spec _
    (CoinView.withInputs
      { view with watchesById := view.watchesById.erase id } left)
    id watch hash ids found block listed
  refine ⟨({ view with
      watchesById := view.watchesById.erase id
      inputs := left
      blocks := unlist view.blocks hash id } : CoinView Hex).popWatch id,
    ?_, ?_, rfl, rfl⟩
  · unfold removeWatch
    rw [found, consistent.byId found]
    simp only [Except.ofOption, Outcome.attempt_ok, removed]
    rw [Outcome.bind_of_ok (Outcome.pure_result _ _), Outcome.pure_state, seen]
    rfl
  · refine ⟨consistent.ids.remove id, ?_, consistent.lists.remove found block,
      ?_⟩
    · exact indexed.remove found clean holds
    · intro other found otherCurrency
      change (view.watchesById.erase id).get? found = some other ↔ _
      rw [Dict.get?_erase, ← consistent.others other found otherCurrency]
      split
      next same =>
        subst same
        refine iff_of_false (Option.some_ne_none other).symm ?_
        intro isOther
        rw [consistent.byId ‹_›, Option.some.injEq] at isOther
        exact otherCurrency isOther.symm
      · exact Iff.rfl

/-! ## Changing a watch -/

/-- A watch that keeps its needle, its block and whether it has an event. -/
theorem Consistent.put
    {after : Watch Hex}
    (consistent : view.Consistent currency base)
    (found : view.watching.get? id = some watch)
    (inputs : after.inputs = watch.inputs)
    (event : after.event = none ↔ watch.event = none)
    (block : after.block = watch.block)
    (counted : after.event = none → after.confirmations = 0) :
    (view.putWatch id after).Consistent currency base where
  ids := consistent.ids.put found after
  index := consistent.index.put found inputs
  lists := consistent.lists.put found event block counted
  others := consistent.others

/-- A pending watch that finds something. -/
theorem Consistent.find
    {after : Watch Hex}
    {hash : BlockHash}
    (consistent : view.Consistent currency base)
    (found : view.watching.get? id = some watch)
    (pending : watch.event = none)
    (inputs : after.inputs = watch.inputs)
    (event : after.event ≠ none)
    (block : after.block = some hash) :
    ((view.putWatch id after).saveBlock hash id).Consistent currency base where
  ids := consistent.ids.put found after
  index := consistent.index.put found inputs
  lists := consistent.lists.find found pending event block
  others := consistent.others

/-! ## Orphans -/

theorem within_orphanWatch
    (consistent : view.Consistent currency base)
    {hash : BlockHash}
    (listed : id ∈ seenIn view.blocks hash) :
    Outcome.Within (fun after : CoinView Hex =>
        after.Consistent currency base ∧
          after.watching.keys = view.watching.keys ∧
          ∀ other, other ≠ hash →
            after.blocks.get? other = view.blocks.get? other)
      .keyError (view.orphanWatch id) := by
  obtain ⟨watch, found⟩ := Dict.exists_get?_of_mem_keys _
    (consistent.lists.watches hash id listed)
  obtain ⟨present, block⟩ :=
    (consistent.lists.listed id watch found hash).mp listed
  have isFound : Except.ofOption PyError.keyError (view.watching.get? id) =
      .ok watch := by
    rw [found]
    rfl
  unfold orphanWatch
  rw [isFound, Outcome.attempt_ok]
  split
  · exact Outcome.within_pure () ⟨consistent, rfl, fun _ _ => rfl⟩
  split
  · obtain ⟨ids, stored⟩ : ∃ ids, view.blocks.get? hash = some ids := by
      cases stored : view.blocks.get? hash with
      | none =>
          rw [seenIn, stored] at listed
          cases listed
      | some ids => exact ⟨ids, rfl⟩
    have stillFound : (view.putWatch id
        { watch with confirmations := 0, event := none }).watching.get? id =
          some { watch with confirmations := 0, event := none } :=
      Dict.get?_set_same _ _ _
    rw [removeSeen_spec stillFound block stored]
    refine Outcome.within_pure () ⟨?_, Dict.keys_set_of_get? found _, ?_⟩
    · exact {
        ids := consistent.ids.put found _
        index := consistent.index.put found rfl
        lists := consistent.lists.lose found block rfl rfl
        others := consistent.others }
    · intro other different
      change (unlist view.blocks hash id).get? other = _
      unfold unlist
      split
      · rw [Dict.get?_erase, if_neg different]
      · rw [Dict.get?_set_of_ne _ _ different]
  · refine Outcome.within_pure () ⟨?_, Dict.keys_set_of_get? found _,
      fun _ _ => rfl⟩
    exact consistent.put found rfl Iff.rfl rfl
      fun absent => absurd absent present

theorem within_orphanSeen
    (hash : BlockHash)
    (left index : Nat)
    (consistent : view.Consistent currency base) :
    Outcome.Within (fun after : CoinView Hex =>
        after.Consistent currency base ∧
          after.watching.keys = view.watching.keys ∧
          ∀ other, other ≠ hash →
            after.blocks.get? other = view.blocks.get? other)
      .keyError (orphanSeen hash left index view) := by
  induction left generalizing index view with
  | zero =>
      exact Outcome.within_pure () ⟨consistent, rfl, fun _ _ => rfl⟩
  | succ left inductionHypothesis =>
      unfold orphanSeen
      split
      · exact Outcome.within_pure () ⟨consistent, rfl, fun _ _ => rfl⟩
      next id isId =>
        have listed : id ∈ seenIn view.blocks hash :=
          List.mem_of_getElem? isId
        refine Outcome.within_bind (within_orphanWatch consistent listed)
          (fun _ kept => kept) ?_
        rintro _ _ ⟨kept, keys, lists⟩
        refine (inductionHypothesis (index + 1) kept).imp ?_
        rintro after ⟨keptAfter, keysAfter, listsAfter⟩
        exact ⟨keptAfter, keysAfter.trans keys, fun other different =>
          (listsAfter other different).trans (lists other different)⟩

/-- Dropping a list that is empty changes no list. -/
theorem dropEmpty_eq
    (consistent : view.Consistent currency base)
    (hash : BlockHash) :
    (view.dropEmpty hash).blocks.get? = view.blocks.get? ∧
      (view.dropEmpty hash).Consistent currency base ∧
      (view.dropEmpty hash).watching = view.watching := by
  unfold dropEmpty
  split
  next empty =>
    have missing : view.blocks.get? hash = none := by
      cases stored : view.blocks.get? hash with
      | none => rfl
      | some ids =>
          rw [stored] at empty
          exact absurd empty (consistent.lists.nonempty hash ids stored)
    have same : (view.blocks.erase hash).get? = view.blocks.get? := by
      funext other
      rw [Dict.get?_erase]
      split
      next isHash => rw [isHash, missing]
      · rfl
    have seen : ∀ other,
        seenIn (view.blocks.erase hash) other = seenIn view.blocks other := by
      intro other
      rw [seenIn, same]
      rfl
    refine ⟨same, ⟨consistent.ids, consistent.index, ?_, consistent.others⟩,
      rfl⟩
    obtain ⟨listed, filed, watches, once, nonempty, counted, hashes⟩ :=
      consistent.lists
    refine ⟨?_, filed, ?_, ?_, ?_, counted,
      Dict.nodup_keys_erase hashes hash⟩
    · intro id watch found other
      rw [seen]
      exact listed id watch found other
    · intro other id mem
      exact watches other id (seen other ▸ mem)
    · intro other
      rw [seen]
      exact once other
    · intro other ids stored
      exact nonempty other ids (same ▸ stored)
  · exact ⟨rfl, consistent, rfl⟩

theorem within_orphanBlocks
    {hashes : List BlockHash}
    (distinct : hashes.Nodup)
    (stored : ∀ hash ∈ hashes, ∃ ids, view.blocks.get? hash = some ids)
    (consistent : view.Consistent currency base) :
    Outcome.Within (fun after : CoinView Hex =>
        after.Consistent currency base ∧
          after.watching.keys = view.watching.keys)
      .keyError (orphanBlocks hashes view) := by
  induction hashes generalizing view with
  | nil => exact Outcome.within_pure () ⟨consistent, rfl⟩
  | cons hash hashes inductionHypothesis =>
      rw [List.nodup_cons] at distinct
      obtain ⟨ids, isStored⟩ := stored hash List.mem_cons_self
      have found : Except.ofOption PyError.keyError (view.blocks.get? hash) =
          .ok ids := by
        rw [isStored]
        rfl
      rw [orphanBlocks, found, Outcome.attempt_ok]
      refine Outcome.within_bind
        (within_orphanSeen hash ids.length 0 consistent)
        (fun _ kept => ⟨kept.1, kept.2.1⟩) ?_
      rintro _ _ ⟨kept, keys, lists⟩
      obtain ⟨sameLists, keptDropped, sameWatching⟩ := dropEmpty_eq kept hash
      have later : ∀ other ∈ hashes, ∃ otherIds,
          ((orphanSeen hash ids.length 0 view).state.dropEmpty
            hash).blocks.get? other = some otherIds := by
        intro other mem
        obtain ⟨otherIds, isStored⟩ := stored other (List.mem_cons_of_mem _ mem)
        have different : other ≠ hash := by
          rintro rfl
          exact distinct.1 mem
        refine ⟨otherIds, ?_⟩
        rw [sameLists, lists other different]
        exact isStored
      refine (inductionHypothesis distinct.2 later keptDropped).imp ?_
      rintro after ⟨keptAfter, keysAfter⟩
      exact ⟨keptAfter, by rw [keysAfter, sameWatching, keys]⟩

theorem within_processOrphan
    (hash : BlockHash)
    (consistent : view.Consistent currency base) :
    Outcome.Within (Consistent currency base) .keyError
      (view.processOrphan hash) := by
  have stored : ∀ hash ∈ view.blocks.keys,
      ∃ ids, view.blocks.get? hash = some ids := fun _ mem =>
    Dict.exists_get?_of_mem_keys _ mem
  refine Outcome.within_bind
    (within_orphanBlocks consistent.lists.hashes stored consistent)
    (fun _ kept => kept.1) ?_
  rintro _ _ ⟨kept, _⟩
  refine Outcome.within_pure () ?_
  unfold clearProcessed
  split
  · exact ⟨kept.ids, kept.index, kept.lists, kept.others⟩
  · exact kept

/-! ## Blocks -/

variable [DecidableEq Hex] {env : MonitorEnv Hex} {block : Block}
  {txHexs : List Hex} {answers : CallbackAnswers} {locals : BlockLoop Hex}

/-- Reading the addresses of a transaction raises no missing-key error, if the
needle is one that makes the monitor read them. -/
def Readable
    (env : MonitorEnv Hex)
    (currency : String)
    (needle : Needle Hex)
    (tx : CTransaction) : Prop :=
  match needle with
  | .address _ _ => parseAddress env currency tx ≠ .error .keyError
  | _ => True

instance
    (env : MonitorEnv Hex)
    (currency : String)
    (needle : Needle Hex)
    (tx : CTransaction) :
    Decidable (Readable env currency needle tx) :=
  match needle with
  | .address _ _ => inferInstanceAs (Decidable (_ ≠ _))
  | .txHex _ | .txid _ | .other _ _ => .isTrue trivial

/-- The transactions of a block can be read for every watch. -/
def BlockReadable
    (env : MonitorEnv Hex)
    (currency : String)
    (txHexs : List Hex)
    (view : CoinView Hex) : Prop :=
  ∀ id watch, view.watching.get? id = some watch →
    ∀ txHex ∈ txHexs, ∀ tx ∈ env.lib.deserialize txHex,
      Readable env currency watch.needle tx

instance
    (env : MonitorEnv Hex)
    (currency : String)
    (txHexs : List Hex)
    (view : CoinView Hex) :
    Decidable (BlockReadable env currency txHexs view) :=
  inferInstanceAs (Decidable (∀ id watch,
    view.watching.get? id = some watch → _))

theorem scan_ne_keyError
    {inputs : Dict Txid (List Nat)}
    {needle : Needle Hex}
    {tx : Option CTransaction}
    (readable : ∀ txHex ∈ txHexs, ∀ tx ∈ env.lib.deserialize txHex,
      Readable env currency needle tx) :
    scan env currency inputs id needle txHexs tx ≠ .error .keyError := by
  induction txHexs generalizing tx with
  | nil =>
      intro same
      cases same
  | cons txHex txHexs inductionHypothesis =>
      have later : ∀ tx,
          scan env currency inputs id needle txHexs tx ≠ .error .keyError :=
        fun tx => inductionHypothesis fun other mem =>
          readable other (List.mem_cons_of_mem _ mem)
      unfold scan
      refine Except.bind_ne_error (Except.ofOption_ne_error _ (by decide)) ?_
      intro parsed isParsed
      rw [BitcoinLib.parse_eq_ok_iff] at isParsed
      cases needle with
      | txHex value =>
          dsimp only
          cases needleEvent env value txHex with
          | some event =>
              intro same
              cases same
          | none =>
              refine Except.bind_ne_error (later _) ?_
              intro rest _
              split <;>
                · intro same
                  cases same
      | address type value =>
          refine Except.bind_ne_error
            (readable txHex List.mem_cons_self parsed isParsed) ?_
          intro ret _
          refine Except.bind_ne_error (Except.raiseIf_ne_error _ (by decide)) ?_
          intro _ _
          exact later _
      | txid value => exact later _
      | other type value => exact later _

/-- Looking for a watch. -/
theorem within_lookFor
    (consistent : view.Consistent currency base)
    (found : view.watching.get? id = some watch)
    (readable : ∀ txHex ∈ txHexs, ∀ tx ∈ env.lib.deserialize txHex,
      Readable env currency watch.needle tx) :
    Outcome.Within (Consistent currency base) .keyError
      (view.lookFor env currency block txHexs id locals) := by
  have isFound : Except.ofOption PyError.keyError (view.watching.get? id) =
      .ok watch := by
    rw [found]
    rfl
  unfold lookFor
  rw [isFound, Outcome.attempt_ok]
  split
  next present =>
    refine Outcome.within_pure _ ?_
    exact consistent.put found rfl Iff.rfl rfl
      fun absent => absurd absent present
  next pending =>
    refine Outcome.within_attempt consistent (scan_ne_keyError readable) ?_
    intro scanned _
    dsimp only
    split
    · exact Outcome.within_pure _ consistent
    · refine Outcome.within_pure _ ?_
      exact consistent.find found (not_not.mp pending) rfl
        (Option.some_ne_none _) rfl

omit [DecidableEq Hex] in
/-- Announcing a watch. -/
theorem within_announce
    (positive : 0 < env.confirmations)
    (consistent : view.Consistent currency base)
    (found : view.watching.get? id = some watch) :
    Outcome.Within (Consistent currency base) .keyError
      (view.announce env answers id locals) := by
  refine ⟨consistent.sameTables announce_tables, ?_⟩
  have isFound : Except.ofOption PyError.keyError (view.watching.get? id) =
      .ok watch := by
    rw [found]
    rfl
  unfold announce
  rw [isFound, Outcome.attempt_ok]
  split
  next reached =>
    obtain ⟨event, isEvent⟩ : ∃ event, watch.event = some event := by
      cases isEvent : watch.event with
      | some event => exact ⟨event, rfl⟩
      | none =>
          have none_counted := consistent.lists.counted id watch found isEvent
          omega
    rw [isEvent]
    refine Outcome.attempt_result_ne ?_ ?_
    · intro same
      cases same
    intro event' _
    dsimp only
    have all : ∀ state : CoinView Hex, True → True := fun _ kept => kept
    refine (Outcome.within_bind ?_ all ?_).2
    · split
      · exact Outcome.within_pure () trivial
      next code _ =>
        exact (within_doCallback consistent found).imp fun _ _ => trivial
    · exact fun _ _ _ => Outcome.within_pure _ trivial
  · intro same
    cases same

theorem within_visitWatches
    {done ids : List WatchId}
    {start : CoinView Hex}
    (positive : 0 < env.confirmations)
    (readable : BlockReadable env currency txHexs start)
    (visited : Visited env currency block txHexs done start view)
    (distinct : (done ++ ids).Nodup)
    (exist : ∀ id ∈ ids, id ∈ start.watching.keys)
    (consistent : view.Consistent currency base) :
    Outcome.Within (Consistent currency base) .keyError
      (visitWatches env currency block txHexs answers ids view locals) := by
  induction ids generalizing done view locals with
  | nil => exact Outcome.within_pure _ consistent
  | cons id ids inductionHypothesis =>
      have new : id ∉ done := by
        intro mem
        rw [List.nodup_append] at distinct
        exact distinct.2.2 id mem id List.mem_cons_self rfl
      obtain ⟨watch, found⟩ :=
        Dict.exists_get?_of_mem_keys _ (exist id List.mem_cons_self)
      have foundNow : view.watching.get? id = some watch :=
        (visited.get?_of_notMem new).trans found
      have once : Outcome.Within (Consistent currency base) .keyError
          (view.visitWatch env currency block txHexs answers id locals) := by
        refine Outcome.within_bind
          (within_lookFor consistent foundNow (readable id watch found))
          (fun _ kept => kept) ?_
        intro between looked kept
        obtain ⟨put, _⟩ := lookFor_spec foundNow looked
        have foundAfter : ∃ after, (view.lookFor env currency block txHexs id
            locals).state.watching.get? id = some after := by
          rw [put, Dict.get?_set_same]
          exact ⟨_, rfl⟩
        obtain ⟨after, isAfter⟩ := foundAfter
        exact within_announce positive kept isAfter
      refine Outcome.within_bind once (fun _ kept => kept) ?_
      intro between returned kept
      have visitedOnce := (visitWatch_spec visited new returned).1
      have split : done ++ id :: ids = done ++ [id] ++ ids := by
        rw [List.append_assoc, List.singleton_append]
      exact inductionHypothesis visitedOnce (split ▸ distinct)
        (fun other mem => exist other (List.mem_cons_of_mem _ mem)) kept

omit [DecidableEq Hex] in
/-- Removing old watches. -/
theorem within_removeOldWatches
    {ids : List WatchId}
    (distinct : ids.Nodup)
    (consistent : view.Consistent currency base)
    (old : ∀ id ∈ ids, ∃ watch, view.watching.get? id = some watch ∧
      watch.event ≠ none) :
    Outcome.Within (Consistent currency base) .keyError
      (removeOldWatches ids view) := by
  induction ids generalizing view with
  | nil => exact Outcome.within_pure () consistent
  | cons id ids inductionHypothesis =>
      rw [List.nodup_cons] at distinct
      obtain ⟨watch, found, present⟩ := old id List.mem_cons_self
      have later := fun other mem => old other (List.mem_cons_of_mem id mem)
      have isFound : Except.ofOption PyError.keyError (view.watching.get? id) =
          .ok watch := by
        rw [found]
        rfl
      have removes : Outcome.Within (Consistent currency base) .keyError
          ((view.removeWatch id).bind fun view _ =>
            removeOldWatches ids view) := by
        obtain ⟨after, removed, kept, watching, _⟩ :=
          removeWatch_spec consistent found present
        rw [removed, Outcome.bind_of_ok (Outcome.pure_result _ _),
          Outcome.pure_state]
        refine inductionHypothesis distinct.2 kept ?_
        intro other mem
        obtain ⟨otherWatch, isOther, otherPresent⟩ := later other mem
        refine ⟨otherWatch, ?_, otherPresent⟩
        have different : other ≠ id := by
          rintro rfl
          exact distinct.1 mem
        rw [watching, Dict.get?_erase, if_neg different]
        exact isOther
      rw [removeOldWatches, isFound, Outcome.attempt_ok]
      split
      · exact removes
      · exact removes
      · exact inductionHypothesis distinct.2 consistent later

/-- The blame is put on nobody, or once and on the last watch of the table,
which found nothing. -/
def OnLast
    (env : MonitorEnv Hex)
    (currency : String)
    (txHexs : List Hex)
    (view : CoinView Hex) : List (DoubleSpend Hex) → Prop
  | [] => True
  | [doubleSpend] =>
      view.watching.keys.getLast? = some doubleSpend.watchId ∧
        ∀ watch ∈ view.watching.get? doubleSpend.watchId,
          watch.finds env currency view.inputs txHexs doubleSpend.watchId =
            none
  | _ :: _ :: _ => False

instance
    (env : MonitorEnv Hex)
    (currency : String)
    (txHexs : List Hex)
    (view : CoinView Hex)
    (doubleSpends : List (DoubleSpend Hex)) :
    Decidable (OnLast env currency txHexs view doubleSpends) :=
  match doubleSpends with
  | [] => .isTrue trivial
  | [_] => inferInstanceAs (Decidable (_ ∧ _))
  | _ :: _ :: _ => .isFalse False.elim

/-- A block puts the blame where the block list does. -/
def BlamesLast
    (env : MonitorEnv Hex)
    (currency : String)
    (block : Block)
    (txHexs : List Hex)
    (view : CoinView Hex) : Prop :=
  OnLast env currency txHexs view (blamed env currency block txHexs view)

instance
    (env : MonitorEnv Hex)
    (currency : String)
    (block : Block)
    (txHexs : List Hex)
    (view : CoinView Hex) :
    Decidable (BlamesLast env currency block txHexs view) :=
  inferInstanceAs (Decidable (OnLast _ _ _ _ _))

theorem within_processBlock
    {tx : Option CTransaction}
    (positive : 0 < env.confirmations)
    (readable : BlockReadable env currency txHexs view)
    (blames : BlamesLast env currency block txHexs view)
    (consistent : view.Consistent currency base) :
    Outcome.Within (Consistent currency base) .keyError
      (view.processBlock env currency block txHexs answers tx) := by
  have distinct := consistent.ids.distinct
  have visits : Outcome.Within (Consistent currency base) .keyError
      (visitWatches env currency block txHexs answers view.watching.keys view
        ⟨[], [], tx⟩) :=
    within_visitWatches positive readable (Visited.refl view) distinct
      (fun _ mem => mem) consistent
  rcases @processBlock_cases _ _ env currency block txHexs answers view distinct
    tx with ⟨ids, error, _, _, raised, raises⟩ | ⟨after, last, isAfter, visited,
      returns, _⟩
  · refine ⟨?_, ?_⟩
    · have stopped : (view.processBlock env currency block txHexs answers
          tx).state = (visitWatches env currency block txHexs answers
            view.watching.keys view ⟨[], [], tx⟩).state := by
        rw [processBlock, Outcome.bind, raised]
        rfl
      rw [stopped]
      exact visits.1
    · rw [raises]
      intro same
      rw [Except.error.inj same] at raised
      exact visits.2 raised
  rw [returns]
  have kept : after.Consistent currency base := isAfter ▸ visits.1
  have grown : ∀ id ∈ view.watching.keys.filter
      (growsOld env currency block txHexs view),
      ∃ watch, after.watching.get? id = some watch ∧ watch.event ≠ none := by
    intro id mem
    obtain ⟨isKey, grows⟩ := List.mem_filter.mp mem
    obtain ⟨watch, found⟩ := Dict.exists_get?_of_mem_keys _ isKey
    rw [growsOld, found] at grows
    have reached := of_decide_eq_true grows
    refine ⟨_, visited.get?_of_mem isKey found, ?_⟩
    intro absent
    have none_counted := kept.lists.counted id _
      (visited.get?_of_mem isKey found) absent
    omega
  have acted : ((blamed env currency block txHexs view).foldl (actOn block)
        after).Consistent currency base ∧
      ∀ id watch, after.watching.get? id = some watch → watch.event ≠ none →
        ∃ later, ((blamed env currency block txHexs view).foldl (actOn block)
          after).watching.get? id = some later ∧ later.event ≠ none := by
    obtain nobody | ⟨doubleSpend, once, isLast, nothing⟩ :
        blamed env currency block txHexs view = [] ∨
          ∃ doubleSpend,
            blamed env currency block txHexs view = [doubleSpend] ∧
            view.watching.keys.getLast? = some doubleSpend.watchId ∧
            ∀ watch ∈ view.watching.get? doubleSpend.watchId,
              watch.finds env currency view.inputs txHexs
                doubleSpend.watchId = none := by
      unfold BlamesLast at blames
      generalize blamed env currency block txHexs view = acted at blames ⊢
      cases acted with
      | nil => exact Or.inl rfl
      | cons doubleSpend others =>
          cases others with
          | nil => exact Or.inr ⟨doubleSpend, rfl, blames⟩
          | cons _ _ => exact blames.elim
    · rw [nobody]
      exact ⟨kept, fun id watch found present => ⟨watch, found, present⟩⟩
    rw [once]
    have suspected : doubleSpend ∈ suspicions env currency txHexs view := by
      apply mem_of_mem_blame
      rw [blamed] at once
      rw [once]
      exact List.mem_singleton_self doubleSpend
    obtain ⟨watch, value, spender, found, pending, _⟩ :=
      of_mem_suspicions suspected
    have foundAfter : after.watching.get? doubleSpend.watchId = some watch := by
      rw [visited.get?_of_mem (Dict.mem_keys_of_get? found) found,
        Watch.visited_of_finds_none env pending (nothing watch found)]
    change ((after.actOn block doubleSpend).Consistent currency base) ∧ _
    have isActed := @actOn_of_get? _ block after watch doubleSpend foundAfter
    rw [visited.keys, isLast, Option.getD_some] at isActed
    rw [List.foldl_cons, List.foldl_nil, isActed]
    refine ⟨?_, ?_⟩
    · exact kept.find foundAfter pending rfl (Option.some_ne_none _) rfl
    · intro id other isOther present
      change ∃ later, (after.watching.set _ _).get? id = some later ∧ _
      rw [Dict.get?_set]
      split
      · exact ⟨_, rfl, Option.some_ne_none _⟩
      · exact ⟨other, isOther, present⟩
  refine Outcome.within_bind
    (within_removeOldWatches (distinct.filter _) acted.1 ?_)
    (fun _ kept => kept) ?_
  · intro id mem
    obtain ⟨watch, found, present⟩ := grown id mem
    exact acted.2 id watch found present
  · intro _ _ kept
    exact Outcome.within_pure _
      ⟨kept.ids, kept.index, kept.lists, kept.others⟩

/-! ## Arrivals -/

/-- An arrival leaves the watch with another callback, unless it has an event
and may be removed. -/
def ArrivalsFit
    (env : MonitorEnv Hex)
    (currency : String)
    (tx : Option CTransaction)
    (txHexs : List Hex)
    (view : CoinView Hex) : Prop :=
  ∀ id watch, view.watching.get? id = some watch → ∀ txHex ∈ txHexs,
    (∀ spender ∈ tx, Readable env currency watch.needle spender) ∧
    (hasArrived env currency tx watch txHex = .ok true →
      watch.callback.arrival ≠ none →
      watch.event ≠ none ∨
        { watch.callback with arrival := none } ≠ Callbacks.none)

instance
    (env : MonitorEnv Hex)
    (currency : String)
    (tx : Option CTransaction)
    (txHexs : List Hex)
    (view : CoinView Hex) :
    Decidable (ArrivalsFit env currency tx txHexs view) :=
  inferInstanceAs (Decidable (∀ id watch,
    view.watching.get? id = some watch → _))

theorem hasArrived_ne_keyError
    {tx : Option CTransaction}
    {txHex : Hex}
    (readable : ∀ spender ∈ tx, Readable env currency watch.needle spender) :
    hasArrived env currency tx watch txHex ≠ .error .keyError := by
  unfold hasArrived
  split
  · intro same
    cases same
  next type value needle =>
    refine Except.bind_ne_error (Except.ofOption_ne_error _ (by decide)) ?_
    intro spender isSpender
    rw [Except.ofOption_eq_ok_iff] at isSpender
    have reads := readable spender isSpender
    rw [needle] at reads
    refine Except.bind_ne_error reads ?_
    intro ret _
    refine Except.bind_ne_error (Except.raiseIf_ne_error _ (by decide)) ?_
    intro _ _ same
    cases same
  · intro same
    cases same

omit [DecidableEq Hex] in
theorem within_arrive
    {txHex : Hex}
    (consistent : view.Consistent currency base)
    (found : view.watching.get? id = some watch)
    (fits : watch.callback.arrival ≠ none →
      watch.event ≠ none ∨
        { watch.callback with arrival := none } ≠ Callbacks.none) :
    Outcome.Within (fun after : CoinView Hex =>
        after.Consistent currency base ∧
          ∀ other, other ≠ id →
            after.watching.get? other = view.watching.get? other)
      .keyError (view.arrive answers id watch txHex) := by
  unfold arrive
  split
  · exact Outcome.within_pure () ⟨consistent, fun _ _ => rfl⟩
  next code isCode =>
    have runs : Outcome.Within (SameTables view) .keyError
        (view.runCallback answers (some code)
          ⟨id, .arrival, some txHex, watch.confirmations⟩) := by
      refine Outcome.within_attempt ⟨rfl, rfl⟩
        (Except.raiseIf_ne_error _ (by decide)) ?_
      exact fun _ _ => Outcome.within_pure () ⟨rfl, rfl⟩
    refine Outcome.within_bind runs (fun after same =>
      ⟨consistent.sameTables same, fun _ _ => by rw [same.tables]⟩) ?_
    intro _ _ same
    generalize (view.runCallback answers (some code)
      ⟨id, .arrival, some txHex, watch.confirmations⟩).state = middle at same ⊢
    have keptMiddle := consistent.sameTables same
    have foundMiddle : middle.watching.get? id = some watch := by
      rw [same.tables]
      exact found
    have sameOthers : ∀ (after : Watch Hex) (other : WatchId), other ≠ id →
        (middle.putWatch id after).watching.get? other =
          view.watching.get? other := by
      intro after other different
      change (middle.watching.set id after).get? other = _
      rw [Dict.get?_set_of_ne _ _ different, same.tables]
    have keptPut : (middle.putWatch id { watch with
        callback := { watch.callback with arrival := none } }).Consistent
          currency base :=
      keptMiddle.put foundMiddle rfl Iff.rfl rfl
        (keptMiddle.lists.counted id watch foundMiddle)
    dsimp only
    split
    next nothing =>
      have present : watch.event ≠ none := by
        rcases fits (isCode ▸ Option.some_ne_none code) with present | more
        · exact present
        · exact absurd nothing more
      have foundPut := Dict.get?_set_same middle.watching id
        { watch with callback := { watch.callback with arrival := none } }
      obtain ⟨after, removed, kept, watching, _⟩ :=
        removeWatch_spec keptPut foundPut present
      rw [removed]
      refine Outcome.within_pure () ⟨kept, ?_⟩
      intro other different
      rw [watching, Dict.get?_erase, if_neg different]
      exact sameOthers _ other different
    · exact Outcome.within_pure () ⟨keptPut, sameOthers _⟩

theorem within_visitPool
    {tx : Option CTransaction}
    {txHexs : List Hex}
    (consistent : view.Consistent currency base)
    (found : view.watching.get? id = some watch)
    (fits : ∀ txHex ∈ txHexs,
      (∀ spender ∈ tx, Readable env currency watch.needle spender) ∧
      (hasArrived env currency tx watch txHex = .ok true →
        watch.callback.arrival ≠ none →
        watch.event ≠ none ∨
          { watch.callback with arrival := none } ≠ Callbacks.none)) :
    Outcome.Within (fun after : CoinView Hex =>
        after.Consistent currency base ∧
          ∀ other, other ≠ id →
            after.watching.get? other = view.watching.get? other)
      .keyError (visitPool env currency tx answers id watch txHexs view) := by
  induction txHexs with
  | nil => exact Outcome.within_pure () ⟨consistent, fun _ _ => rfl⟩
  | cons txHex txHexs inductionHypothesis =>
      obtain ⟨readable, arrivalFits⟩ := fits txHex List.mem_cons_self
      refine Outcome.within_attempt ⟨consistent, fun _ _ => rfl⟩
        (hasArrived_ne_keyError readable) ?_
      intro arrived isArrived
      split
      next yes =>
        rw [yes] at isArrived
        exact within_arrive consistent found (arrivalFits isArrived)
      · exact inductionHypothesis fun other mem =>
          fits other (List.mem_cons_of_mem _ mem)

theorem within_visitPools
    {tx : Option CTransaction}
    {ids : List WatchId}
    {start : CoinView Hex}
    (fits : ArrivalsFit env currency tx txHexs start)
    (distinct : ids.Nodup)
    (consistent : view.Consistent currency base)
    (unchanged : ∀ id ∈ ids,
      id ∈ start.watching.keys ∧
        view.watching.get? id = start.watching.get? id) :
    Outcome.Within (Consistent currency base) .keyError
      (visitPools env currency tx answers txHexs ids view) := by
  induction ids generalizing view with
  | nil => exact Outcome.within_pure () consistent
  | cons id ids inductionHypothesis =>
      rw [List.nodup_cons] at distinct
      obtain ⟨isKey, same⟩ := unchanged id List.mem_cons_self
      obtain ⟨watch, foundStart⟩ := Dict.exists_get?_of_mem_keys _ isKey
      have found := same.trans foundStart
      have isFound : Except.ofOption PyError.keyError (view.watching.get? id) =
          .ok watch := by
        rw [found]
        rfl
      rw [visitPools, isFound, Outcome.attempt_ok]
      refine Outcome.within_bind
        (within_visitPool consistent found (fits id watch foundStart))
        (fun _ kept => kept.1) ?_
      rintro _ _ ⟨kept, others⟩
      refine inductionHypothesis distinct.2 kept ?_
      intro other mem
      obtain ⟨isKey, same⟩ := unchanged other (List.mem_cons_of_mem _ mem)
      refine ⟨isKey, ?_⟩
      rw [others other, same]
      rintro rfl
      exact distinct.1 mem

/-! ## New watches -/

/-- The watch `add_watch` builds is pending, new and spends nothing that is
watched, and the database takes it. -/
def AddFits
    (env : MonitorEnv Hex)
    (currency : String)
    (args : WatchArgs Hex)
    (answers : AddAnswers Hex)
    (view : CoinView Hex) : Prop :=
  ∀ processed,
    processNeedle env currency answers args.needle = .ok processed →
  ∀ confirmed,
    checkConfirmed env answers args processed.1 = .ok confirmed →
    confirmed.event = none ∧
      view.watchesById.get? (args.watchId.getD answers.generatedId) = none ∧
      answers.callbacks.stores (args.watchId.getD answers.generatedId) =
        true ∧
      (buildWatch args (args.watchId.getD answers.generatedId) processed.1
        processed.2 confirmed).inputs.Nodup ∧
      ∀ prevout ∈ (buildWatch args (args.watchId.getD answers.generatedId)
          processed.1 processed.2 confirmed).inputs,
        prevout.n ∉ indices view.inputs prevout.hash

instance
    (env : MonitorEnv Hex)
    (currency : String)
    (args : WatchArgs Hex)
    (answers : AddAnswers Hex)
    (view : CoinView Hex) :
    Decidable (AddFits env currency args answers view) :=
  Except.decidableForallOk _

omit [DecidableEq Hex] in
theorem fileWatch_consistent
    {args : WatchArgs Hex}
    {answers : AddAnswers Hex}
    (consistent : view.Consistent currency base)
    (pending : watch.event = none)
    (uncounted : watch.confirmations = 0)
    (new : view.watchesById.get? watch.id = none)
    (stores : answers.callbacks.stores watch.id = true)
    (own : watch.inputs.Nodup)
    (absent : ∀ prevout ∈ watch.inputs,
      prevout.n ∉ indices view.inputs prevout.hash) :
    (view.fileWatch currency args answers watch).state.Consistent currency
      base := by
  have isNew : watch.id ∉ view.watching.keys := by
    intro mem
    have byId := (consistent.ids.ids watch.id).mpr mem
    rw [new] at byId
    cases byId
  have saved : ∀ view : CoinView Hex, view.saveWatch answers.callbacks watch.id =
      Outcome.pure view () := by
    intro view
    simp only [saveWatch, stores, Except.raiseIf, Bool.true_eq_false, if_false,
      Outcome.attempt_ok]
  obtain ⟨inputs, stored, clean, holds⟩ := @storeInputs_spec _
    { view.putWatch watch.id watch with
      watchesById := view.watchesById.set watch.id currency }
    watch.inputs consistent.index.clean own absent
  unfold fileWatch
  rw [pending]
  change (Outcome.state (Outcome.bind (saveWatch _ _ _) _)).Consistent _ _
  rw [saved, Outcome.bind_of_ok (Outcome.pure_result _ _), Outcome.pure_state]
  change (Outcome.state (Outcome.bind (storeInputs watch.inputs
    { view.putWatch watch.id watch with
      watchesById := view.watchesById.set watch.id currency }) _)).Consistent
        _ _
  rw [stored, Outcome.bind_of_ok (Outcome.pure_result _ _), Outcome.pure_state]
  refine ⟨consistent.ids.add watch.id watch, ?_,
    consistent.lists.add isNew pending uncounted, ?_⟩
  · exact consistent.index.add isNew own absent clean holds
  · intro other id otherCurrency
    change (view.watchesById.set watch.id currency).get? id = some other ↔ _
    rw [Dict.get?_set, ← consistent.others other id otherCurrency]
    split
    next same =>
      subst same
      rw [new]
      refine iff_of_false ?_ (Option.some_ne_none other).symm
      intro isOther
      exact otherCurrency (Option.some.inj isOther).symm
    · exact Iff.rfl

omit [DecidableEq Hex] in
theorem addWatch_consistent
    {args : WatchArgs Hex}
    {answers : AddAnswers Hex}
    (fits : AddFits env currency args answers view)
    (consistent : view.Consistent currency base) :
    (view.addWatch env currency args answers).state.Consistent currency
      base := by
  unfold addWatch
  apply Outcome.attempt_state consistent
  intro _ _
  apply Outcome.attempt_state consistent
  intro processed isProcessed
  apply Outcome.attempt_state consistent
  intro confirmed isConfirmed
  obtain ⟨pending, new, stores, own, absent⟩ :=
    fits processed isProcessed confirmed isConfirmed
  exact fileWatch_consistent consistent pending rfl new stores own absent

end CoinView
end Coinbend
