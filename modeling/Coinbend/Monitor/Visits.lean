import Coinbend.Monitor.Blocks

/-!
# What a block does to each watch

The loop over the watches looks at each of them apart from the others: what
becomes of a watch, and which double spends are suspected for it, follows from
the watch, the transactions of the block and the input index.  Which suspicion
is acted on does depend on the other watches.
-/

namespace Coinbend

variable {Hex : Type} [DecidableEq Hex] (env : MonitorEnv Hex)

/-- The initial value of the local `tx` does not matter to what is found. -/
theorem scan_local
    {currency : String}
    {inputs : Dict Txid (List Nat)}
    {watchId : WatchId}
    {needle : Needle Hex}
    {txHexs : List Hex}
    {tx : Option CTransaction}
    {scanned : Scan Hex}
    (found : scan env currency inputs watchId needle txHexs tx = .ok scanned) :
    ∃ alone, scan env currency inputs watchId needle txHexs none = .ok alone ∧
      alone.found = scanned.found ∧
      alone.doubleSpends = scanned.doubleSpends := by
  cases txHexs with
  | nil =>
      cases found
      exact ⟨_, rfl, rfl, rfl⟩
  | cons txHex txHexs => exact ⟨scanned, found, rfl, rfl⟩

namespace Watch

/-- What a pending watch finds in a block. -/
def finds
    (currency : String)
    (inputs : Dict Txid (List Nat))
    (txHexs : List Hex)
    (watchId : WatchId)
    (watch : Watch Hex) : Option (WatchEvent × Hex) :=
  if watch.event ≠ none then none
  else
    match scan env currency inputs watchId watch.needle txHexs none with
    | .ok scanned => scanned.found
    | .error _ => none

/-- The double spends that are suspected for a pending watch. -/
def suspects
    (currency : String)
    (inputs : Dict Txid (List Nat))
    (txHexs : List Hex)
    (watchId : WatchId)
    (watch : Watch Hex) : List (DoubleSpend Hex) :=
  if watch.event ≠ none then []
  else
    match scan env currency inputs watchId watch.needle txHexs none with
    | .ok scanned => scanned.doubleSpends
    | .error _ => []

/-- The watch once the loop has been over it. -/
def visited
    (currency : String)
    (inputs : Dict Txid (List Nat))
    (block : Block)
    (txHexs : List Hex)
    (watchId : WatchId)
    (watch : Watch Hex) : Watch Hex :=
  if watch.event ≠ none then
    { watch with confirmations := watch.confirmations + 1 }
  else
    match finds env currency inputs txHexs watchId watch with
    | none => watch
    | some (event, txHex) => { watch with
        foundTxHex := some txHex
        event := some event
        confirmations := watch.confirmations + 1
        block := some block.hash
        height := block.height }

/-- A watch that is blamed for a double spend. -/
def defrauded
    (watch : Watch Hex)
    (block : Block)
    (txHex : Hex) : Watch Hex :=
  { watch with
    foundTxHex := some txHex
    event := some .fraud
    confirmations := watch.confirmations + 1
    block := some block.hash }

variable {currency : String} {inputs : Dict Txid (List Nat)} {block : Block}
  {txHexs : List Hex} {watchId : WatchId} {watch : Watch Hex}

@[simp] theorem visited_needle :
    (visited env currency inputs block txHexs watchId watch).needle =
      watch.needle := by
  unfold visited
  split
  · rfl
  · split <;> rfl

@[simp] theorem visited_tx :
    (visited env currency inputs block txHexs watchId watch).tx =
      watch.tx := by
  unfold visited
  split
  · rfl
  · split <;> rfl

@[simp] theorem visited_callback :
    (visited env currency inputs block txHexs watchId watch).callback =
      watch.callback := by
  unfold visited
  split
  · rfl
  · split <;> rfl

@[simp] theorem visited_expires :
    (visited env currency inputs block txHexs watchId watch).expires =
      watch.expires := by
  unfold visited
  split
  · rfl
  · split <;> rfl

omit [DecidableEq Hex] in
theorem inputs_congr
    {other : Watch Hex}
    (needle : other.needle = watch.needle)
    (tx : other.tx = watch.tx) :
    other.inputs = watch.inputs := by
  unfold Watch.inputs
  rw [needle, tx]

@[simp] theorem visited_inputs :
    (visited env currency inputs block txHexs watchId watch).inputs =
      watch.inputs :=
  inputs_congr (visited_needle env) (visited_tx env)

theorem visited_of_event (present : watch.event ≠ none) :
    visited env currency inputs block txHexs watchId watch =
      { watch with confirmations := watch.confirmations + 1 } :=
  if_pos present

theorem visited_of_finds_none
    (pending : watch.event = none)
    (nothing : finds env currency inputs txHexs watchId watch = none) :
    visited env currency inputs block txHexs watchId watch = watch := by
  unfold visited
  rw [if_neg (not_not.mpr pending), nothing]

theorem visited_of_finds
    {event : WatchEvent}
    {txHex : Hex}
    (pending : watch.event = none)
    (something : finds env currency inputs txHexs watchId watch =
      some (event, txHex)) :
    visited env currency inputs block txHexs watchId watch = { watch with
      foundTxHex := some txHex
      event := some event
      confirmations := watch.confirmations + 1
      block := some block.hash
      height := block.height } := by
  unfold visited
  rw [if_neg (not_not.mpr pending), something]

end Watch

/-- A pending watch finds only transactions that are its needle's, or equal to
it in the comparison. -/
theorem needleEvent_of_scan
    {currency : String}
    {inputs : Dict Txid (List Nat)}
    {watchId : WatchId}
    {needle : Needle Hex}
    {txHexs : List Hex}
    {tx : Option CTransaction}
    {scanned : Scan Hex}
    {event : WatchEvent}
    {txHex : Hex}
    (isScanned : scan env currency inputs watchId needle txHexs tx =
      .ok scanned)
    (found : scanned.found = some (event, txHex)) :
    txHex ∈ txHexs ∧
      ∃ value, needle = .txHex value ∧
        needleEvent env value txHex = some event := by
  induction txHexs generalizing tx scanned with
  | nil =>
      cases isScanned
      cases found
  | cons first txHexs inductionHypothesis =>
      unfold scan at isScanned
      rw [Except.bind_eq_ok_iff] at isScanned
      obtain ⟨parsed, _, isScanned⟩ := isScanned
      have later : ∀ {tx} {scanned : Scan Hex},
          scan env currency inputs watchId needle txHexs tx = .ok scanned →
          scanned.found = some (event, txHex) →
          txHex ∈ first :: txHexs ∧
            ∃ value, needle = .txHex value ∧
              needleEvent env value txHex = some event := by
        intro tx scanned isScanned found
        obtain ⟨mem, rest⟩ := inductionHypothesis isScanned found
        exact ⟨List.mem_cons_of_mem _ mem, rest⟩
      cases needle with
      | txHex value =>
          dsimp only at isScanned
          cases isEvent : needleEvent env value first with
          | some firstEvent =>
              rw [isEvent] at isScanned
              cases isScanned
              cases found
              exact ⟨List.mem_cons_self, value, rfl, isEvent⟩
          | none =>
              rw [isEvent] at isScanned
              simp only [Except.bind_eq_ok_iff] at isScanned
              obtain ⟨rest, isRest, isScanned⟩ := isScanned
              split at isScanned
              · cases isScanned
                exact later isRest found
              · cases isScanned
                exact later isRest found
      | address type value =>
          simp only [Except.bind_eq_ok_iff] at isScanned
          obtain ⟨_, _, _, _, isScanned⟩ := isScanned
          exact later isScanned found
      | txid value => exact later isScanned found
      | other type value => exact later isScanned found

/-- A double spend is suspected of a transaction of the block that is not equal
to the needle in the comparison and spends an input in the index. -/
theorem suspected_of_scan
    {currency : String}
    {inputs : Dict Txid (List Nat)}
    {watchId : WatchId}
    {needle : Needle Hex}
    {txHexs : List Hex}
    {tx : Option CTransaction}
    {scanned : Scan Hex}
    {doubleSpend : DoubleSpend Hex}
    (isScanned : scan env currency inputs watchId needle txHexs tx =
      .ok scanned)
    (suspected : doubleSpend ∈ scanned.doubleSpends) :
    doubleSpend.watchId = watchId ∧ doubleSpend.txHex ∈ txHexs ∧
      ∃ value spender, needle = .txHex value ∧
        needleEvent env value doubleSpend.txHex = none ∧
        env.lib.deserialize doubleSpend.txHex = some spender ∧
        doubleSpend.inputs = spentInputs inputs spender ∧
        doubleSpend.inputs ≠ [] := by
  induction txHexs generalizing tx scanned with
  | nil =>
      cases isScanned
      cases suspected
  | cons first txHexs inductionHypothesis =>
      unfold scan at isScanned
      rw [Except.bind_eq_ok_iff] at isScanned
      obtain ⟨parsed, isParsed, isScanned⟩ := isScanned
      have later : ∀ {tx} {scanned : Scan Hex},
          scan env currency inputs watchId needle txHexs tx = .ok scanned →
          doubleSpend ∈ scanned.doubleSpends →
          doubleSpend.watchId = watchId ∧ doubleSpend.txHex ∈ first :: txHexs ∧
            ∃ value spender, needle = .txHex value ∧
              needleEvent env value doubleSpend.txHex = none ∧
              env.lib.deserialize doubleSpend.txHex = some spender ∧
              doubleSpend.inputs = spentInputs inputs spender ∧
              doubleSpend.inputs ≠ [] := by
        intro tx scanned isScanned suspected
        obtain ⟨isWatch, mem, rest⟩ := inductionHypothesis isScanned suspected
        exact ⟨isWatch, List.mem_cons_of_mem _ mem, rest⟩
      cases needle with
      | txHex value =>
          dsimp only at isScanned
          cases isEvent : needleEvent env value first with
          | some firstEvent =>
              rw [isEvent] at isScanned
              cases isScanned
              cases suspected
          | none =>
              rw [isEvent] at isScanned
              simp only [Except.bind_eq_ok_iff] at isScanned
              obtain ⟨rest, isRest, isScanned⟩ := isScanned
              split at isScanned
              · cases isScanned
                exact later isRest suspected
              next spends =>
                cases isScanned
                rcases List.mem_cons.mp suspected with rfl | suspected
                · rw [BitcoinLib.parse_eq_ok_iff] at isParsed
                  exact ⟨rfl, List.mem_cons_self, value, parsed, rfl, isEvent,
                    isParsed, rfl, spends⟩
                · exact later isRest suspected
      | address type value =>
          simp only [Except.bind_eq_ok_iff] at isScanned
          obtain ⟨_, _, _, _, isScanned⟩ := isScanned
          exact later isScanned suspected
      | txid value => exact later isScanned suspected
      | other type value => exact later isScanned suspected

namespace CoinView

variable {env} {currency : String} {block : Block} {txHexs : List Hex}
  {answers : CallbackAnswers} {view : CoinView Hex} {watchId : WatchId}
  {watch : Watch Hex} {locals : BlockLoop Hex}

/-- A view that differs in its block lists and the callbacks executed. -/
structure SameButLists (view after : CoinView Hex) : Prop where
  inputs : after.inputs = view.inputs
  watchesById : after.watchesById = view.watchesById
  processedBlock : after.processedBlock = view.processedBlock

omit [DecidableEq Hex] in
theorem SameButLists.refl (view : CoinView Hex) : SameButLists view view :=
  ⟨rfl, rfl, rfl⟩

omit [DecidableEq Hex] in
theorem SameButLists.trans
    {first second third : CoinView Hex}
    (one : SameButLists first second)
    (two : SameButLists second third) :
    SameButLists first third :=
  ⟨two.inputs.trans one.inputs, two.watchesById.trans one.watchesById,
    two.processedBlock.trans one.processedBlock⟩

/-- What the loop does to a watch and its locals. -/
theorem lookFor_spec
    (found : view.watching.get? watchId = some watch)
    {after : BlockLoop Hex}
    (returned : (view.lookFor env currency block txHexs watchId locals).result =
      .ok after) :
    (view.lookFor env currency block txHexs watchId locals).state.watching =
        view.watching.set watchId
          (watch.visited env currency view.inputs block txHexs watchId) ∧
      SameButLists view
        (view.lookFor env currency block txHexs watchId locals).state ∧
      (view.lookFor env currency block txHexs watchId locals).state.blocks =
        (match watch.finds env currency view.inputs txHexs watchId with
          | none => view.blocks
          | some _ => view.blocks.set block.hash
              ((view.blocks.get? block.hash).getD [] ++ [watchId])) ∧
      (view.lookFor env currency block txHexs watchId locals).state.fired =
        view.fired ∧
      after.doubleSpends = locals.doubleSpends ++
        watch.suspects env currency view.inputs txHexs watchId ∧
      after.oldWatches = locals.oldWatches := by
  have isFound : Except.ofOption PyError.keyError
      (view.watching.get? watchId) = .ok watch := by
    rw [found]
    rfl
  unfold lookFor at returned ⊢
  rw [isFound, Outcome.attempt_ok] at returned ⊢
  by_cases present : watch.event ≠ none
  · rw [if_pos present] at returned ⊢
    cases returned
    rw [Watch.visited_of_event env present, Watch.suspects, Watch.finds,
      if_pos present, if_pos present, List.append_nil]
    exact ⟨rfl, ⟨rfl, rfl, rfl⟩, rfl, rfl, rfl, rfl⟩
  · rw [if_neg present] at returned ⊢
    have pending : watch.event = none := not_not.mp present
    cases isScanned : scan env currency view.inputs watchId watch.needle txHexs
        locals.tx with
    | error error =>
        simp only [isScanned, Outcome.attempt_error] at returned
        cases returned
    | ok scanned =>
        obtain ⟨alone, isAlone, sameFound, sameSpends⟩ :=
          scan_local env isScanned
        have suspected : watch.suspects env currency view.inputs txHexs
            watchId = scanned.doubleSpends := by
          rw [Watch.suspects, if_neg present, isAlone]
          exact sameSpends
        have finds_eq : watch.finds env currency view.inputs txHexs watchId =
            scanned.found := by
          rw [Watch.finds, if_neg present, isAlone]
          exact sameFound
        simp only [isScanned, Outcome.attempt_ok] at returned ⊢
        rw [suspected, finds_eq]
        cases something : scanned.found with
        | none =>
            rw [something] at returned finds_eq
            cases returned
            rw [Watch.visited_of_finds_none env pending finds_eq]
            exact ⟨(Dict.set_of_get? found).symm, .refl view, rfl, rfl, rfl,
              rfl⟩
        | some pair =>
            obtain ⟨event, txHex⟩ := pair
            rw [something] at returned finds_eq
            cases returned
            rw [Watch.visited_of_finds env pending finds_eq]
            exact ⟨rfl, ⟨rfl, rfl, rfl⟩, rfl, rfl, rfl, rfl⟩

theorem lookFor_of_error
    {error : PyError}
    (raised : (view.lookFor env currency block txHexs watchId locals).result =
      .error error) :
    (view.lookFor env currency block txHexs watchId locals).state = view := by
  unfold lookFor at raised ⊢
  cases found : Except.ofOption PyError.keyError
      (view.watching.get? watchId) with
  | error error => rfl
  | ok watch =>
      simp only [found, Outcome.attempt_ok] at raised ⊢
      by_cases present : watch.event ≠ none
      · rw [if_pos present] at raised
        cases raised
      rw [if_neg present] at raised ⊢
      cases isScanned : scan env currency view.inputs watchId watch.needle
          txHexs locals.tx with
      | error error => rfl
      | ok scanned =>
          simp only [isScanned, Outcome.attempt_ok] at raised
          split at raised <;> cases raised

/-- A view that differs in the callbacks executed only. -/
structure SameTables (view after : CoinView Hex) : Prop where
  tables : after.toCoinWatches = view.toCoinWatches
  watchesById : after.watchesById = view.watchesById

omit [DecidableEq Hex] in
/-- A callback changes no table. -/
theorem doCallback_tables
    (view : CoinView Hex)
    (answers : CallbackAnswers)
    (code : Option Code)
    (fired : Fired Hex) :
    SameTables view (view.doCallback answers code fired).state := by
  unfold doCallback runCallback updateWatch
  cases code with
  | none => exact ⟨rfl, rfl⟩
  | some code =>
      apply Outcome.bind_state
      · apply Outcome.attempt_state
        · exact ⟨rfl, rfl⟩
        · exact fun _ _ => ⟨rfl, rfl⟩
      intro _ returned
      rw [Outcome.attempt_result_eq_ok_iff] at returned
      obtain ⟨_, runs, _⟩ := returned
      rw [runs, Outcome.attempt_ok]
      apply Outcome.attempt_state
      · exact ⟨rfl, rfl⟩
      intro _ _
      apply Outcome.attempt_state
      · exact ⟨rfl, rfl⟩
      · exact fun _ _ => ⟨rfl, rfl⟩

omit [DecidableEq Hex] in
/-- Announcing changes no table. -/
theorem announce_tables :
    SameTables view (view.announce env answers watchId locals).state := by
  unfold announce
  apply Outcome.attempt_state
  · exact ⟨rfl, rfl⟩
  intro watch _
  split
  · apply Outcome.attempt_state
    · exact ⟨rfl, rfl⟩
    intro event _
    dsimp only
    cases watch.callback.get event with
    | none => exact ⟨rfl, rfl⟩
    | some code =>
        have tables := doCallback_tables view answers (some code)
          ⟨watchId, event, watch.foundTxHex, watch.confirmations⟩
        apply Outcome.bind_state tables
        exact fun _ _ => tables
  · exact ⟨rfl, rfl⟩

omit [DecidableEq Hex] in
/-- What announcing adds to the locals. -/
theorem announce_locals
    {after : BlockLoop Hex}
    (returned : (view.announce env answers watchId locals).result =
      .ok after) :
    ∃ watch, view.watching.get? watchId = some watch ∧
      after = { locals with
        oldWatches := locals.oldWatches ++
          if env.confirmations ≤ watch.confirmations then [watchId] else [] } ∧
      (env.confirmations ≤ watch.confirmations → watch.event ≠ none) := by
  unfold announce at returned
  rw [Outcome.attempt_result_eq_ok_iff] at returned
  obtain ⟨watch, found, returned⟩ := returned
  rw [Except.ofOption_eq_ok_iff] at found
  refine ⟨watch, found, ?_⟩
  split at returned
  next reached =>
    rw [Outcome.attempt_result_eq_ok_iff] at returned
    obtain ⟨event, isEvent, returned⟩ := returned
    rw [Except.ofOption_eq_ok_iff] at isEvent
    rw [if_pos reached]
    dsimp only at returned
    rw [Outcome.bind_result_eq_ok_iff] at returned
    obtain ⟨_, _, returned⟩ := returned
    have same : after = { locals with
        oldWatches := locals.oldWatches ++ [watchId] } :=
      (Except.ok.inj returned).symm
    refine ⟨same, fun _ => ?_⟩
    rw [isEvent]
    exact Option.some_ne_none event
  next unreached =>
    cases returned
    rw [if_neg unreached, List.append_nil]
    exact ⟨rfl, fun reached => absurd reached unreached⟩

/-! ## The loop over the watches -/

section

variable (env) (currency) (block) (txHexs)

/-- The double spends suspected for the watch under an id. -/
def suspectsOf (view : CoinView Hex) (watchId : WatchId) :
    List (DoubleSpend Hex) :=
  match view.watching.get? watchId with
  | some watch => watch.suspects env currency view.inputs txHexs watchId
  | none => []

/-- Whether the watch under an id has its confirmations after the block. -/
def growsOld (view : CoinView Hex) (watchId : WatchId) : Bool :=
  match view.watching.get? watchId with
  | some watch =>
      env.confirmations ≤ (watch.visited env currency view.inputs block txHexs
        watchId).confirmations
  | none => false

/-- The loop has been over some watches of a view. -/
structure Visited
    (ids : List WatchId)
    (view after : CoinView Hex) : Prop where
  same : SameButLists view after
  keys : after.watching.keys = view.watching.keys
  watches : ∀ id, after.watching.get? id =
    (view.watching.get? id).map fun watch =>
      if id ∈ ids then
        watch.visited env currency view.inputs block txHexs id
      else watch

end

theorem Visited.refl (view : CoinView Hex) :
    Visited env currency block txHexs [] view view where
  same := .refl view
  keys := rfl
  watches := by simp

/-- Watches the loop has not been over are as they were. -/
theorem Visited.get?_of_notMem
    {ids : List WatchId}
    {after : CoinView Hex}
    (visited : Visited env currency block txHexs ids view after)
    (later : watchId ∉ ids) :
    after.watching.get? watchId = view.watching.get? watchId := by
  rw [visited.watches]
  simp only [if_neg later, Option.map_id_fun', id_eq]

theorem Visited.get?_of_mem
    {ids : List WatchId}
    {after : CoinView Hex}
    (visited : Visited env currency block txHexs ids view after)
    (mem : watchId ∈ ids)
    (found : view.watching.get? watchId = some watch) :
    after.watching.get? watchId =
      some (watch.visited env currency view.inputs block txHexs watchId) := by
  rw [visited.watches, found]
  simp only [if_pos mem, Option.map_some]

/-- The loop goes over one more watch. -/
theorem Visited.next
    {ids : List WatchId}
    {middle after : CoinView Hex}
    (visited : Visited env currency block txHexs ids view middle)
    (same : SameButLists middle after)
    (found : view.watching.get? watchId = some watch)
    (new : watchId ∉ ids)
    (put : after.watching = middle.watching.set watchId
      (watch.visited env currency view.inputs block txHexs watchId)) :
    Visited env currency block txHexs (ids ++ [watchId]) view after where
  same := visited.same.trans same
  keys := by
    have stored := (visited.get?_of_notMem new).trans found
    rw [put, Dict.keys_set_of_get? stored, visited.keys]
  watches := by
    intro id
    rw [put, Dict.get?_set]
    by_cases isNew : id = watchId
    · subst isNew
      simp [found]
    · rw [if_neg isNew, visited.watches]
      simp [isNew]

/-- What one pass of the loop does. -/
theorem visitWatch_spec
    {ids : List WatchId}
    {start : CoinView Hex}
    {after : BlockLoop Hex}
    (visited : Visited env currency block txHexs ids start view)
    (new : watchId ∉ ids)
    (returned : (view.visitWatch env currency block txHexs answers watchId
      locals).result = .ok after) :
    Visited env currency block txHexs (ids ++ [watchId]) start
        (view.visitWatch env currency block txHexs answers watchId
          locals).state ∧
      after.doubleSpends = locals.doubleSpends ++
        suspectsOf env currency txHexs start watchId ∧
      after.oldWatches = locals.oldWatches ++
        (if growsOld env currency block txHexs start watchId = true then
          [watchId] else []) := by
  unfold visitWatch at returned ⊢
  rw [Outcome.bind_result_eq_ok_iff] at returned
  obtain ⟨between, looked, returned⟩ := returned
  rw [Outcome.bind_of_ok looked]
  obtain ⟨announced, isAnnounced, after_eq, _⟩ := announce_locals returned
  obtain ⟨watch, found⟩ : ∃ watch, view.watching.get? watchId = some watch := by
    unfold lookFor at looked
    rw [Outcome.attempt_result_eq_ok_iff] at looked
    obtain ⟨watch, found, _⟩ := looked
    exact ⟨watch, (Except.ofOption_eq_ok_iff _ _ _).mp found⟩
  obtain ⟨put, same, _, _, spends, old⟩ := lookFor_spec found looked
  have tables := @announce_tables _ env answers
    (view.lookFor env currency block txHexs watchId locals).state watchId
    between
  have inputs : view.inputs = start.inputs := visited.same.inputs
  have found_start : start.watching.get? watchId = some watch :=
    (visited.get?_of_notMem new).symm.trans found
  rw [inputs] at put spends
  have announced_eq : announced =
      watch.visited env currency start.inputs block txHexs watchId := by
    rw [put, Dict.get?_set_same, Option.some.injEq] at isAnnounced
    exact isAnnounced.symm
  generalize (view.lookFor env currency block txHexs watchId locals).state =
    middle at returned tables same put isAnnounced ⊢
  generalize (middle.announce env answers watchId between).state = done
    at tables ⊢
  refine ⟨visited.next ⟨?_, ?_, ?_⟩ found_start new ?_, ?_, ?_⟩
  · rw [tables.tables, same.inputs]
  · rw [tables.watchesById, same.watchesById]
  · rw [tables.tables, same.processedBlock]
  · rw [tables.tables, put]
  · rw [after_eq, suspectsOf, found_start]
    exact spends
  · rw [after_eq, growsOld, found_start, old, announced_eq]
    simp only [decide_eq_true_eq]

/-- What the loop does when it returns. -/
theorem visitWatches_spec
    {done ids : List WatchId}
    {start : CoinView Hex}
    {after : BlockLoop Hex}
    (visited : Visited env currency block txHexs done start view)
    (distinct : (done ++ ids).Nodup)
    (returned : (visitWatches env currency block txHexs answers ids view
      locals).result = .ok after) :
    Visited env currency block txHexs (done ++ ids) start
        (visitWatches env currency block txHexs answers ids view
          locals).state ∧
      after.doubleSpends = locals.doubleSpends ++
        ids.flatMap (suspectsOf env currency txHexs start) ∧
      after.oldWatches = locals.oldWatches ++
        ids.filter (growsOld env currency block txHexs start) := by
  induction ids generalizing done view locals with
  | nil =>
      cases returned
      simp only [List.flatMap_nil, List.filter_nil, List.append_nil]
      exact ⟨visited, trivial, trivial⟩
  | cons watchId ids inductionHypothesis =>
      rw [visitWatches, Outcome.bind_result_eq_ok_iff] at returned
      obtain ⟨between, once, returned⟩ := returned
      have new : watchId ∉ done := by
        intro mem
        rw [List.nodup_append] at distinct
        exact distinct.2.2 watchId mem watchId List.mem_cons_self rfl
      obtain ⟨visitedOnce, spends, old⟩ := visitWatch_spec visited new once
      have split : done ++ watchId :: ids = done ++ [watchId] ++ ids := by
        rw [List.append_assoc, List.singleton_append]
      rw [split] at distinct ⊢
      obtain ⟨visitedAll, allSpends, allOld⟩ :=
        inductionHypothesis visitedOnce distinct returned
      rw [visitWatches, Outcome.bind_of_ok once]
      refine ⟨visitedAll, ?_, ?_⟩
      · rw [allSpends, spends, List.flatMap_cons, List.append_assoc]
      · rw [allOld, old, List.filter_cons, List.append_assoc]
        split <;> rfl

section

variable (env) (currency) (txHexs)

/-- The pending watches of a view are scanned without an error. -/
def Scanned (view : CoinView Hex) : Prop :=
  ∀ id watch, view.watching.get? id = some watch → watch.event = none →
    ∃ scanned, scan env currency view.inputs id watch.needle txHexs none =
      .ok scanned

end

/-- A pending watch the loop has been over was scanned. -/
theorem scanned_of_lookFor
    (found : view.watching.get? watchId = some watch)
    (pending : watch.event = none)
    {after : BlockLoop Hex}
    (returned : (view.lookFor env currency block txHexs watchId locals).result =
      .ok after) :
    ∃ scanned, scan env currency view.inputs watchId watch.needle txHexs none =
      .ok scanned := by
  unfold lookFor at returned
  rw [Outcome.attempt_result_eq_ok_iff] at returned
  obtain ⟨stored, isStored, returned⟩ := returned
  rw [Except.ofOption_eq_ok_iff, found, Option.some.injEq] at isStored
  subst isStored
  rw [if_neg (not_not.mpr pending), Outcome.attempt_result_eq_ok_iff]
    at returned
  obtain ⟨scanned, isScanned, _⟩ := returned
  obtain ⟨alone, isAlone, _⟩ := scan_local env isScanned
  exact ⟨alone, isAlone⟩

theorem scanned_of_visitWatches
    {done ids : List WatchId}
    {start : CoinView Hex}
    {after : BlockLoop Hex}
    (visited : Visited env currency block txHexs done start view)
    (distinct : (done ++ ids).Nodup)
    (returned : (visitWatches env currency block txHexs answers ids view
      locals).result = .ok after) :
    ∀ id ∈ ids, ∀ watch, start.watching.get? id = some watch →
      watch.event = none →
        ∃ scanned, scan env currency start.inputs id watch.needle txHexs none =
          .ok scanned := by
  induction ids generalizing done view locals with
  | nil => exact fun _ mem => absurd mem List.not_mem_nil
  | cons watchId ids inductionHypothesis =>
      rw [visitWatches, Outcome.bind_result_eq_ok_iff] at returned
      obtain ⟨between, once, returned⟩ := returned
      have new : watchId ∉ done := by
        intro mem
        rw [List.nodup_append] at distinct
        exact distinct.2.2 watchId mem watchId List.mem_cons_self rfl
      have visitedOnce := (visitWatch_spec visited new once).1
      have split : done ++ watchId :: ids = done ++ [watchId] ++ ids := by
        rw [List.append_assoc, List.singleton_append]
      rw [split] at distinct
      intro id mem watch found pending
      rcases List.mem_cons.mp mem with rfl | mem
      · unfold visitWatch at once
        rw [Outcome.bind_result_eq_ok_iff] at once
        obtain ⟨_, looked, _⟩ := once
        have stored := (visited.get?_of_notMem new).trans found
        rw [← visited.same.inputs]
        exact scanned_of_lookFor stored pending looked
      · exact inductionHypothesis visitedOnce distinct returned id mem watch
          found pending

/-- Where one pass of the loop stops: before or after the watch. -/
theorem visitWatch_state
    {ids : List WatchId}
    {start : CoinView Hex}
    (visited : Visited env currency block txHexs ids start view)
    (new : watchId ∉ ids) :
    Visited env currency block txHexs ids start
        (view.visitWatch env currency block txHexs answers watchId
          locals).state ∨
      Visited env currency block txHexs (ids ++ [watchId]) start
        (view.visitWatch env currency block txHexs answers watchId
          locals).state := by
  unfold visitWatch
  cases looked : (view.lookFor env currency block txHexs watchId
      locals).result with
  | error error =>
      left
      rw [Outcome.bind, looked]
      rw [Outcome.raise_state, lookFor_of_error looked]
      exact visited
  | ok between =>
      right
      rw [Outcome.bind_of_ok looked]
      obtain ⟨watch, found⟩ :
          ∃ watch, view.watching.get? watchId = some watch := by
        unfold lookFor at looked
        rw [Outcome.attempt_result_eq_ok_iff] at looked
        obtain ⟨watch, found, _⟩ := looked
        exact ⟨watch, (Except.ofOption_eq_ok_iff _ _ _).mp found⟩
      obtain ⟨put, same, _⟩ := lookFor_spec found looked
      have tables := @announce_tables _ env answers
        (view.lookFor env currency block txHexs watchId locals).state watchId
        between
      have found_start : start.watching.get? watchId = some watch :=
        (visited.get?_of_notMem new).symm.trans found
      rw [visited.same.inputs] at put
      refine visited.next ⟨?_, ?_, ?_⟩ found_start new ?_
      · rw [tables.tables, same.inputs]
      · rw [tables.watchesById, same.watchesById]
      · rw [tables.tables, same.processedBlock]
      · rw [tables.tables, put]

/-- Where the loop stops: after some of the watches. -/
theorem visitWatches_state
    {done ids : List WatchId}
    {start : CoinView Hex}
    (visited : Visited env currency block txHexs done start view)
    (distinct : (done ++ ids).Nodup) :
    ∃ some, some <+: ids ∧
      Visited env currency block txHexs (done ++ some) start
        (visitWatches env currency block txHexs answers ids view
          locals).state := by
  induction ids generalizing done view locals with
  | nil =>
      refine ⟨[], List.prefix_rfl, ?_⟩
      rw [List.append_nil]
      exact visited
  | cons watchId ids inductionHypothesis =>
      have new : watchId ∉ done := by
        intro mem
        rw [List.nodup_append] at distinct
        exact distinct.2.2 watchId mem watchId List.mem_cons_self rfl
      rw [visitWatches]
      cases once : (view.visitWatch env currency block txHexs answers watchId
          locals).result with
      | error error =>
          rw [Outcome.bind, once, Outcome.raise_state]
          rcases visitWatch_state visited new with before | after
          · exact ⟨[], List.nil_prefix, by rw [List.append_nil]; exact before⟩
          · exact ⟨[watchId], by simp, after⟩
      | ok between =>
          rw [Outcome.bind_of_ok once]
          have visitedOnce := (visitWatch_spec visited new once).1
          have split : done ++ watchId :: ids = done ++ [watchId] ++ ids := by
            rw [List.append_assoc, List.singleton_append]
          rw [split] at distinct
          obtain ⟨some, isPrefix, visitedSome⟩ :=
            @inductionHypothesis _ between _ visitedOnce distinct
          refine ⟨watchId :: some, ?_, ?_⟩
          · exact (List.prefix_cons_inj watchId).mpr isPrefix
          · rw [List.append_assoc, List.singleton_append] at visitedSome
            exact visitedSome

/-! ## Double spends -/

/-- What the watch under an id found. -/
def foundText (view : CoinView Hex) (watchId : WatchId) : Option Hex :=
  (view.watching.get? watchId).bind Watch.foundTxHex

/-- The suspicions that are acted on, one after the other: those of
transactions that no watch has found by then. -/
def blame (ids : List WatchId) :
    List (DoubleSpend Hex) → (WatchId → Option Hex) → List (DoubleSpend Hex)
  | [], _ => []
  | doubleSpend :: doubleSpends, texts =>
      if ids.any fun id => texts id = some doubleSpend.txHex then
        blame ids doubleSpends texts
      else
        doubleSpend :: blame ids doubleSpends
          (Function.update texts doubleSpend.watchId (some doubleSpend.txHex))

/-- Act on a suspicion. -/
def actOn (block : Block) (view : CoinView Hex) (doubleSpend : DoubleSpend Hex) :
    CoinView Hex :=
  match view.watching.get? doubleSpend.watchId with
  | none => view
  | some watch =>
      (view.putWatch doubleSpend.watchId
        (watch.defrauded block doubleSpend.txHex)).saveBlock block.hash
          (view.watching.keys.getLast?.getD doubleSpend.watchId)

theorem isFound_iff
    (distinct : view.watching.keys.Nodup)
    (doubleSpend : DoubleSpend Hex) :
    view.isFound doubleSpend = true ↔
      view.watching.keys.any
        (fun id => view.foundText id = some doubleSpend.txHex) = true := by
  rw [isFound, List.any_eq_true, List.any_eq_true]
  constructor
  · rintro ⟨watch, mem, found⟩
    obtain ⟨⟨id, stored⟩, isEntry, rfl⟩ := List.mem_map.mp mem
    refine ⟨id, List.mem_map_of_mem isEntry, decide_eq_true ?_⟩
    have isStored := Dict.get?_of_mem distinct isEntry
    rw [foundText, isStored]
    exact of_decide_eq_true found
  · rintro ⟨id, _, found⟩
    have isText := of_decide_eq_true found
    obtain ⟨watch, stored, isText⟩ := Option.bind_eq_some_iff.mp isText
    exact ⟨watch, List.mem_map_of_mem (Dict.mem_of_get? stored),
      decide_eq_true isText⟩

omit [DecidableEq Hex] in
theorem actOn_of_get?
    {doubleSpend : DoubleSpend Hex}
    (found : view.watching.get? doubleSpend.watchId = some watch) :
    view.actOn block doubleSpend =
      (view.putWatch doubleSpend.watchId
        (watch.defrauded block doubleSpend.txHex)).saveBlock block.hash
          (view.watching.keys.getLast?.getD doubleSpend.watchId) := by
  rw [actOn, found]

/-- Double spends of watches that exist are resolved without an error: those
that are to blame are acted on. -/
theorem resolveDoubleSpends_spec
    {doubleSpends : List (DoubleSpend Hex)}
    (distinct : view.watching.keys.Nodup)
    (exist : ∀ doubleSpend ∈ doubleSpends,
      doubleSpend.watchId ∈ view.watching.keys) :
    resolveDoubleSpends block doubleSpends view =
      Outcome.pure ((blame view.watching.keys doubleSpends
        view.foundText).foldl (actOn block) view) () := by
  induction doubleSpends generalizing view with
  | nil => rfl
  | cons doubleSpend doubleSpends inductionHypothesis =>
      obtain ⟨watch, found⟩ := Dict.exists_get?_of_mem_keys _
        (exist doubleSpend List.mem_cons_self)
      have later : ∀ other ∈ doubleSpends,
          other.watchId ∈ view.watching.keys := fun other mem =>
        exist other (List.mem_cons_of_mem _ mem)
      rw [resolveDoubleSpends, resolveDoubleSpend, blame]
      by_cases isFound : view.isFound doubleSpend = true
      · rw [if_pos isFound, if_pos ((isFound_iff distinct doubleSpend).mp
          isFound)]
        exact inductionHypothesis distinct later
      · have unfound := fun any =>
          isFound ((isFound_iff distinct doubleSpend).mpr any)
        rw [if_neg isFound, if_neg unfound, found]
        have acted := @actOn_of_get? _ block view watch doubleSpend found
        have keys : (view.actOn block doubleSpend).watching.keys =
            view.watching.keys := by
          rw [acted]
          exact Dict.keys_set_of_get? found _
        have texts : (view.actOn block doubleSpend).foundText =
            Function.update view.foundText doubleSpend.watchId
              (some doubleSpend.txHex) := by
          funext id
          rw [acted]
          change ((view.watching.set _ _).get? id).bind _ = _
          rw [Dict.get?_set, Function.update_apply]
          split <;> rfl
        have rest := @inductionHypothesis (view.actOn block doubleSpend)
          (keys ▸ distinct) (keys ▸ later)
        rw [keys, texts] at rest
        rw [List.foldl_cons, ← rest, acted]
        rfl

/-! ## The whole block -/

section

variable (env) (currency) (block) (txHexs)

/-- The suspicions of a block, in the order in which they are recorded. -/
def suspicions (view : CoinView Hex) : List (DoubleSpend Hex) :=
  view.watching.keys.flatMap (suspectsOf env currency txHexs view)

/-- What the watch under an id has found after the loop. -/
def textAfter (view : CoinView Hex) (watchId : WatchId) : Option Hex :=
  (view.watching.get? watchId).bind fun watch =>
    (watch.visited env currency view.inputs block txHexs watchId).foundTxHex

/-- The double spends of a block that are acted on. -/
def blamed (view : CoinView Hex) : List (DoubleSpend Hex) :=
  blame view.watching.keys (suspicions env currency txHexs view)
    (textAfter env currency block txHexs view)

end

/-- A suspicion is acted on for the watch it was recorded for. -/
theorem mem_of_mem_blame
    {ids : List WatchId}
    {doubleSpends : List (DoubleSpend Hex)}
    {texts : WatchId → Option Hex}
    {doubleSpend : DoubleSpend Hex}
    (mem : doubleSpend ∈ blame ids doubleSpends texts) :
    doubleSpend ∈ doubleSpends := by
  induction doubleSpends generalizing texts with
  | nil => cases mem
  | cons first doubleSpends inductionHypothesis =>
      unfold blame at mem
      split at mem
      · exact List.mem_cons_of_mem _ (inductionHypothesis mem)
      · rcases List.mem_cons.mp mem with rfl | mem
        · exact List.mem_cons_self
        · exact List.mem_cons_of_mem _ (inductionHypothesis mem)

/-- What is known of a suspicion: the watch it was recorded for waits for
another transaction, and the transaction of the block spends inputs in the
index. -/
theorem of_mem_suspicions
    {doubleSpend : DoubleSpend Hex}
    (mem : doubleSpend ∈ suspicions env currency txHexs view) :
    ∃ watch value spender,
      view.watching.get? doubleSpend.watchId = some watch ∧
      watch.event = none ∧
      watch.needle = .txHex value ∧
      doubleSpend.txHex ∈ txHexs ∧
      needleEvent env value doubleSpend.txHex = none ∧
      env.lib.deserialize doubleSpend.txHex = some spender ∧
      doubleSpend.inputs = spentInputs view.inputs spender := by
  obtain ⟨id, _, mem⟩ := List.mem_flatMap.mp mem
  unfold suspectsOf at mem
  cases found : view.watching.get? id with
  | none =>
      rw [found] at mem
      cases mem
  | some watch =>
      simp only [found, Watch.suspects] at mem
      split at mem
      · cases mem
      next pending =>
        split at mem
        next scanned isScanned =>
          obtain ⟨isWatch, inBlock, value, spender, needle, other, parsed,
            inputs, _⟩ := suspected_of_scan env isScanned mem
          subst isWatch
          exact ⟨watch, value, spender, found, not_not.mp pending, needle,
            inBlock, other, parsed, inputs⟩
        · cases mem

/-- What the body of the loop over the blocks does: the loop over the watches
stops halfway, or the double spends are acted on and the old watches are
removed. -/
theorem processBlock_cases
    (distinct : view.watching.keys.Nodup)
    (tx : Option CTransaction) :
    (∃ ids error, ids <+: view.watching.keys ∧
        Visited env currency block txHexs ids view
          (view.processBlock env currency block txHexs answers tx).state ∧
        (visitWatches env currency block txHexs answers view.watching.keys view
          ⟨[], [], tx⟩).result = .error error ∧
        (view.processBlock env currency block txHexs answers tx).result =
          .error error) ∨
      ∃ after last,
        (visitWatches env currency block txHexs answers view.watching.keys view
          ⟨[], [], tx⟩).state = after ∧
        Visited env currency block txHexs view.watching.keys view after ∧
        (view.processBlock env currency block txHexs answers tx =
          (removeOldWatches
            (view.watching.keys.filter
              (growsOld env currency block txHexs view))
            ((blamed env currency block txHexs view).foldl (actOn block)
              after)).bind
            fun view _ =>
          Outcome.pure (view.recordProcessed block.hash) last) ∧
        Scanned env currency txHexs view := by
  have start : Visited env currency block txHexs [] view view := .refl view
  have all : ([] ++ view.watching.keys).Nodup := distinct
  unfold processBlock
  cases returned : (visitWatches env currency block txHexs answers
      view.watching.keys view ⟨[], [], tx⟩).result with
  | error error =>
      left
      obtain ⟨ids, isPrefix, visited⟩ :=
        @visitWatches_state _ _ env currency block txHexs answers view
          ⟨[], [], tx⟩ [] _ view start all
      refine ⟨ids, error, isPrefix, ?_, rfl, ?_⟩
      · rw [Outcome.bind, returned, Outcome.raise_state]
        exact visited
      · rw [Outcome.bind, returned]
        rfl
  | ok locals =>
      right
      obtain ⟨visited, spends, old⟩ := visitWatches_spec start all returned
      rw [List.nil_append] at visited spends old
      refine ⟨_, locals.tx, rfl, visited, ?_, fun id watch found =>
        scanned_of_visitWatches start all returned id
          (Dict.mem_keys_of_get? found) watch found⟩
      rw [Outcome.bind_of_ok returned]
      have exist : ∀ doubleSpend ∈ locals.doubleSpends,
          doubleSpend.watchId ∈ (visitWatches env currency block txHexs answers
            view.watching.keys view ⟨[], [], tx⟩).state.watching.keys := by
        intro doubleSpend mem
        rw [spends] at mem
        obtain ⟨watch, _, _, found, _⟩ := of_mem_suspicions mem
        rw [visited.keys]
        exact Dict.mem_keys_of_get? found
      have texts : (visitWatches env currency block txHexs answers
            view.watching.keys view ⟨[], [], tx⟩).state.foundText =
          textAfter env currency block txHexs view := by
        funext id
        rw [foundText, textAfter, visited.watches]
        cases found : view.watching.get? id with
        | none => rfl
        | some watch =>
            simp only [Option.map_some, Option.bind_some,
              if_pos (Dict.mem_keys_of_get? found)]
      have stillDistinct := distinct
      rw [← visited.keys] at stillDistinct
      have resolved := @resolveDoubleSpends_spec _ _ block _
        locals.doubleSpends stillDistinct exist
      rw [visited.keys, texts, spends] at resolved
      rw [spends, resolved, old]
      rfl

end CoinView
end Coinbend
