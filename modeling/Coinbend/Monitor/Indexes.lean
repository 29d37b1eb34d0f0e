import Coinbend.Monitor.Runs

/-!
# The tables of the monitor

Four tables say where a watch is.  They agree when `watches_by_id` has the ids
of the watching tables, the input index has the inputs of the watched
transactions, each once, and the block lists have the watches with an event,
each in the list of its block.  Here is what the operations of one currency
keep of that and what they need for it.
-/

namespace Coinbend

namespace CoinWatches

variable {Hex : Type}

/-- The output indices the index has for a transaction. -/
def indices (inputs : Dict Txid (List Nat)) (txid : Txid) : List Nat :=
  (inputs.get? txid).getD []

/-- The watches in the list of a block. -/
def seenIn (blocks : Dict BlockHash (List WatchId)) (hash : BlockHash) :
    List WatchId :=
  (blocks.get? hash).getD []

/-- `watches_by_id` has the ids of the watching table. -/
structure IdsMatch
    (currency : String)
    (watchesById : Dict WatchId String)
    (watching : Dict WatchId (Watch Hex)) : Prop where
  distinct : watching.keys.Nodup
  ids : ∀ id, watchesById.get? id = some currency ↔ id ∈ watching.keys

/-- The input index has each input of each watched transaction once and nothing
else. -/
structure Indexed
    (inputs : Dict Txid (List Nat))
    (watching : Dict WatchId (Watch Hex)) : Prop where
  holds : ∀ prevout : COutPoint,
    prevout.n ∈ indices inputs prevout.hash ↔
      ∃ id watch, watching.get? id = some watch ∧ prevout ∈ watch.inputs
  once : ∀ txid, (indices inputs txid).Nodup
  nonempty : ∀ txid found, inputs.get? txid = some found → found ≠ []
  own : ∀ id watch, watching.get? id = some watch → watch.inputs.Nodup
  apart : ∀ id watch, watching.get? id = some watch →
    ∀ other otherWatch, watching.get? other = some otherWatch →
      ∀ prevout, prevout ∈ watch.inputs → prevout ∈ otherWatch.inputs →
        id = other

/-- A watch with an event is in the list of its block and in no other, a watch
without one in none. -/
structure Listed
    (blocks : Dict BlockHash (List WatchId))
    (watching : Dict WatchId (Watch Hex)) : Prop where
  listed : ∀ id watch, watching.get? id = some watch →
    ∀ hash, id ∈ seenIn blocks hash ↔
      watch.event ≠ none ∧ watch.block = some hash
  filed : ∀ id watch, watching.get? id = some watch →
    watch.event ≠ none → ∃ hash, watch.block = some hash
  watches : ∀ hash id, id ∈ seenIn blocks hash → id ∈ watching.keys
  once : ∀ hash, (seenIn blocks hash).Nodup
  nonempty : ∀ hash ids, blocks.get? hash = some ids → ids ≠ []
  counted : ∀ id watch, watching.get? id = some watch →
    watch.event = none → watch.confirmations = 0
  hashes : blocks.keys.Nodup

/-! ## Changes that do not concern a table -/

variable {currency : String} {watchesById : Dict WatchId String}
  {inputs : Dict Txid (List Nat)} {blocks : Dict BlockHash (List WatchId)}
  {watching : Dict WatchId (Watch Hex)} {id : WatchId}
  {old watch : Watch Hex}

theorem IdsMatch.put
    (idsMatch : IdsMatch currency watchesById watching)
    (found : watching.get? id = some old)
    (watch : Watch Hex) :
    IdsMatch currency watchesById (watching.set id watch) := by
  obtain ⟨distinct, ids⟩ := idsMatch
  have keys := Dict.keys_set_of_get? found watch
  exact ⟨keys ▸ distinct, fun id => keys ▸ ids id⟩

/-- A watch keeps its inputs. -/
theorem Indexed.put
    (indexed : Indexed inputs watching)
    (found : watching.get? id = some old)
    (same : watch.inputs = old.inputs) :
    Indexed inputs (watching.set id watch) := by
  have back : ∀ {other after}, (watching.set id watch).get? other = some after →
      ∃ before, watching.get? other = some before ∧
        after.inputs = before.inputs := by
    intro other after stored
    rw [Dict.get?_set] at stored
    split at stored
    next isId =>
      subst isId
      cases stored
      exact ⟨old, found, same⟩
    · exact ⟨after, stored, rfl⟩
  refine ⟨?_, indexed.once, indexed.nonempty, ?_, ?_⟩
  · intro prevout
    rw [indexed.holds]
    constructor
    · rintro ⟨other, before, stored, spends⟩
      by_cases isId : other = id
      · subst isId
        rw [found] at stored
        cases stored
        exact ⟨other, watch, Dict.get?_set_same _ _ _, same ▸ spends⟩
      · exact ⟨other, before, by rw [Dict.get?_set_of_ne _ _ isId]; exact stored,
          spends⟩
    · rintro ⟨other, after, stored, spends⟩
      obtain ⟨before, was, sameInputs⟩ := back stored
      exact ⟨other, before, was, sameInputs ▸ spends⟩
  · intro other after stored
    obtain ⟨before, was, sameInputs⟩ := back stored
    exact sameInputs ▸ indexed.own other before was
  · intro first firstWatch firstStored second secondWatch secondStored
    obtain ⟨firstBefore, firstWas, firstSame⟩ := back firstStored
    obtain ⟨secondBefore, secondWas, secondSame⟩ := back secondStored
    rw [firstSame, secondSame]
    exact indexed.apart first firstBefore firstWas second secondBefore secondWas

/-- A watch keeps its block and whether it has an event. -/
theorem Listed.put
    (listed : Listed blocks watching)
    (found : watching.get? id = some old)
    (event : watch.event = none ↔ old.event = none)
    (block : watch.block = old.block)
    (counted : watch.event = none → watch.confirmations = 0) :
    Listed blocks (watching.set id watch) := by
  refine ⟨?_, ?_, ?_, listed.once, listed.nonempty, ?_, listed.hashes⟩
  · intro other after stored hash
    rw [Dict.get?_set] at stored
    split at stored
    next isId =>
      subst isId
      cases stored
      rw [listed.listed other old found hash, block, Ne, Ne, event]
    · exact listed.listed other after stored hash
  · intro other after stored present
    rw [Dict.get?_set] at stored
    split at stored
    next isId =>
      subst isId
      cases stored
      rw [Ne, event] at present
      rw [block]
      exact listed.filed other old found present
    · exact listed.filed other after stored present
  · intro hash other seen
    rw [Dict.keys_set_of_get? found]
    exact listed.watches hash other seen
  · intro other after stored absent
    rw [Dict.get?_set] at stored
    split at stored
    next isId =>
      cases stored
      exact counted absent
    · exact listed.counted other after stored absent

/-! ## Block lists -/

theorem seenIn_set
    (blocks : Dict BlockHash (List WatchId))
    (inBlock hash : BlockHash)
    (ids : List WatchId) :
    seenIn (blocks.set inBlock ids) hash =
      if hash = inBlock then ids else seenIn blocks hash := by
  unfold seenIn
  rw [Dict.get?_set]
  split <;> rfl

theorem seenIn_erase
    (blocks : Dict BlockHash (List WatchId))
    (inBlock hash : BlockHash) :
    seenIn (blocks.erase inBlock) hash =
      if hash = inBlock then [] else seenIn blocks hash := by
  unfold seenIn
  rw [Dict.get?_erase]
  split <;> rfl

/-- A watch that finds something is put into the list of the block. -/
theorem Listed.find
    {hash : BlockHash}
    (listed : Listed blocks watching)
    (found : watching.get? id = some old)
    (pending : old.event = none)
    (event : watch.event ≠ none)
    (block : watch.block = some hash) :
    Listed (blocks.set hash (seenIn blocks hash ++ [id]))
      (watching.set id watch) := by
  have unlisted : ∀ hash, id ∉ seenIn blocks hash := by
    intro hash seen
    exact ((listed.listed id old found hash).mp seen).1 pending
  refine ⟨?_, ?_, ?_, ?_, ?_, ?_, Dict.nodup_keys_set listed.hashes _ _⟩
  · intro other after stored inBlock
    rw [seenIn_set]
    rw [Dict.get?_set] at stored
    split at stored
    next isId =>
      subst isId
      cases stored
      rw [block, Option.some.injEq]
      split
      next same =>
        subst same
        simp [event]
      next different =>
        have elsewhere : other ∉ seenIn blocks inBlock := unlisted inBlock
        simp [elsewhere, Ne.symm different]
    next isOther =>
      rw [← listed.listed other after stored inBlock]
      split
      next same =>
        subst same
        simp [isOther]
      · exact Iff.rfl
  · intro other after stored present
    rw [Dict.get?_set] at stored
    split at stored
    · cases stored
      exact ⟨hash, block⟩
    · exact listed.filed other after stored present
  · intro inBlock other seen
    rw [Dict.keys_set_of_get? found]
    rw [seenIn_set] at seen
    split at seen
    · rcases List.mem_append.mp seen with before | new
      · exact listed.watches hash other before
      · rw [List.mem_singleton] at new
        exact new ▸ Dict.mem_keys_of_get? found
    · exact listed.watches inBlock other seen
  · intro inBlock
    rw [seenIn_set]
    split
    · rw [List.nodup_append]
      refine ⟨listed.once hash, List.nodup_singleton id, ?_⟩
      intro first isFirst second isSecond same
      rw [List.mem_singleton] at isSecond
      exact unlisted hash (isSecond ▸ same ▸ isFirst)
    · exact listed.once inBlock
  · intro inBlock ids stored
    rw [Dict.get?_set] at stored
    split at stored
    · cases stored
      exact List.append_ne_nil_of_right_ne_nil _ (List.cons_ne_nil id [])
    · exact listed.nonempty inBlock ids stored
  · intro other after stored absent
    rw [Dict.get?_set] at stored
    split at stored
    · cases stored
      exact absurd absent event
    · exact listed.counted other after stored absent

/-- The block lists once a watch is taken out of one. -/
def unlist
    (blocks : Dict BlockHash (List WatchId))
    (hash : BlockHash)
    (id : WatchId) : Dict BlockHash (List WatchId) :=
  if (seenIn blocks hash).erase id = [] then blocks.erase hash
  else blocks.set hash ((seenIn blocks hash).erase id)

theorem seenIn_unlist
    (blocks : Dict BlockHash (List WatchId))
    (inBlock hash : BlockHash)
    (id : WatchId) :
    seenIn (unlist blocks inBlock id) hash =
      if hash = inBlock then (seenIn blocks inBlock).erase id
      else seenIn blocks hash := by
  unfold unlist
  split
  next empty =>
    rw [seenIn_erase, empty]
  · rw [seenIn_set]

theorem get?_unlist_ne_nil
    {inBlock hash : BlockHash}
    {ids : List WatchId}
    (nonempty : ∀ hash ids, blocks.get? hash = some ids → ids ≠ [])
    (stored : (unlist blocks inBlock id).get? hash = some ids) :
    ids ≠ [] := by
  unfold unlist at stored
  split at stored
  · rw [Dict.get?_erase] at stored
    split at stored
    · cases stored
    · exact nonempty hash ids stored
  next full =>
    rw [Dict.get?_set] at stored
    split at stored
    · cases stored
      exact full
    · exact nonempty hash ids stored

theorem nodup_keys_unlist
    (distinct : blocks.keys.Nodup)
    (hash : BlockHash)
    (id : WatchId) :
    (unlist blocks hash id).keys.Nodup := by
  unfold unlist
  split
  · exact Dict.nodup_keys_erase distinct hash
  · exact Dict.nodup_keys_set distinct hash _

/-- A watch that loses its event leaves the list of its block. -/
theorem Listed.lose
    {hash : BlockHash}
    (listed : Listed blocks watching)
    (found : watching.get? id = some old)
    (block : old.block = some hash)
    (event : watch.event = none)
    (counted : watch.confirmations = 0) :
    Listed (unlist blocks hash id) (watching.set id watch) := by
  refine ⟨?_, ?_, ?_, ?_, ?_, ?_, nodup_keys_unlist listed.hashes hash id⟩
  · intro other after stored inBlock
    rw [seenIn_unlist]
    rw [Dict.get?_set] at stored
    split at stored
    next isId =>
      subst isId
      cases stored
      have absent : ¬(watch.event ≠ none ∧ watch.block = some inBlock) :=
        fun present => present.1 event
      refine iff_of_false ?_ absent
      split
      · exact (listed.once hash).not_mem_erase
      next different =>
        intro seen
        have inOther := ((listed.listed other old found inBlock).mp seen).2
        rw [block, Option.some.injEq] at inOther
        exact different inOther.symm
    next isOther =>
      rw [← listed.listed other after stored inBlock]
      split
      next same =>
        rw [List.mem_erase_of_ne isOther, same]
      · exact Iff.rfl
  · intro other after stored present
    rw [Dict.get?_set] at stored
    split at stored
    · cases stored
      exact absurd event present
    · exact listed.filed other after stored present
  · intro inBlock other seen
    rw [Dict.keys_set_of_get? found]
    rw [seenIn_unlist] at seen
    split at seen
    · exact listed.watches hash other (List.mem_of_mem_erase seen)
    · exact listed.watches inBlock other seen
  · intro inBlock
    rw [seenIn_unlist]
    split
    · exact (listed.once hash).erase id
    · exact listed.once inBlock
  · intro inBlock ids stored
    exact get?_unlist_ne_nil listed.nonempty stored
  · intro other after stored absent
    rw [Dict.get?_set] at stored
    split at stored
    · cases stored
      exact counted
    · exact listed.counted other after stored absent

/-- A watch that is removed leaves the list of its block. -/
theorem Listed.remove
    {hash : BlockHash}
    (listed : Listed blocks watching)
    (found : watching.get? id = some old)
    (block : old.block = some hash) :
    Listed (unlist blocks hash id) (watching.erase id) := by
  have back : ∀ {other after}, (watching.erase id).get? other = some after →
      other ≠ id ∧ watching.get? other = some after := by
    intro other after stored
    rw [Dict.get?_erase] at stored
    split at stored
    · cases stored
    next different => exact ⟨different, stored⟩
  refine ⟨?_, ?_, ?_, ?_, ?_, ?_, nodup_keys_unlist listed.hashes hash id⟩
  · intro other after stored inBlock
    obtain ⟨different, was⟩ := back stored
    rw [seenIn_unlist, ← listed.listed other after was inBlock]
    split
    next same =>
      rw [List.mem_erase_of_ne different, same]
    · exact Iff.rfl
  · intro other after stored present
    exact listed.filed other after (back stored).2 present
  · intro inBlock other seen
    rw [seenIn_unlist] at seen
    rw [Dict.mem_keys_erase]
    split at seen
    next same =>
      refine ⟨listed.watches hash other (List.mem_of_mem_erase seen), ?_⟩
      intro isId
      exact (listed.once hash).not_mem_erase (isId ▸ seen)
    next different =>
      refine ⟨listed.watches inBlock other seen, ?_⟩
      intro isId
      have inOther :=
        ((listed.listed id old found inBlock).mp (isId ▸ seen)).2
      rw [block, Option.some.injEq] at inOther
      exact different inOther.symm
  · intro inBlock
    rw [seenIn_unlist]
    split
    · exact (listed.once hash).erase id
    · exact listed.once inBlock
  · intro inBlock ids stored
    exact get?_unlist_ne_nil listed.nonempty stored
  · intro other after stored absent
    exact listed.counted other after (back stored).2 absent

/-- A new pending watch is in no list. -/
theorem Listed.add
    (listed : Listed blocks watching)
    (new : id ∉ watching.keys)
    (event : watch.event = none)
    (counted : watch.confirmations = 0) :
    Listed blocks (watching.set id watch) := by
  refine ⟨?_, ?_, ?_, listed.once, listed.nonempty, ?_, listed.hashes⟩
  · intro other after stored inBlock
    rw [Dict.get?_set] at stored
    split at stored
    next isId =>
      subst isId
      cases stored
      refine iff_of_false ?_ fun present => present.1 event
      intro seen
      exact new (listed.watches inBlock other seen)
    · exact listed.listed other after stored inBlock
  · intro other after stored present
    rw [Dict.get?_set] at stored
    split at stored
    · cases stored
      exact absurd event present
    · exact listed.filed other after stored present
  · intro inBlock other seen
    rw [Dict.mem_keys_set]
    exact Or.inr (listed.watches inBlock other seen)
  · intro other after stored absent
    rw [Dict.get?_set] at stored
    split at stored
    · cases stored
      exact counted
    · exact listed.counted other after stored absent

/-! ## The input index -/

theorem indices_set
    (inputs : Dict Txid (List Nat))
    (txid other : Txid)
    (found : List Nat) :
    indices (inputs.set txid found) other =
      if other = txid then found else indices inputs other := by
  unfold indices
  rw [Dict.get?_set]
  split <;> rfl

theorem indices_erase
    (inputs : Dict Txid (List Nat))
    (txid other : Txid) :
    indices (inputs.erase txid) other =
      if other = txid then [] else indices inputs other := by
  unfold indices
  rw [Dict.get?_erase]
  split <;> rfl

/-- An index whose lists have no index twice and are not empty. -/
structure Clean (inputs : Dict Txid (List Nat)) : Prop where
  once : ∀ txid, (indices inputs txid).Nodup
  nonempty : ∀ txid found, inputs.get? txid = some found → found ≠ []

/-- One index is another without one outpoint. -/
theorem Clean.removed
    {txid : Txid}
    {n : Nat}
    (clean : Clean inputs) :
    Clean (if (indices inputs txid).erase n = [] then inputs.erase txid
        else inputs.set txid ((indices inputs txid).erase n)) ∧
      ∀ prevout : COutPoint,
        prevout.n ∈ indices
            (if (indices inputs txid).erase n = [] then inputs.erase txid
              else inputs.set txid ((indices inputs txid).erase n))
            prevout.hash ↔
          prevout.n ∈ indices inputs prevout.hash ∧ prevout ≠ ⟨txid, n⟩ := by
  have left : ∀ other,
      indices (if (indices inputs txid).erase n = [] then inputs.erase txid
          else inputs.set txid ((indices inputs txid).erase n)) other =
        if other = txid then (indices inputs txid).erase n
        else indices inputs other := by
    intro other
    split
    next empty =>
      rw [indices_erase, empty]
    · rw [indices_set]
  refine ⟨⟨?_, ?_⟩, ?_⟩
  · intro other
    rw [left]
    split
    · exact (clean.once txid).erase n
    · exact clean.once other
  · intro other found stored
    split at stored
    · rw [Dict.get?_erase] at stored
      split at stored
      · cases stored
      · exact clean.nonempty other found stored
    next full =>
      rw [Dict.get?_set] at stored
      split at stored
      · cases stored
        exact full
      · exact clean.nonempty other found stored
  · rintro ⟨hash, index⟩
    rw [left]
    simp only [ne_eq, COutPoint.mk.injEq]
    split
    next same =>
      subst same
      rw [(clean.once hash).mem_erase_iff]
      tauto
    next different => tauto

end CoinWatches

namespace CoinView

open CoinWatches

variable {Hex : Type}

/-- The view with another input index. -/
def withInputs
    (view : CoinView Hex)
    (inputs : Dict Txid (List Nat)) : CoinView Hex :=
  { view with inputs := inputs }

/-- Removing inputs that are in the index takes them out of it. -/
theorem removeInputs_spec
    {view : CoinView Hex}
    {prevouts : List COutPoint}
    (clean : Clean view.inputs)
    (distinct : prevouts.Nodup)
    (present : ∀ prevout ∈ prevouts,
      prevout.n ∈ indices view.inputs prevout.hash) :
    ∃ inputs, removeInputs prevouts view =
        Outcome.pure (view.withInputs inputs) () ∧
      Clean inputs ∧
      ∀ prevout : COutPoint, prevout.n ∈ indices inputs prevout.hash ↔
        prevout.n ∈ indices view.inputs prevout.hash ∧
          prevout ∉ prevouts := by
  induction prevouts generalizing view with
  | nil => exact ⟨view.inputs, rfl, clean, by simp⟩
  | cons first prevouts inductionHypothesis =>
      rw [List.nodup_cons] at distinct
      have isPresent := present first List.mem_cons_self
      obtain ⟨cleanLeft, left⟩ :=
        @Clean.removed view.inputs first.hash first.n clean
      generalize rest_eq :
        (if (indices view.inputs first.hash).erase first.n = [] then
          view.inputs.erase first.hash
        else view.inputs.set first.hash
          ((indices view.inputs first.hash).erase first.n)) = rest
        at cleanLeft left
      have removed : view.removeInput first =
          Outcome.pure (view.withInputs rest) () := by
        unfold removeInput
        cases found : view.inputs.get? first.hash with
        | none =>
            unfold indices at isPresent
            rw [found] at isPresent
            cases isPresent
        | some list =>
            have isList : indices view.inputs first.hash = list := by
              rw [indices, found]
              rfl
            rw [isList] at isPresent rest_eq
            dsimp only
            rw [if_pos isPresent, rest_eq]
            rfl
      have later : ∀ prevout ∈ prevouts,
          prevout.n ∈ indices (view.withInputs rest).inputs prevout.hash := by
        intro prevout mem
        refine (left prevout).mpr ⟨present prevout (List.mem_cons_of_mem _ mem),
          ?_⟩
        rintro rfl
        exact distinct.1 mem
      obtain ⟨inputs, returns, cleanAfter, after⟩ :=
        @inductionHypothesis (view.withInputs rest) cleanLeft distinct.2 later
      refine ⟨inputs, ?_, cleanAfter, ?_⟩
      · rw [removeInputs, removed]
        exact returns
      · intro prevout
        rw [after prevout]
        change prevout.n ∈ indices rest prevout.hash ∧ _ ↔ _
        rw [left prevout, List.mem_cons]
        tauto

/-- Storing inputs that are not in the index puts them into it. -/
theorem storeInputs_spec
    {view : CoinView Hex}
    {prevouts : List COutPoint}
    (clean : Clean view.inputs)
    (distinct : prevouts.Nodup)
    (absent : ∀ prevout ∈ prevouts,
      prevout.n ∉ indices view.inputs prevout.hash) :
    ∃ inputs, storeInputs prevouts view =
        Outcome.pure (view.withInputs inputs) () ∧
      Clean inputs ∧
      ∀ prevout : COutPoint, prevout.n ∈ indices inputs prevout.hash ↔
        prevout.n ∈ indices view.inputs prevout.hash ∨
          prevout ∈ prevouts := by
  induction prevouts generalizing view with
  | nil => exact ⟨view.inputs, rfl, clean, by simp⟩
  | cons first prevouts inductionHypothesis =>
      rw [List.nodup_cons] at distinct
      have isAbsent := absent first List.mem_cons_self
      have stored : view.storeInput first =
          Outcome.pure (view.withInputs (view.inputs.set first.hash
            (indices view.inputs first.hash ++ [first.n]))) () := by
        unfold storeInput
        unfold indices at isAbsent ⊢
        cases found : view.inputs.get? first.hash with
        | none => rfl
        | some list =>
            rw [found] at isAbsent
            dsimp only [Option.getD_some] at isAbsent ⊢
            rw [if_neg isAbsent]
            rfl
      generalize more_eq : view.inputs.set first.hash
        (indices view.inputs first.hash ++ [first.n]) = more at stored
      have held : ∀ prevout : COutPoint,
          prevout.n ∈ indices more prevout.hash ↔
            prevout.n ∈ indices view.inputs prevout.hash ∨ prevout = first := by
        rintro ⟨hash, index⟩
        obtain ⟨firstHash, firstIndex⟩ := first
        rw [← more_eq, indices_set]
        simp only [COutPoint.mk.injEq]
        split
        next same =>
          subst same
          simp
        next different => simp [different]
      have cleanMore : Clean more := by
        rw [← more_eq]
        constructor
        · intro txid
          rw [indices_set]
          split
          · rw [List.nodup_append]
            refine ⟨clean.once _, List.nodup_singleton _, ?_⟩
            intro n isIn other isFirst same
            rw [List.mem_singleton] at isFirst
            exact isAbsent (isFirst ▸ same ▸ isIn)
          · exact clean.once txid
        · intro txid found stored
          rw [Dict.get?_set] at stored
          split at stored
          · cases stored
            exact List.append_ne_nil_of_right_ne_nil _ (List.cons_ne_nil _ [])
          · exact clean.nonempty txid found stored
      have later : ∀ prevout ∈ prevouts,
          prevout.n ∉ indices (view.withInputs more).inputs prevout.hash := by
        intro prevout mem isIn
        rcases (held prevout).mp isIn with before | same
        · exact absent prevout (List.mem_cons_of_mem _ mem) before
        · exact distinct.1 (same ▸ mem)
      obtain ⟨inputs, returns, cleanAfter, after⟩ :=
        @inductionHypothesis (view.withInputs more) cleanMore distinct.2 later
      refine ⟨inputs, ?_, cleanAfter, ?_⟩
      · rw [storeInputs, stored]
        exact returns
      · intro prevout
        rw [after prevout]
        change prevout.n ∈ indices more prevout.hash ∨ _ ↔ _
        rw [held prevout, List.mem_cons, or_assoc]

end CoinView

namespace CoinWatches

variable {Hex : Type} {currency : String} {watchesById : Dict WatchId String}
  {inputs : Dict Txid (List Nat)} {watching : Dict WatchId (Watch Hex)}
  {id : WatchId} {watch : Watch Hex}

theorem Indexed.clean (indexed : Indexed inputs watching) : Clean inputs :=
  ⟨indexed.once, indexed.nonempty⟩

/-- The index without the inputs of a watch is the index without the watch. -/
theorem Indexed.remove
    {left : Dict Txid (List Nat)}
    (indexed : Indexed inputs watching)
    (found : watching.get? id = some watch)
    (clean : Clean left)
    (holds : ∀ prevout : COutPoint, prevout.n ∈ indices left prevout.hash ↔
      prevout.n ∈ indices inputs prevout.hash ∧ prevout ∉ watch.inputs) :
    Indexed left (watching.erase id) := by
  have back : ∀ {other after}, (watching.erase id).get? other = some after ↔
      other ≠ id ∧ watching.get? other = some after := by
    intro other after
    rw [Dict.get?_erase]
    split <;> simp_all
  refine ⟨?_, clean.once, clean.nonempty, ?_, ?_⟩
  · intro prevout
    rw [holds, indexed.holds]
    constructor
    · rintro ⟨⟨other, after, stored, spends⟩, apart⟩
      refine ⟨other, after, back.mpr ⟨?_, stored⟩, spends⟩
      rintro rfl
      rw [found] at stored
      cases stored
      exact apart spends
    · rintro ⟨other, after, stored, spends⟩
      obtain ⟨different, was⟩ := back.mp stored
      refine ⟨⟨other, after, was, spends⟩, ?_⟩
      intro shared
      exact different
        (indexed.apart other after was id watch found prevout spends shared)
  · intro other after stored
    exact indexed.own other after (back.mp stored).2
  · intro first firstWatch firstStored second secondWatch secondStored
    exact indexed.apart first firstWatch (back.mp firstStored).2 second
      secondWatch (back.mp secondStored).2

/-- The index with the inputs of a new watch is the index with the watch. -/
theorem Indexed.add
    {more : Dict Txid (List Nat)}
    (indexed : Indexed inputs watching)
    (new : id ∉ watching.keys)
    (own : watch.inputs.Nodup)
    (absent : ∀ prevout ∈ watch.inputs,
      prevout.n ∉ indices inputs prevout.hash)
    (clean : Clean more)
    (holds : ∀ prevout : COutPoint, prevout.n ∈ indices more prevout.hash ↔
      prevout.n ∈ indices inputs prevout.hash ∨ prevout ∈ watch.inputs) :
    Indexed more (watching.set id watch) := by
  have missing : watching.get? id = none := Dict.get?_eq_none_of_notMem new
  have unshared : ∀ {other after prevout}, watching.get? other = some after →
      prevout ∈ watch.inputs → prevout ∉ after.inputs := by
    intro other after prevout stored spends shared
    exact absent prevout spends
      ((indexed.holds prevout).mpr ⟨other, after, stored, shared⟩)
  refine ⟨?_, clean.once, clean.nonempty, ?_, ?_⟩
  · intro prevout
    rw [holds, indexed.holds]
    constructor
    · rintro (⟨other, after, stored, spends⟩ | spends)
      · refine ⟨other, after, ?_, spends⟩
        rw [Dict.get?_set_of_ne]
        · exact stored
        rintro rfl
        rw [missing] at stored
        cases stored
      · exact ⟨id, watch, Dict.get?_set_same _ _ _, spends⟩
    · rintro ⟨other, after, stored, spends⟩
      rw [Dict.get?_set] at stored
      split at stored
      · cases stored
        exact Or.inr spends
      · exact Or.inl ⟨other, after, stored, spends⟩
  · intro other after stored
    rw [Dict.get?_set] at stored
    split at stored
    · cases stored
      exact own
    · exact indexed.own other after stored
  · intro first firstWatch firstStored second secondWatch secondStored prevout
      firstSpends secondSpends
    rw [Dict.get?_set] at firstStored secondStored
    split at firstStored
    next isFirst =>
      cases firstStored
      split at secondStored
      next isSecond => rw [isFirst, isSecond]
      · exact absurd secondSpends (unshared secondStored firstSpends)
    · split at secondStored
      · cases secondStored
        exact absurd firstSpends (unshared firstStored secondSpends)
      · exact indexed.apart first firstWatch firstStored second secondWatch
          secondStored prevout firstSpends secondSpends

/-- Removing an id from both tables. -/
theorem IdsMatch.remove
    (idsMatch : IdsMatch currency watchesById watching)
    (id : WatchId) :
    IdsMatch currency (watchesById.erase id) (watching.erase id) := by
  refine ⟨Dict.nodup_keys_erase idsMatch.distinct id, ?_⟩
  intro other
  rw [Dict.get?_erase, Dict.mem_keys_erase, ← idsMatch.ids]
  split <;> simp_all

/-- Adding an id to both tables. -/
theorem IdsMatch.add
    (idsMatch : IdsMatch currency watchesById watching)
    (id : WatchId)
    (watch : Watch Hex) :
    IdsMatch currency (watchesById.set id currency)
      (watching.set id watch) := by
  refine ⟨Dict.nodup_keys_set idsMatch.distinct id watch, ?_⟩
  intro other
  rw [Dict.get?_set, Dict.mem_keys_set, ← idsMatch.ids]
  split <;> simp_all

end CoinWatches
end Coinbend
