import Coinbend.Monitor.Changes
import Mathlib.Data.List.Flatten

/-!
# What an orphaned block does to each watch

The loop over the block lists takes a confirmation from every watch it comes
to, and watches that lose their last one are taken from the lists under the
loop.  A watch that is listed once loses one confirmation at most.
-/

namespace Coinbend

variable {Hex : Type}

namespace CoinView

/-- Whether the watch under an id has a confirmation. -/
def counts (view : CoinView Hex) (id : WatchId) : Bool :=
  (view.watching.get? id).any fun watch => watch.confirmations ≠ 0

/-- The ids listed for a block. -/
def seen (view : CoinView Hex) (hash : BlockHash) : List WatchId :=
  (view.blocks.get? hash).getD []

/-- The ids listed for some blocks, one list after the other. -/
def listed (view : CoinView Hex) (hashes : List BlockHash) : List WatchId :=
  hashes.flatMap view.seen

/-- Of the watches with confirmations, each is listed once, for the block it
was found in. -/
def OrphanFits (view : CoinView Hex) : Prop :=
  (∀ hash ∈ view.blocks.keys, ∀ id ∈ view.seen hash,
    ∀ watch ∈ view.watching.get? id, watch.confirmations ≠ 0 →
      watch.block = some hash) ∧
    ((view.listed view.blocks.keys).filter view.counts).Nodup

instance (view : CoinView Hex) : Decidable (OrphanFits view) :=
  inferInstanceAs (Decidable ((∀ _ ∈ _, ∀ _ ∈ _, ∀ _ ∈ _, _ → _) ∧ _))

/-- Nothing is listed or counted that was not. -/
structure Shrinks (view after : CoinView Hex) : Prop where
  lists : ∀ hash, (after.seen hash).Sublist (view.seen hash)
  counts : ∀ id, after.counts id = true → view.counts id = true

/-- The watch under an id loses a confirmation. -/
def Loses (view after : CoinView Hex) (id : WatchId) : Prop :=
  ∃ old new, view.watching.get? id = some old ∧
    after.watching.get? id = some new ∧ Uncounted id old new

/-- The watches under some ids lose a confirmation each, or not; the others
stay. -/
def LosesAmong (ids : List WatchId) (view after : CoinView Hex) : Prop :=
  ∀ id, after.watching.get? id = view.watching.get? id ∨
    id ∈ ids ∧ Loses view after id

variable {view after last : CoinView Hex} {hash : BlockHash} {id : WatchId}

theorem Shrinks.refl (view : CoinView Hex) : Shrinks view view :=
  ⟨fun _ => List.Sublist.refl _, fun _ counted => counted⟩

theorem Shrinks.trans
    (one : Shrinks view after)
    (two : Shrinks after last) :
    Shrinks view last :=
  ⟨fun hash => (two.lists hash).trans (one.lists hash),
    fun id counted => one.counts id (two.counts id counted)⟩

theorem LosesAmong.refl (ids : List WatchId) (view : CoinView Hex) :
    LosesAmong ids view view :=
  fun _ => Or.inl rfl

/-- Who loses a confirmation had one. -/
theorem Loses.counts (loses : Loses view after id) : view.counts id = true := by
  obtain ⟨old, new, isOld, _, counted, _⟩ := loses
  rw [CoinView.counts, isOld]
  exact decide_eq_true counted

/-- Confirmations are only lost. -/
theorem LosesAmong.counts
    {ids : List WatchId}
    (loses : LosesAmong ids view after)
    (counted : after.counts id = true) :
    view.counts id = true := by
  rcases loses id with same | ⟨_, once⟩
  · rw [CoinView.counts, same] at counted
    exact counted
  · exact once.counts

/-- Watches that lose a confirmation in turn, each of them once. -/
theorem LosesAmong.trans
    {first later all : List WatchId}
    (one : LosesAmong first view after)
    (two : LosesAmong later after last)
    (apart : ∀ id ∈ first, id ∈ later → view.counts id ≠ true)
    (firstAll : ∀ id ∈ first, id ∈ all)
    (laterAll : ∀ id ∈ later, id ∈ all) :
    LosesAmong all view last := by
  intro id
  rcases one id with same | ⟨isFirst, once⟩
  · rcases two id with stays | ⟨isLater, old, new, isOld, isNew, loses⟩
    · exact Or.inl (stays.trans same)
    · exact Or.inr ⟨laterAll id isLater, old, new, same.symm.trans isOld, isNew,
        loses⟩
  · rcases two id with stays | ⟨isLater, _⟩
    · obtain ⟨old, new, isOld, isNew, loses⟩ := once
      exact Or.inr ⟨firstAll id isFirst, old, new, isOld, stays.trans isNew,
        loses⟩
    · exact absurd once.counts (apart id isFirst isLater)

/-! ## One watch -/

/-- Taking a watch from a list. -/
theorem seen_setOrErase (hash other : BlockHash) (rest : List WatchId) :
    CoinView.seen
        { view with
          blocks :=
            if rest = [] then view.blocks.erase hash
            else view.blocks.set hash rest }
        other =
      if other = hash then rest else view.seen other := by
  by_cases empty : rest = []
  · simp only [seen, if_pos empty, Dict.get?_erase]
    by_cases same : other = hash
    · rw [if_pos same, if_pos same, empty]
      rfl
    · rw [if_neg same, if_neg same]
  · simp only [seen, if_neg empty, Dict.get?_set]
    by_cases same : other = hash
    · rw [if_pos same, if_pos same]
      rfl
    · rw [if_neg same, if_neg same]

/-- A watch is taken from one list at most. -/
theorem removeSeen_seen (hash : BlockHash) (id : WatchId) :
    (view.removeSeen id).state.seen hash = view.seen hash ∨
      (view.removeSeen id).state.seen hash = (view.seen hash).erase id := by
  unfold removeSeen
  apply Outcome.attempt_state (motive := fun after : CoinView Hex =>
    after.seen hash = view.seen hash ∨
      after.seen hash = (view.seen hash).erase id) (Or.inl rfl)
  intro watch _
  apply Outcome.attempt_state (motive := fun after : CoinView Hex =>
    after.seen hash = view.seen hash ∨
      after.seen hash = (view.seen hash).erase id) (Or.inl rfl)
  intro inBlock _
  apply Outcome.attempt_state (motive := fun after : CoinView Hex =>
    after.seen hash = view.seen hash ∨
      after.seen hash = (view.seen hash).erase id) (Or.inl rfl)
  intro ids isSeen
  rw [Except.ofOption_eq_ok_iff] at isSeen
  dsimp only [Outcome.pure_state]
  rw [seen_setOrErase]
  split
  next same =>
    right
    rw [same, seen, isSeen]
    rfl
  · exact Or.inl rfl

/-- Taking a confirmation from a watch changes no other one, and takes it from
lists only. -/
theorem orphanWatch_once (id : WatchId) :
    LosesAmong [id] view (view.orphanWatch id).state ∧
      ∀ hash, (view.orphanWatch id).state.seen hash = view.seen hash ∨
        (view.orphanWatch id).state.seen hash = (view.seen hash).erase id := by
  have nothing : LosesAmong [id] view view ∧
      ∀ hash, view.seen hash = view.seen hash ∨
        view.seen hash = (view.seen hash).erase id :=
    ⟨.refl _ view, fun _ => Or.inl rfl⟩
  have put : ∀ {old new : Watch Hex} {after : CoinView Hex},
      view.watching.get? id = some old → Uncounted id old new →
      after.watching = view.watching.set id new →
      LosesAmong [id] view after := by
    intro old new after found loses stored other
    rw [stored, Dict.get?_set]
    split
    next same =>
      subst same
      refine Or.inr ⟨List.mem_singleton_self other, old, new, found, ?_, loses⟩
      rw [stored, Dict.get?_set_same]
    · exact Or.inl rfl
  unfold orphanWatch
  apply Outcome.attempt_state (motive := fun after : CoinView Hex =>
    LosesAmong [id] view after ∧ ∀ hash, after.seen hash = view.seen hash ∨
      after.seen hash = (view.seen hash).erase id) nothing
  intro watch found
  rw [Except.ofOption_eq_ok_iff] at found
  split
  · exact nothing
  next counted =>
  split
  next isLast =>
    have taken := @removeSeen_seen _
      (view.putWatch id { watch with confirmations := 0, event := none })
    refine ⟨put found ⟨counted, ?_⟩ (removeSeen_watching id), fun hash =>
      taken hash id⟩
    rw [if_pos isLast, isLast]
  next more =>
    refine ⟨put found ⟨counted, ?_⟩ rfl, fun _ => Or.inl rfl⟩
    rw [if_neg more]

/-! ## One list -/

/-- A watch that is taken from the list at the loop's place leaves what comes
later. -/
theorem drop_erase_sublist
    {ids : List WatchId}
    {index : Nat}
    (here : ids[index]? = some id) :
    ((ids.erase id).drop (index + 1)).Sublist (ids.drop (index + 1)) := by
  induction ids generalizing index with
  | nil => cases here
  | cons first ids inductionHypothesis =>
      by_cases same : first = id
      · subst same
        rw [List.erase_cons_head, List.drop_succ_cons]
        exact List.drop_sublist_drop_left ids (Nat.le_succ index)
      · cases index with
        | zero =>
            rw [List.getElem?_cons_zero, Option.some.injEq] at here
            exact absurd here same
        | succ index =>
            rw [List.getElem?_cons_succ] at here
            rw [List.erase_cons_tail (by simpa using same),
              List.drop_succ_cons, List.drop_succ_cons]
            exact inductionHypothesis here

/-- Taking a confirmation from the watch at the loop's place takes from lists
only, and leaves what comes later. -/
theorem orphanWatch_later
    {index : Nat}
    (here : (view.seen hash)[index]? = some id) :
    Shrinks view (view.orphanWatch id).state ∧
      (((view.orphanWatch id).state.seen hash).drop (index + 1)).Sublist
        ((view.seen hash).drop (index + 1)) := by
  obtain ⟨loses, taken⟩ := @orphanWatch_once _ view id
  constructor
  · refine ⟨fun other => ?_, fun _ counted => loses.counts counted⟩
    rcases taken other with same | erased
    · rw [same]
    · rw [erased]
      exact List.erase_sublist
  · rcases taken hash with same | erased
    · rw [same]
    · rw [erased]
      exact drop_erase_sublist here

/-- The loop over a list takes one confirmation at most from each watch it
comes to. -/
theorem orphanSeen_once
    (left index : Nat)
    (distinct : (((view.seen hash).drop index).filter view.counts).Nodup) :
    LosesAmong ((view.seen hash).drop index) view
        (orphanSeen hash left index view).state ∧
      Shrinks view (orphanSeen hash left index view).state := by
  induction left generalizing index view with
  | zero => exact ⟨.refl _ view, .refl view⟩
  | succ left inductionHypothesis =>
      unfold orphanSeen
      cases here : (view.seen hash)[index]? with
      | none =>
          rw [seen] at here
          rw [here]
          exact ⟨.refl _ view, .refl view⟩
      | some id =>
          have split : (view.seen hash).drop index =
              id :: (view.seen hash).drop (index + 1) := by
            obtain ⟨bound, isHere⟩ := List.getElem?_eq_some_iff.mp here
            rw [List.drop_eq_getElem_cons bound, isHere]
          have loses := (@orphanWatch_once _ view id).1
          obtain ⟨shrinks, later⟩ := orphanWatch_later here
          have inList : ∀ other ∈ [id],
              other ∈ (view.seen hash).drop index := by
            intro other mem
            rw [List.mem_singleton.mp mem, split]
            exact List.mem_cons_self
          rw [seen] at here
          rw [here]
          apply Outcome.bind_state (motive := fun after : CoinView Hex =>
            LosesAmong ((view.seen hash).drop index) view after ∧
              Shrinks view after)
          · refine ⟨fun other => ?_, shrinks⟩
            rcases loses other with same | ⟨mem, once⟩
            · exact Or.inl same
            · exact Or.inr ⟨inList other mem, once⟩
          intro _ _
          have apart : ∀ other ∈ [id],
              other ∈ ((view.orphanWatch id).state.seen hash).drop (index + 1) →
                view.counts other ≠ true := by
            intro other mem again counted
            rw [List.mem_singleton.mp mem] at again counted
            rw [split, List.filter_cons_of_pos counted,
              List.nodup_cons] at distinct
            exact distinct.1 (List.mem_filter.mpr
              ⟨later.subset again, counted⟩)
          have distinctLater : ((((view.orphanWatch id).state.seen hash).drop
              (index + 1)).filter
                (view.orphanWatch id).state.counts).Nodup := by
            have below := (later.filter (view.orphanWatch id).state.counts).trans
              (List.monotone_filter_right _ shrinks.counts)
            rw [split] at distinct
            exact distinct.sublist (below.trans
              ((List.sublist_cons_self _ _).filter _))
          obtain ⟨losesLater, shrinksLater⟩ :=
            inductionHypothesis (index + 1) distinctLater
          refine ⟨loses.trans losesLater apart inList fun other mem => ?_,
            shrinks.trans shrinksLater⟩
          rw [split]
          exact List.mem_cons_of_mem _ (later.subset mem)

/-! ## All lists -/

theorem dropEmpty_seen (hash other : BlockHash) :
    (view.dropEmpty hash).seen other = view.seen other := by
  unfold dropEmpty
  split
  next empty =>
    simp only [seen, Dict.get?_erase]
    split
    next same =>
      rw [same, empty]
      rfl
    · rfl
  · rfl

theorem orphanBlocks_once
    (hashes : List BlockHash)
    (distinct : ((view.listed hashes).filter view.counts).Nodup) :
    LosesAmong (view.listed hashes) view
      (orphanBlocks hashes view).state := by
  induction hashes generalizing view with
  | nil => exact .refl _ view
  | cons hash hashes inductionHypothesis =>
      rw [orphanBlocks]
      apply Outcome.attempt_state (motive := fun after : CoinView Hex =>
        LosesAmong (view.listed (hash :: hashes)) view after) (.refl _ view)
      intro ids _
      rw [listed, List.flatMap_cons, List.filter_append,
        List.nodup_append'] at distinct
      obtain ⟨here, there, disjoint⟩ := distinct
      obtain ⟨loses, shrinks⟩ := @orphanSeen_once _ view hash ids.length 0 here
      rw [List.drop_zero] at loses
      generalize orphanSeen hash ids.length 0 view = middle at loses shrinks ⊢
      have inAll : ∀ id ∈ view.seen hash, id ∈ view.listed (hash :: hashes) := by
        intro id mem
        exact List.mem_append_left _ mem
      apply Outcome.bind_state (motive := fun after : CoinView Hex =>
        LosesAmong (view.listed (hash :: hashes)) view after)
      · intro id
        rcases loses id with same | ⟨mem, once⟩
        · exact Or.inl same
        · exact Or.inr ⟨inAll id mem, once⟩
      intro _ _
      have watching : (middle.state.dropEmpty hash).watching =
          middle.state.watching := by
        unfold dropEmpty
        split <;> rfl
      have losesOnce : LosesAmong (view.seen hash) view
          (middle.state.dropEmpty hash) := by
        intro id
        rw [Loses, watching]
        exact loses id
      have below : ((middle.state.dropEmpty hash).listed hashes).Sublist
          (view.listed hashes) := by
        refine List.Sublist.flatMap_right hashes fun other _ => ?_
        rw [dropEmpty_seen]
        exact shrinks.lists other
      have distinctLater : (((middle.state.dropEmpty hash).listed
          hashes).filter (middle.state.dropEmpty hash).counts).Nodup :=
        there.sublist ((below.filter _).trans
          (List.monotone_filter_right _ fun _ => losesOnce.counts))
      refine losesOnce.trans (inductionHypothesis distinctLater) ?_ inAll
        fun id mem => List.mem_append_right _ (below.subset mem)
      intro id mem later counted
      exact disjoint (List.mem_filter.mpr ⟨mem, counted⟩)
        (List.mem_filter.mpr ⟨below.subset later, counted⟩)

/-- An orphaned block takes a confirmation from a watch at most, and only if
the watch is listed for the block it was found in. -/
theorem processOrphan_once
    (fits : OrphanFits view)
    (hash : BlockHash)
    {old new : Watch Hex}
    (isOld : view.watching.get? id = some old)
    (isNew : (view.processOrphan hash).state.watching.get? id = some new) :
    new = old ∨
      Uncounted id old new ∧
        ∃ inBlock, old.block = some inBlock ∧ id ∈ view.seen inBlock := by
  obtain ⟨own, once⟩ := fits
  have loses : LosesAmong (view.listed view.blocks.keys) view
      (view.processOrphan hash).state := by
    have all := orphanBlocks_once view.blocks.keys once
    unfold processOrphan
    apply Outcome.bind_state (motive := fun after : CoinView Hex =>
      LosesAmong (view.listed view.blocks.keys) view after) all
    intro _ _ id
    have watching : ((orphanBlocks view.blocks.keys view).state.clearProcessed
        hash).watching = (orphanBlocks view.blocks.keys view).state.watching := by
      unfold clearProcessed
      split <;> rfl
    rw [Outcome.pure_state, Loses, watching]
    exact all id
  rcases loses id with same | ⟨mem, before, after, isBefore, isAfter, change⟩
  · rw [same, isOld, Option.some.injEq] at isNew
    exact Or.inl isNew.symm
  · rw [isOld, Option.some.injEq] at isBefore
    rw [isNew, Option.some.injEq] at isAfter
    subst isBefore isAfter
    obtain ⟨inBlock, isKey, isSeen⟩ := List.mem_flatMap.mp mem
    exact Or.inr ⟨change, inBlock,
      own inBlock isKey id isSeen old isOld change.1, isSeen⟩

end CoinView
end Coinbend
