import Coinbend.Monitor.Visits

/-!
# Who is blamed for a double spend

A transaction of a block that spends inputs in the index is noted for every
pending watch that is compared with it in vain, and acted on for the watch it
was noted for first unless some watch holds it.  Where that watch owns one of
the inputs, and acting on the note does not uncover what other watches have a
note of, nobody else is blamed.
-/

namespace Coinbend

variable {Hex : Type} [DecidableEq Hex]

section

variable (env : MonitorEnv Hex)

/-- The inputs of the index that a transaction of a block spends. -/
def spends (inputs : Dict Txid (List Nat)) (txHex : Hex) : List COutPoint :=
  ((env.lib.deserialize txHex).map (spentInputs inputs)).getD []

namespace Watch

/-- The transactions a pending watch is compared with in vain. -/
def passes (txHexs : List Hex) (watch : Watch Hex) : List Hex :=
  if watch.event ≠ none then []
  else
    match watch.needle with
    | .txHex value =>
        txHexs.takeWhile fun txHex => needleEvent env value txHex = none
    | _ => []

/-- The transaction a pending watch finds. -/
def awaits (txHexs : List Hex) (watch : Watch Hex) : Option Hex :=
  if watch.event ≠ none then none
  else
    match watch.needle with
    | .txHex value =>
        txHexs.find? fun txHex => (needleEvent env value txHex).isSome
    | _ => none

/-- The transaction a watch holds once it was compared with those of a block. -/
def holds (txHexs : List Hex) (watch : Watch Hex) : Option Hex :=
  (awaits env txHexs watch).or watch.foundTxHex

end Watch

namespace CoinView

variable (txHexs : List Hex) (view : CoinView Hex)

/-- The transactions noted for the watch under an id. -/
def noted (id : WatchId) : List Hex :=
  (((view.watching.get? id).map (Watch.passes env txHexs)).getD []).filter
    fun txHex => spends env view.inputs txHex ≠ []

/-- The transaction the watch under an id holds. -/
def held (id : WatchId) : Option Hex :=
  (view.watching.get? id).bind (Watch.holds env txHexs)

/-- No watch holds a transaction. -/
def Unheld (txHex : Hex) : Prop :=
  ∀ id ∈ view.watching.keys, held env txHexs view id ≠ some txHex

instance (txHex : Hex) : Decidable (Unheld env txHexs view txHex) :=
  inferInstanceAs (Decidable (∀ _ ∈ _, _))

/-- The first watch of the table that a transaction is noted for. -/
def firstNoted (txHex : Hex) : Option WatchId :=
  view.watching.keys.find? fun id => txHex ∈ noted env txHexs view id

/-- The watch under an id owns an input that a transaction spends. -/
def OwnsInput (txHex : Hex) (id : WatchId) : Prop :=
  ∃ watch ∈ view.watching.get? id,
    ∃ prevout ∈ spends env view.inputs txHex, prevout ∈ watch.inputs

instance (txHex : Hex) (id : WatchId) :
    Decidable (OwnsInput env view txHex id) :=
  inferInstanceAs (Decidable (∃ _ ∈ _, ∃ _ ∈ _, _))

/-- Nobody has a note of what the watch under an id holds. -/
def HoldsUnnoted (id : WatchId) : Prop :=
  ∀ known ∈ held env txHexs view id, ∀ other ∈ view.watching.keys,
    known ∉ noted env txHexs view other

instance (id : WatchId) : Decidable (HoldsUnnoted env txHexs view id) :=
  inferInstanceAs (Decidable (∀ _ ∈ _, ∀ _ ∈ _, _))

/-- Nobody else has a note of another transaction that the watch under an id is
the first to have a note of. -/
def BlamedAlone (txHex : Hex) (id : WatchId) : Prop :=
  ∀ another ∈ txHexs, Unheld env txHexs view another →
    firstNoted env txHexs view another = some id → another ≠ txHex →
      ∀ other ∈ view.watching.keys,
        another ∈ noted env txHexs view other → other = id

instance (txHex : Hex) (id : WatchId) :
    Decidable (BlamedAlone env txHexs view txHex id) :=
  inferInstanceAs (Decidable (∀ _ ∈ _, _ → _ → _ → ∀ _ ∈ _, _ → _))

/-- The watch under an id is rightly blamed for a transaction, and blaming it
uncovers nothing that others have a note of. -/
def BlameFits (txHex : Hex) (id : WatchId) : Prop :=
  OwnsInput env view txHex id ∧ HoldsUnnoted env txHexs view id ∧
    BlamedAlone env txHexs view txHex id

instance (txHex : Hex) (id : WatchId) :
    Decidable (BlameFits env txHexs view txHex id) :=
  inferInstanceAs (Decidable (_ ∧ _ ∧ _))

/-- The double spends of a block that no watch holds are rightly blamed on the
first watch they are noted for. -/
def BlockFits : Prop :=
  ∀ txHex ∈ txHexs, Unheld env txHexs view txHex →
    ∀ id ∈ firstNoted env txHexs view txHex,
      BlameFits env txHexs view txHex id

instance : Decidable (BlockFits env txHexs view) :=
  inferInstanceAs (Decidable (∀ _ ∈ _, _ → ∀ _ ∈ _, _))

end CoinView

end

variable {env : MonitorEnv Hex} {currency : String} {txHexs : List Hex}

/-! ## Scans -/

/-- The note of a transaction for a watch. -/
def note
    (env : MonitorEnv Hex)
    (inputs : Dict Txid (List Nat))
    (watchId : WatchId)
    (txHex : Hex) : DoubleSpend Hex :=
  ⟨txHex, spends env inputs txHex, watchId⟩

/-- A scan notes the transactions before the one it finds that spend inputs in
the index. -/
theorem scan_txHex
    {inputs : Dict Txid (List Nat)}
    {watchId : WatchId}
    {value : Hex}
    {tx : Option CTransaction}
    {scanned : Scan Hex}
    (isScanned : scan env currency inputs watchId (.txHex value) txHexs tx =
      .ok scanned) :
    scanned.doubleSpends =
        ((txHexs.takeWhile fun txHex => needleEvent env value txHex = none).filter
          fun txHex => spends env inputs txHex ≠ []).map
            (note env inputs watchId) ∧
      scanned.found.map Prod.snd =
        txHexs.find? fun txHex => (needleEvent env value txHex).isSome := by
  induction txHexs generalizing tx scanned with
  | nil =>
      cases isScanned
      exact ⟨rfl, rfl⟩
  | cons first txHexs inductionHypothesis =>
      unfold scan at isScanned
      rw [Except.bind_eq_ok_iff] at isScanned
      obtain ⟨parsed, isParsed, isScanned⟩ := isScanned
      rw [BitcoinLib.parse_eq_ok_iff] at isParsed
      have spent : spends env inputs first = spentInputs inputs parsed := by
        rw [spends, isParsed]
        rfl
      dsimp only at isScanned
      cases isEvent : needleEvent env value first with
      | some event =>
          rw [isEvent] at isScanned
          cases isScanned
          simp [isEvent]
      | none =>
          rw [isEvent] at isScanned
          simp only [Except.bind_eq_ok_iff] at isScanned
          obtain ⟨rest, isRest, isScanned⟩ := isScanned
          obtain ⟨notes, found⟩ := inductionHypothesis isRest
          rw [List.takeWhile_cons_of_pos (by simp [isEvent]),
            List.find?_cons_of_neg (by simp [isEvent]), List.filter_cons, spent]
          split at isScanned
          next unspent =>
            cases isScanned
            simp only [unspent, ne_eq, not_true_eq_false, decide_false,
              Bool.false_eq_true, if_false]
            exact ⟨notes, found⟩
          next spending =>
            cases isScanned
            simp only [spending, ne_eq, not_false_eq_true, decide_true, if_true,
              List.map_cons]
            refine ⟨?_, found⟩
            rw [← notes, note, spent]

/-- A scan for anything else notes and finds nothing. -/
theorem scan_other
    {inputs : Dict Txid (List Nat)}
    {watchId : WatchId}
    {needle : Needle Hex}
    {tx : Option CTransaction}
    {scanned : Scan Hex}
    (other : ∀ value, needle ≠ .txHex value)
    (isScanned : scan env currency inputs watchId needle txHexs tx =
      .ok scanned) :
    scanned.doubleSpends = [] ∧ scanned.found = none := by
  induction txHexs generalizing tx scanned with
  | nil =>
      cases isScanned
      exact ⟨rfl, rfl⟩
  | cons first txHexs inductionHypothesis =>
      unfold scan at isScanned
      rw [Except.bind_eq_ok_iff] at isScanned
      obtain ⟨parsed, _, isScanned⟩ := isScanned
      cases needle with
      | txHex value => exact absurd rfl (other value)
      | address type value =>
          simp only [Except.bind_eq_ok_iff] at isScanned
          obtain ⟨_, _, _, _, isScanned⟩ := isScanned
          exact inductionHypothesis isScanned
      | txid value => exact inductionHypothesis isScanned
      | other type value => exact inductionHypothesis isScanned

namespace CoinView

variable {view : CoinView Hex} {block : Block}

/-- The notes of a block. -/
theorem suspectsOf_eq
    (scanned : Scanned env currency txHexs view)
    (id : WatchId) :
    suspectsOf env currency txHexs view id =
      (noted env txHexs view id).map (note env view.inputs id) := by
  rw [suspectsOf, noted]
  cases found : view.watching.get? id with
  | none => rfl
  | some watch =>
      simp only [Option.map_some, Option.getD_some]
      rw [Watch.suspects, Watch.passes]
      by_cases present : watch.event ≠ none
      · rw [if_pos present, if_pos present]
        rfl
      · obtain ⟨alone, isAlone⟩ := scanned id watch found (not_not.mp present)
        rw [if_neg present, if_neg present, isAlone]
        cases isNeedle : watch.needle with
        | txHex value =>
            rw [isNeedle] at isAlone
            exact (scan_txHex isAlone).1
        | _ =>
            rw [isNeedle] at isAlone
            exact (scan_other (by simp) isAlone).1

/-- What the watches hold after the loop. -/
theorem textAfter_eq
    (scanned : Scanned env currency txHexs view)
    (id : WatchId) :
    textAfter env currency block txHexs view id = held env txHexs view id := by
  rw [textAfter, held]
  cases found : view.watching.get? id with
  | none => rfl
  | some watch =>
      rw [Option.bind_some, Option.bind_some, Watch.holds, Watch.awaits]
      by_cases present : watch.event ≠ none
      · rw [Watch.visited_of_event env present, if_pos present]
        rfl
      · have pending : watch.event = none := not_not.mp present
        obtain ⟨alone, isAlone⟩ := scanned id watch found pending
        have finds_eq : watch.finds env currency view.inputs txHexs id =
            alone.found := by
          rw [Watch.finds, if_neg present, isAlone]
        have awaited : alone.found.map Prod.snd =
            (match watch.needle with
              | .txHex value => txHexs.find? fun txHex =>
                  (needleEvent env value txHex).isSome
              | _ => none) := by
          cases isNeedle : watch.needle with
          | txHex value =>
              rw [isNeedle] at isAlone
              exact (scan_txHex isAlone).2
          | _ =>
              rw [isNeedle] at isAlone
              rw [(scan_other (by simp) isAlone).2]
              rfl
        rw [if_neg present, ← awaited]
        cases something : alone.found with
        | none =>
            rw [something] at finds_eq
            rw [Watch.visited_of_finds_none env pending finds_eq]
            rfl
        | some pair =>
            rw [something] at finds_eq
            rw [Watch.visited_of_finds env pending finds_eq]
            rfl

/-! ## Notes -/

/-- A transaction was noted for a watch first. -/
def NotedFirst (notes : List (DoubleSpend Hex)) (first : DoubleSpend Hex) :
    Prop :=
  notes.find? (fun other => other.txHex = first.txHex) = some first

/-- No watch holds a transaction. -/
def Unknown
    (ids : List WatchId)
    (texts : WatchId → Option Hex)
    (txHex : Hex) : Prop :=
  ∀ id ∈ ids, texts id ≠ some txHex

/-- Acting on a note uncovers no transaction that somebody else has a note of:
none that the watch held, and none that it was blamed for before. -/
structure Covered
    (ids : List WatchId)
    (notes : List (DoubleSpend Hex))
    (texts : WatchId → Option Hex) : Prop where
  listed : ∀ note ∈ notes, note.watchId ∈ ids
  held : ∀ first ∈ notes, NotedFirst notes first →
    Unknown ids texts first.txHex →
      ∀ other ∈ notes, texts first.watchId ≠ some other.txHex
  blamed : ∀ first ∈ notes, NotedFirst notes first →
    Unknown ids texts first.txHex →
      ∀ second ∈ notes, NotedFirst notes second →
        Unknown ids texts second.txHex → second.watchId = first.watchId →
          second.txHex ≠ first.txHex →
            ∀ other ∈ notes, other.txHex = second.txHex →
              other.watchId = second.watchId

/-- What is known after some of the notes: what was known is, and so is what
was acted on unless its watch alone has notes of it; a watch holds what it did
or what it was blamed for. -/
structure Resolved
    (ids : List WatchId)
    (notes done : List (DoubleSpend Hex))
    (before after : WatchId → Option Hex) : Prop where
  known : ∀ note ∈ notes, ¬Unknown ids before note.txHex →
    ¬Unknown ids after note.txHex
  acted : ∀ note ∈ done, Unknown ids after note.txHex →
    ∀ first, NotedFirst notes first → first.txHex = note.txHex →
      ∀ other ∈ notes, other.txHex = note.txHex →
        other.watchId = first.watchId
  texts : ∀ id, after id = before id ∨
    ∃ first ∈ notes, NotedFirst notes first ∧
      Unknown ids before first.txHex ∧ first.watchId = id ∧
      after id = some first.txHex

omit [DecidableEq Hex] in
theorem not_unknown_iff
    {ids : List WatchId}
    {texts : WatchId → Option Hex}
    {txHex : Hex} :
    ¬Unknown ids texts txHex ↔ ∃ id ∈ ids, texts id = some txHex := by
  unfold Unknown
  push Not
  rfl

theorem Resolved.refl
    (ids : List WatchId)
    (notes : List (DoubleSpend Hex))
    (texts : WatchId → Option Hex) :
    Resolved ids notes [] texts texts where
  known := fun _ _ known => known
  acted := fun _ mem => absurd mem List.not_mem_nil
  texts := fun _ => Or.inl rfl

/-- A note of a transaction that is known by then changes nothing. -/
theorem Resolved.skip
    {ids : List WatchId}
    {notes done : List (DoubleSpend Hex)}
    {before after : WatchId → Option Hex}
    {doubleSpend : DoubleSpend Hex}
    (resolved : Resolved ids notes done before after)
    (known : ¬Unknown ids after doubleSpend.txHex) :
    Resolved ids notes (done ++ [doubleSpend]) before after where
  known := resolved.known
  acted := by
    intro note mem
    rcases List.mem_append.mp mem with mem | mem
    · exact resolved.acted note mem
    · rw [List.mem_singleton.mp mem]
      exact fun unknown => absurd unknown known
  texts := resolved.texts

/-- A note that is acted on was made for the watch its transaction was noted
for first, as a transaction nobody held. -/
theorem Resolved.first
    {ids : List WatchId}
    {notes done rest : List (DoubleSpend Hex)}
    {before after : WatchId → Option Hex}
    {doubleSpend : DoubleSpend Hex}
    (resolved : Resolved ids notes done before after)
    (split : notes = done ++ doubleSpend :: rest)
    (unknown : Unknown ids after doubleSpend.txHex) :
    Unknown ids before doubleSpend.txHex ∧
      ∃ first ∈ notes, NotedFirst notes first ∧
        first.txHex = doubleSpend.txHex ∧
        first.watchId = doubleSpend.watchId := by
  have isNote : doubleSpend ∈ notes := by
    rw [split]
    simp
  constructor
  · by_contra held
    exact resolved.known doubleSpend isNote held unknown
  cases isFirst : notes.find? fun other =>
      other.txHex = doubleSpend.txHex with
  | none =>
      have none_same := List.find?_eq_none.mp isFirst doubleSpend isNote
      simp at none_same
  | some first =>
      have sameText : first.txHex = doubleSpend.txHex := by
        simpa using List.find?_some isFirst
      have notedFirst : NotedFirst notes first := by
        rw [NotedFirst, sameText]
        exact isFirst
      refine ⟨first, List.mem_of_find?_eq_some isFirst, notedFirst, sameText, ?_⟩
      cases earlier : done.find? fun other =>
          other.txHex = doubleSpend.txHex with
      | none =>
          rw [split, List.find?_append, earlier, Option.none_or,
            List.find?_cons_of_pos (by simp), Option.some.injEq] at isFirst
          rw [isFirst]
      | some other =>
          have otherText : other.txHex = doubleSpend.txHex := by
            simpa using List.find?_some earlier
          have alone := resolved.acted other (List.mem_of_find?_eq_some earlier)
          rw [otherText] at alone
          exact (alone unknown first notedFirst sameText doubleSpend isNote
            rfl).symm

/-- What the blamed watch holds is in no note, or was unknown and its watch
alone has notes of it. -/
theorem Resolved.uncovered
    {ids : List WatchId}
    {notes done rest : List (DoubleSpend Hex)}
    {before after : WatchId → Option Hex}
    {doubleSpend note : DoubleSpend Hex}
    (covered : Covered ids notes before)
    (resolved : Resolved ids notes done before after)
    (split : notes = done ++ doubleSpend :: rest)
    (unknown : Unknown ids after doubleSpend.txHex)
    (mem : note ∈ notes)
    (holds : after doubleSpend.watchId = some note.txHex) :
    Unknown ids before note.txHex ∧
      ∀ first, NotedFirst notes first → first.txHex = note.txHex →
        ∀ other ∈ notes, other.txHex = note.txHex →
          other.watchId = first.watchId := by
  obtain ⟨wasUnknown, first, isFirst, notedFirst, firstText, firstId⟩ :=
    resolved.first split unknown
  have isNote : doubleSpend ∈ notes := by
    rw [split]
    simp
  rcases resolved.texts doubleSpend.watchId with same | ⟨second, isSecond,
    notedSecond, secondUnknown, secondId, secondText⟩
  · rw [same, ← firstId] at holds
    exact absurd holds (covered.held first isFirst notedFirst
      (firstText ▸ wasUnknown) note mem)
  · rw [holds, Option.some.injEq] at secondText
    refine ⟨secondText ▸ secondUnknown, ?_⟩
    intro again notedAgain againText other isOther otherText
    have sameSecond : again = second := by
      rw [NotedFirst, againText, secondText] at notedAgain
      rw [NotedFirst] at notedSecond
      exact Option.some.inj (notedAgain.symm.trans notedSecond)
    rw [sameSecond]
    refine covered.blamed first isFirst notedFirst (firstText ▸ wasUnknown)
      second isSecond notedSecond secondUnknown
      (secondId.trans firstId.symm) ?_ other isOther
      (otherText.trans secondText)
    rw [firstText, ← secondText]
    intro same
    refine unknown doubleSpend.watchId (covered.listed doubleSpend isNote) ?_
    rw [holds, same]

omit [DecidableEq Hex] in
/-- A text that is lost when a watch takes another one was held by it. -/
theorem holds_of_lost
    {ids : List WatchId}
    {texts : WatchId → Option Hex}
    {id : WatchId}
    {taken txHex : Hex}
    (known : ¬Unknown ids texts txHex)
    (lost : Unknown ids (Function.update texts id (some taken)) txHex) :
    texts id = some txHex := by
  obtain ⟨holder, mem, holds⟩ := not_unknown_iff.mp known
  have changed := lost holder mem
  rw [Function.update_apply] at changed
  split at changed
  next same => exact same ▸ holds
  · exact absurd holds changed

/-- Acting on a note keeps what is known, but for what its watch alone has
notes of. -/
theorem Resolved.act
    {ids : List WatchId}
    {notes done rest : List (DoubleSpend Hex)}
    {before after : WatchId → Option Hex}
    {doubleSpend : DoubleSpend Hex}
    (covered : Covered ids notes before)
    (resolved : Resolved ids notes done before after)
    (split : notes = done ++ doubleSpend :: rest)
    (unknown : Unknown ids after doubleSpend.txHex) :
    Resolved ids notes (done ++ [doubleSpend]) before
      (Function.update after doubleSpend.watchId (some doubleSpend.txHex)) := by
  obtain ⟨wasUnknown, first, isFirst, notedFirst, firstText, firstId⟩ :=
    resolved.first split unknown
  have isNote : doubleSpend ∈ notes := by
    rw [split]
    simp
  refine ⟨?_, ?_, ?_⟩
  · intro note mem known lost
    have holds := holds_of_lost (resolved.known note mem known) lost
    exact known (resolved.uncovered covered split unknown mem holds).1
  · intro note mem lost
    rcases List.mem_append.mp mem with mem | mem
    · have isNoted : note ∈ notes := by
        rw [split]
        exact List.mem_append_left _ mem
      by_cases known : Unknown ids after note.txHex
      · exact resolved.acted note mem known
      · exact (resolved.uncovered covered split unknown isNoted
          (holds_of_lost known lost)).2
    · rw [List.mem_singleton.mp mem] at lost
      refine absurd ?_ (lost doubleSpend.watchId
        (covered.listed doubleSpend isNote))
      rw [Function.update_self]
  · intro id
    rw [Function.update_apply]
    split
    next same =>
      refine Or.inr ⟨first, isFirst, notedFirst, firstText ▸ wasUnknown,
        firstId.trans same.symm, ?_⟩
      rw [firstText]
    · exact resolved.texts id

/-- Whom a double spend is acted on for, it was noted for first. -/
theorem blame_first
    {ids : List WatchId}
    {notes done rest : List (DoubleSpend Hex)}
    {before after : WatchId → Option Hex}
    {doubleSpend : DoubleSpend Hex}
    (covered : Covered ids notes before)
    (resolved : Resolved ids notes done before after)
    (split : notes = done ++ rest)
    (isBlamed : doubleSpend ∈ blame ids rest after) :
    Unknown ids before doubleSpend.txHex ∧
      ∃ first ∈ notes, NotedFirst notes first ∧
        first.txHex = doubleSpend.txHex ∧
        first.watchId = doubleSpend.watchId := by
  induction rest generalizing done after with
  | nil => cases isBlamed
  | cons next rest inductionHypothesis =>
      have split' : notes = (done ++ [next]) ++ rest := by
        rw [split, List.append_assoc, List.singleton_append]
      have isKnown : (ids.any fun id => after id = some next.txHex) = true ↔
          ¬Unknown ids after next.txHex := by
        rw [not_unknown_iff]
        simp
      unfold blame at isBlamed
      split at isBlamed
      next known =>
        exact inductionHypothesis (resolved.skip (isKnown.mp known)) split'
          isBlamed
      next unknown =>
        have isUnknown : Unknown ids after next.txHex :=
          not_not.mp fun known => unknown (isKnown.mpr known)
        rcases List.mem_cons.mp isBlamed with rfl | isBlamed
        · exact resolved.first split isUnknown
        · exact inductionHypothesis (resolved.act covered split isUnknown)
            split' isBlamed

/-! ## Blocks -/

/-- The first note of a transaction is that for the first watch it is noted
for. -/
theorem find?_notes
    (ids : List WatchId)
    (view : CoinView Hex)
    (txHex : Hex) :
    (ids.flatMap fun id =>
        (noted env txHexs view id).map (note env view.inputs id)).find?
        (fun other => other.txHex = txHex) =
      (ids.find? fun id => txHex ∈ noted env txHexs view id).map fun id =>
        note env view.inputs id txHex := by
  induction ids with
  | nil => rfl
  | cons id ids inductionHypothesis =>
      rw [List.flatMap_cons, List.find?_append, inductionHypothesis]
      have here : ((noted env txHexs view id).map
            (note env view.inputs id)).find?
            (fun other => other.txHex = txHex) =
          if txHex ∈ noted env txHexs view id then
            some (note env view.inputs id txHex)
          else none := by
        rw [List.find?_map]
        cases isNoted : (noted env txHexs view id).find?
            ((fun other => decide (other.txHex = txHex)) ∘
              note env view.inputs id) with
        | none =>
            have absent : txHex ∉ noted env txHexs view id := by
              intro mem
              have different := List.find?_eq_none.mp isNoted txHex mem
              simp [note] at different
            rw [if_neg absent]
            rfl
        | some same =>
            have sameText : same = txHex := by
              have accepted := List.find?_some isNoted
              exact of_decide_eq_true accepted
            have mem := List.mem_of_find?_eq_some isNoted
            rw [if_pos (sameText ▸ mem), Option.map_some, sameText]
      rw [here, List.find?_cons]
      by_cases mem : txHex ∈ noted env txHexs view id
      · simp [mem]
      · simp [mem]

/-- Only transactions of the block are noted. -/
theorem mem_of_noted
    {id : WatchId}
    {txHex : Hex}
    (isNoted : txHex ∈ noted env txHexs view id) :
    txHex ∈ txHexs := by
  have passed := List.mem_of_mem_filter isNoted
  cases found : view.watching.get? id with
  | none =>
      rw [found] at passed
      cases passed
  | some watch =>
      rw [found] at passed
      simp only [Option.map_some, Option.getD_some] at passed
      unfold Watch.passes at passed
      split at passed
      · cases passed
      · split at passed
        · exact (List.takeWhile_sublist _).subset passed
        · cases passed

/-- The notes of a block, watch by watch. -/
def notes
    (env : MonitorEnv Hex)
    (txHexs : List Hex)
    (view : CoinView Hex) : List (DoubleSpend Hex) :=
  view.watching.keys.flatMap fun id =>
    (noted env txHexs view id).map (note env view.inputs id)

theorem of_mem_notes
    {other : DoubleSpend Hex}
    (mem : other ∈ notes env txHexs view) :
    other.watchId ∈ view.watching.keys ∧
      other.txHex ∈ noted env txHexs view other.watchId := by
  obtain ⟨id, isId, isNote⟩ := List.mem_flatMap.mp mem
  obtain ⟨txHex, isNoted, rfl⟩ := List.mem_map.mp isNote
  exact ⟨isId, isNoted⟩

/-- The first note of a transaction nobody holds is of a watch that fits. -/
theorem blameFits_of_first
    (fits : BlockFits env txHexs view)
    {first : DoubleSpend Hex}
    (mem : first ∈ notes env txHexs view)
    (isFirst : NotedFirst (notes env txHexs view) first)
    (unknown : Unknown view.watching.keys (held env txHexs view)
      first.txHex) :
    first.txHex ∈ txHexs ∧
      firstNoted env txHexs view first.txHex = some first.watchId ∧
      BlameFits env txHexs view first.txHex first.watchId := by
  have inBlock := mem_of_noted (of_mem_notes mem).2
  rw [NotedFirst, notes, find?_notes] at isFirst
  obtain ⟨id, isId, same⟩ := Option.map_eq_some_iff.mp isFirst
  have sameId : id = first.watchId := congrArg DoubleSpend.watchId same
  subst sameId
  exact ⟨inBlock, isId, fits first.txHex inBlock unknown first.watchId isId⟩

/-- In a block that fits, acting on a note uncovers nothing. -/
theorem covered_of_fits (fits : BlockFits env txHexs view) :
    Covered view.watching.keys (notes env txHexs view)
      (held env txHexs view) := by
  refine ⟨fun other mem => (of_mem_notes mem).1, ?_, ?_⟩
  · intro first mem isFirst unknown other isOther holds
    obtain ⟨_, _, _, unnoted, _⟩ := blameFits_of_first fits mem isFirst unknown
    obtain ⟨isId, isNoted⟩ := of_mem_notes isOther
    exact unnoted other.txHex holds other.watchId isId isNoted
  · intro first mem isFirst unknown second isSecond second_first
      second_unknown sameId different other isOther otherText
    obtain ⟨_, _, _, _, alone⟩ := blameFits_of_first fits mem isFirst unknown
    obtain ⟨inBlock, firstId, _⟩ :=
      blameFits_of_first fits isSecond second_first second_unknown
    obtain ⟨isId, isNoted⟩ := of_mem_notes isOther
    rw [sameId]
    exact alone second.txHex inBlock second_unknown (sameId ▸ firstId)
      different other.watchId isId (otherText ▸ isNoted)

/-- The double spends of a block that fits are acted on for watches that own an
input they spend. -/
theorem owns_of_blamed
    (scanned : Scanned env currency txHexs view)
    (fits : BlockFits env txHexs view)
    {doubleSpend : DoubleSpend Hex}
    (isBlamed : doubleSpend ∈ blamed env currency block txHexs view) :
    OwnsInput env view doubleSpend.txHex doubleSpend.watchId := by
  have notes_eq : suspicions env currency txHexs view =
      notes env txHexs view := by
    unfold suspicions notes
    congr 1
    funext id
    exact suspectsOf_eq scanned id
  have texts_eq : textAfter env currency block txHexs view =
      held env txHexs view := by
    funext id
    exact textAfter_eq scanned id
  rw [blamed, notes_eq, texts_eq] at isBlamed
  obtain ⟨unknown, first, mem, isFirst, firstText, firstId⟩ :=
    blame_first (covered_of_fits fits) (Resolved.refl _ _ _)
      (List.nil_append _).symm isBlamed
  obtain ⟨_, _, owns, _⟩ :=
    blameFits_of_first fits mem isFirst (firstText ▸ unknown)
  rw [← firstText, ← firstId]
  exact owns

end CoinView
end Coinbend
