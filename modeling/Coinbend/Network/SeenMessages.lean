import Coinbend.Currency.Text
import Coinbend.Library.Dict
import Coinbend.Library.Outcome
import Coinbend.PyError
import Coinbend.Transaction.Defs
import Mathlib.Data.List.Chain

/-!
# Messages seen before

The table of message hashes of `net.py`, and `Net.filter_old_messages`, which
drops the replies with a message sent lately or too often.  `recorded` is every
entry made in the table; the code does not keep it.
-/

namespace Coinbend

/-- `max_retransmissions`. -/
def maxRetransmissions : Nat := 100

/-- `min_retransmit_interval`. -/
def minRetransmitInterval : Int := 5

structure Seen where
  times : Nat
  last : Int
  deriving DecidableEq

/-- `seen_messages`, with what has been recorded in it and when. -/
structure SeenTable (Hash : Type) where
  seen : Dict Hash Seen
  recorded : List (Hash × Int)
  deriving DecidableEq

/-- What can be passed to the filter. -/
inductive ReplyMsg
  | text (msg : Text)
  | bytes (msg : Bytes)
  | callable
  /-- A value of any other type. -/
  | other
  /-- A `HybridReply` whose message is not a list. -/
  | reply (recordSeen : Bool) (msg : ReplyMsg)
  /-- A `HybridReply` with a list of messages. -/
  | replyList (recordSeen : Bool) (msgs : List ReplyMsg)

namespace SeenTable

variable {Hash : Type} [DecidableEq Hash]

def empty : SeenTable Hash where
  seen := ∅
  recorded := []

/-- `is_msg_old`, on the hash of a message at `int(time.time())`. -/
def isMsgOld (table : SeenTable Hash) (time : Int) (hash : Hash) : Bool :=
  match table.seen.get? hash with
  | some seen =>
      time - seen.last < minRetransmitInterval ||
        decide (maxRetransmissions ≤ seen.times)
  | none => false

/-- `record_msg_hash`. -/
def recordMsgHash
    (table : SeenTable Hash)
    (time : Int)
    (hash : Hash) : SeenTable Hash :=
  if table.isMsgOld time hash then table
  else
    { seen :=
        match table.seen.get? hash with
        | some seen =>
            table.seen.set hash { times := seen.times + 1, last := time }
        | none => table.seen.set hash { times := 1, last := time }
      recorded := table.recorded ++ [(hash, time)] }

/-- "Process msg." -/
def processMsg
    (table : SeenTable Hash)
    (time : Int)
    (bypassFilter : Bool)
    (hash : Hash) : Outcome (SeenTable Hash) PyError Bool :=
  if table.isMsgOld time hash then Outcome.pure table false
  else if bypassFilter then Outcome.pure table true
  else Outcome.pure (table.recordMsgHash time hash) true

variable (sha256 : Bytes → Hash)

mutual

/-- `filter_old_messages`. -/
def filterOldMessages
    (table : SeenTable Hash)
    (time : Int)
    (bypassFilter : Bool) :
    ReplyMsg → Outcome (SeenTable Hash) PyError Bool
  | .text msg =>
      Outcome.attempt table (encodeAscii msg) fun msg =>
      table.processMsg time bypassFilter (sha256 msg)
  -- "Invalid type."
  | .bytes _ | .other => Outcome.pure table false
  -- A function has no hash.
  | .callable => Outcome.raise table .typeError
  | .reply recordSeen msg =>
      let bypassFilter := bypassFilter || !recordSeen
      match msg with
      | .callable => Outcome.pure table true
      | .text msg =>
          Outcome.attempt table (encodeAscii msg) fun msg =>
          table.processMsg time bypassFilter (sha256 msg)
      | .bytes msg => table.processMsg time bypassFilter (sha256 msg)
      | _ => Outcome.raise table .typeError
  | .replyList recordSeen msgs =>
      filterSubMessages table time (bypassFilter || !recordSeen) msgs

/-- `for sub_msg in msg.msg`. -/
def filterSubMessages
    (table : SeenTable Hash)
    (time : Int)
    (bypassFilter : Bool) :
    List ReplyMsg → Outcome (SeenTable Hash) PyError Bool
  | [] => Outcome.pure table true
  | msg :: msgs =>
      (filterOldMessages table time bypassFilter msg).bind fun table ret =>
      if ret then filterSubMessages table time bypassFilter msgs
      else Outcome.pure table false

end

/-! ## The parts of a reply -/

/-- A part of a reply, as the filter meets it. -/
inductive Part (Hash : Type)
  /-- A message with its hash, and whether it is recorded. -/
  | message (hash : Hash) (recorded : Bool)
  /-- A message that is made later. -/
  | dynamic
  /-- A value that is no message, with what it raises. -/
  | invalid (error : Option PyError)
  deriving DecidableEq

/-- A text among the parts. -/
def textPart (msg : Text) (bypassFilter : Bool) : Part Hash :=
  match encodeAscii msg with
  | .ok msg => .message (sha256 msg) (!bypassFilter)
  | .error error => .invalid (some error)

mutual

/-- The parts of a reply in order. -/
def parts (bypassFilter : Bool) : ReplyMsg → List (Part Hash)
  | .text msg => [textPart sha256 msg bypassFilter]
  | .bytes _ | .other => [.invalid none]
  | .callable => [.invalid (some .typeError)]
  | .reply recordSeen msg =>
      match msg with
      | .callable => [.dynamic]
      | .text msg => [textPart sha256 msg (bypassFilter || !recordSeen)]
      | .bytes msg =>
          [.message (sha256 msg) (!(bypassFilter || !recordSeen))]
      | _ => [.invalid (some .typeError)]
  | .replyList recordSeen msgs => subParts (bypassFilter || !recordSeen) msgs

def subParts (bypassFilter : Bool) : List ReplyMsg → List (Part Hash)
  | [] => []
  | msg :: msgs => parts bypassFilter msg ++ subParts bypassFilter msgs

end

/-- The filter on one part. -/
def filterPart (table : SeenTable Hash) (time : Int) :
    Part Hash → Outcome (SeenTable Hash) PyError Bool
  | .message hash recorded => table.processMsg time (!recorded) hash
  | .dynamic => Outcome.pure table true
  | .invalid none => Outcome.pure table false
  | .invalid (some error) => Outcome.raise table error

/-- The filter on parts, up to the first one that is not admitted. -/
def filterParts (table : SeenTable Hash) (time : Int) :
    List (Part Hash) → Outcome (SeenTable Hash) PyError Bool
  | [] => Outcome.pure table true
  | part :: rest =>
      (table.filterPart time part).bind fun table ret =>
      if ret then filterParts table time rest else Outcome.pure table false

theorem bind_ite_assoc
    {σ : Type}
    (first : Outcome σ PyError Bool)
    (next later : σ → Outcome σ PyError Bool) :
    (first.bind fun state ret =>
        if ret then (next state).bind fun state ret =>
          if ret then later state else Outcome.pure state false
        else Outcome.pure state false) =
      (first.bind fun state ret =>
        if ret then next state else Outcome.pure state false).bind
          fun state ret =>
            if ret then later state else Outcome.pure state false := by
  obtain ⟨state, result⟩ := first
  cases result with
  | error error => rfl
  | ok ret => cases ret <;> rfl

theorem filterParts_append
    (table : SeenTable Hash)
    (time : Int)
    (first second : List (Part Hash)) :
    table.filterParts time (first ++ second) =
      (table.filterParts time first).bind fun table ret =>
        if ret then table.filterParts time second
        else Outcome.pure table false := by
  induction first generalizing table with
  | nil => rfl
  | cons part first inductionHypothesis =>
      rw [List.cons_append, filterParts, filterParts, ← bind_ite_assoc]
      simp only [inductionHypothesis]

theorem filterParts_singleton
    (table : SeenTable Hash)
    (time : Int)
    (part : Part Hash) :
    table.filterParts time [part] = table.filterPart time part := by
  rw [filterParts]
  generalize table.filterPart time part = outcome
  obtain ⟨state, result⟩ := outcome
  cases result with
  | error error => rfl
  | ok ret => cases ret <;> rfl

theorem filterPart_textPart
    (table : SeenTable Hash)
    (time : Int)
    (bypassFilter : Bool)
    (msg : Text) :
    table.filterPart time (textPart sha256 msg bypassFilter) =
      Outcome.attempt table (encodeAscii msg) fun msg =>
        table.processMsg time bypassFilter (sha256 msg) := by
  unfold textPart
  cases encodeAscii msg with
  | error error => rfl
  | ok bytes =>
      simp only [filterPart, Bool.not_not]
      rfl

mutual

/-- The filter goes through the parts of a reply. -/
theorem filterOldMessages_eq
    (table : SeenTable Hash)
    (time : Int)
    (bypassFilter : Bool) :
    (msg : ReplyMsg) →
      filterOldMessages sha256 table time bypassFilter msg =
        table.filterParts time (parts sha256 bypassFilter msg)
  | .text msg => by
      rw [filterOldMessages, parts, filterParts_singleton,
        filterPart_textPart]
  | .bytes _ => by
      rw [filterOldMessages, parts, filterParts_singleton]
      rfl
  | .other => by
      rw [filterOldMessages, parts, filterParts_singleton]
      rfl
  | .callable => by
      rw [filterOldMessages, parts, filterParts_singleton]
      rfl
  | .reply recordSeen msg => by
      cases msg with
      | callable =>
          rw [filterOldMessages, parts, filterParts_singleton]
          rfl
      | text msg =>
          rw [filterOldMessages, parts, filterParts_singleton,
            filterPart_textPart]
      | bytes msg =>
          rw [filterOldMessages, parts, filterParts_singleton, filterPart,
            Bool.not_not]
      | other =>
          rw [filterOldMessages, parts, filterParts_singleton]
          all_goals simp [filterPart]
      | reply inner msg =>
          rw [filterOldMessages, parts, filterParts_singleton]
          all_goals simp [filterPart]
      | replyList inner msgs =>
          rw [filterOldMessages, parts, filterParts_singleton]
          all_goals simp [filterPart]
  | .replyList recordSeen msgs => by
      rw [filterOldMessages, parts]
      exact filterSubMessages_eq table time (bypassFilter || !recordSeen) msgs

theorem filterSubMessages_eq
    (table : SeenTable Hash)
    (time : Int)
    (bypassFilter : Bool) :
    (msgs : List ReplyMsg) →
      filterSubMessages sha256 table time bypassFilter msgs =
        table.filterParts time (subParts sha256 bypassFilter msgs)
  | [] => rfl
  | msg :: msgs => by
      rw [filterSubMessages, subParts, filterParts_append,
        filterOldMessages_eq table time bypassFilter msg]
      simp only [filterSubMessages_eq _ time bypassFilter msgs]

end

/-! ## All or nothing -/

/-- The filter lets a part through on its own. -/
def Admits (table : SeenTable Hash) (time : Int) : Part Hash → Prop
  | .message hash _ => table.isMsgOld time hash = false
  | .dynamic => True
  | .invalid _ => False

/-- The hashes of the parts that are recorded. -/
def recordedHashes : List (Part Hash) → List Hash
  | [] => []
  | .message hash true :: rest => hash :: recordedHashes rest
  | _ :: rest => recordedHashes rest

/-- Neither of two messages is the other one recorded before it. -/
def Apart (part later : Part Hash) : Prop :=
  ∀ hash recorded, part = .message hash true → later ≠ .message hash recorded

/-- Every part is let through, and none repeats one recorded before it. -/
def AllAdmitted (table : SeenTable Hash) (time : Int) (msgs : List (Part Hash)) :
    Prop :=
  (∀ part ∈ msgs, table.Admits time part) ∧ msgs.Pairwise Apart

/-- A part that is not let through comes before any that is recorded, or is the
first that would be. -/
def RefusedFirst
    (table : SeenTable Hash)
    (time : Int)
    (msgs : List (Part Hash)) : Prop :=
  ∃ before part after, msgs = before ++ part :: after ∧
    recordedHashes before = [] ∧ ¬table.Admits time part

/-- The recordings of a time. -/
def stamped (time : Int) (hashes : List Hash) : List (Hash × Int) :=
  hashes.map fun hash => (hash, time)

theorem isMsgOld_record
    {table : SeenTable Hash}
    {time : Int}
    {hash : Hash}
    (fresh : table.isMsgOld time hash = false)
    (other : Hash) :
    (table.recordMsgHash time hash).isMsgOld time other =
      (decide (other = hash) || table.isMsgOld time other) := by
  unfold recordMsgHash
  rw [if_neg (by rw [fresh]; decide)]
  by_cases same : other = hash
  · subst same
    unfold isMsgOld
    cases table.seen.get? other <;>
      simp [Dict.get?_set_same, minRetransmitInterval]
  · unfold isMsgOld
    cases table.seen.get? hash <;>
      simp [Dict.get?_set_of_ne _ _ same, same]

theorem recorded_record
    {table : SeenTable Hash}
    {time : Int}
    {hash : Hash}
    (fresh : table.isMsgOld time hash = false) :
    (table.recordMsgHash time hash).recorded =
      table.recorded ++ [(hash, time)] := by
  unfold recordMsgHash
  rw [if_neg (by rw [fresh]; decide)]

/-- After a recording a part is let through when it was and is not the same
message. -/
theorem admits_record_iff
    {table : SeenTable Hash}
    {time : Int}
    {hash : Hash}
    (fresh : table.isMsgOld time hash = false)
    (part : Part Hash) :
    (table.recordMsgHash time hash).Admits time part ↔
      table.Admits time part ∧ Apart (.message hash true) part := by
  cases part with
  | message other recorded =>
      simp only [Admits, Apart, isMsgOld_record fresh, Bool.or_eq_false_iff,
        decide_eq_false_iff_not, Part.message.injEq, and_true, ne_eq, not_and]
      constructor
      · rintro ⟨different, admitted⟩
        exact ⟨admitted, fun _ _ same equal _ =>
          different (equal.trans same.symm)⟩
      · rintro ⟨admitted, apart⟩
        exact ⟨fun same => apart hash recorded rfl same rfl, admitted⟩
  | dynamic => exact iff_of_true trivial ⟨trivial, fun _ _ _ same => by cases same⟩
  | invalid error => exact iff_of_false id And.left

omit [DecidableEq Hash] in
theorem apart_of_not_recorded
    {part : Part Hash}
    (unrecorded : ∀ hash, part ≠ .message hash true)
    (later : Part Hash) :
    Apart part later := by
  intro hash _ same
  exact absurd same (unrecorded hash)

omit [DecidableEq Hash] in
theorem recordedHashes_cons_of_not_recorded
    {part : Part Hash}
    (unrecorded : ∀ hash, part ≠ .message hash true)
    (rest : List (Part Hash)) :
    recordedHashes (part :: rest) = recordedHashes rest := by
  cases part with
  | message hash recorded =>
      cases recorded with
      | true => exact absurd rfl (unrecorded hash)
      | false => rfl
  | dynamic => rfl
  | invalid error => rfl

/-- A part is refused and changes nothing, passes by unrecorded, or is
recorded. -/
theorem filterPart_cases
    (table : SeenTable Hash)
    (time : Int)
    (part : Part Hash) :
    (¬table.Admits time part ∧ (table.filterPart time part).state = table ∧
        (table.filterPart time part).result ≠ .ok true) ∨
      (table.Admits time part ∧ (∀ hash, part ≠ .message hash true) ∧
        table.filterPart time part = Outcome.pure table true) ∨
      ∃ hash, part = .message hash true ∧
        table.isMsgOld time hash = false ∧
        table.filterPart time part =
          Outcome.pure (table.recordMsgHash time hash) true := by
  cases part with
  | message hash recorded =>
      cases old : table.isMsgOld time hash with
      | true =>
          refine Or.inl ⟨?_, ?_, ?_⟩
          · rw [Admits, old]
            decide
          · rw [filterPart, processMsg, if_pos old]
            rfl
          · rw [filterPart, processMsg, if_pos old]
            exact fun same => by cases same
      | false =>
          have fresh : ¬table.isMsgOld time hash = true := by
            rw [old]
            decide
          cases recorded with
          | true =>
              refine Or.inr (Or.inr ⟨hash, rfl, old, ?_⟩)
              rw [filterPart, processMsg, if_neg fresh]
              rfl
          | false =>
              refine Or.inr (Or.inl ⟨old, ?_, ?_⟩)
              · intro _ same
                cases same
              · rw [filterPart, processMsg, if_neg fresh]
                rfl
  | dynamic =>
      refine Or.inr (Or.inl ⟨trivial, ?_, rfl⟩)
      intro _ same
      cases same
  | invalid error =>
      refine Or.inl ⟨id, ?_, ?_⟩
      · cases error <;> rfl
      · cases error <;> exact fun same => by cases same

theorem allAdmitted_nil (table : SeenTable Hash) (time : Int) :
    table.AllAdmitted time [] :=
  ⟨fun _ listed => absurd listed List.not_mem_nil, List.Pairwise.nil⟩

theorem refusedFirst_cons_of_recorded
    {table : SeenTable Hash}
    {time : Int}
    {hash : Hash}
    (fresh : table.isMsgOld time hash = false)
    (rest : List (Part Hash)) :
    ¬table.RefusedFirst time (.message hash true :: rest) := by
  rintro ⟨before, part, after, split, unrecorded, refused⟩
  cases before with
  | nil =>
      rw [List.nil_append, List.cons.injEq] at split
      rw [← split.1] at refused
      exact refused fresh
  | cons first before =>
      rw [List.cons_append, List.cons.injEq] at split
      rw [← split.1] at unrecorded
      cases unrecorded

theorem refusedFirst_cons_of_unrecorded
    {table : SeenTable Hash}
    {time : Int}
    {part : Part Hash}
    (admitted : table.Admits time part)
    (unrecorded : ∀ hash, part ≠ .message hash true)
    (rest : List (Part Hash)) :
    table.RefusedFirst time (part :: rest) ↔ table.RefusedFirst time rest := by
  constructor
  · rintro ⟨before, other, after, split, none, refused⟩
    cases before with
    | nil =>
        rw [List.nil_append, List.cons.injEq] at split
        rw [← split.1] at refused
        exact absurd admitted refused
    | cons first before =>
        rw [List.cons_append, List.cons.injEq] at split
        obtain ⟨rfl, rfl⟩ := split
        rw [recordedHashes_cons_of_not_recorded unrecorded] at none
        exact ⟨before, other, after, rfl, none, refused⟩
  · rintro ⟨before, other, after, rfl, none, refused⟩
    refine ⟨part :: before, other, after, rfl, ?_, refused⟩
    rw [recordedHashes_cons_of_not_recorded unrecorded]
    exact none

/-- What the filter does with the parts of a reply. -/
structure PartsSpec
    (table : SeenTable Hash)
    (time : Int)
    (msgs : List (Part Hash))
    (outcome : Outcome (SeenTable Hash) PyError Bool) : Prop where
  admitted_iff : outcome.result = .ok true ↔ table.AllAdmitted time msgs
  grows : table.recorded <+: outcome.state.recorded
  all_recorded : outcome.result = .ok true →
    outcome.state.recorded =
      table.recorded ++ stamped time (recordedHashes msgs)
  none_recorded_iff : outcome.result ≠ .ok true →
    (outcome.state.recorded = table.recorded ↔ table.RefusedFirst time msgs)

theorem filterParts_spec
    (table : SeenTable Hash)
    (time : Int)
    (msgs : List (Part Hash)) :
    PartsSpec table time msgs (table.filterParts time msgs) := by
  induction msgs generalizing table with
  | nil =>
      exact {
        admitted_iff := iff_of_true rfl (table.allAdmitted_nil time)
        grows := List.prefix_rfl
        all_recorded := fun _ => (List.append_nil _).symm
        none_recorded_iff := fun refused => absurd rfl refused }
  | cons part rest inductionHypothesis =>
      rw [filterParts]
      rcases table.filterPart_cases time part with
        ⟨refused, state_eq, result_ne⟩ | ⟨admitted, unrecorded, result⟩ |
          ⟨hash, rfl, fresh, result⟩
      · have stops : ((table.filterPart time part).bind fun table ret =>
            if ret then table.filterParts time rest
            else Outcome.pure table false).state = table ∧
            ((table.filterPart time part).bind fun table ret =>
              if ret then table.filterParts time rest
              else Outcome.pure table false).result ≠ .ok true := by
          generalize table.filterPart time part = outcome at state_eq result_ne
          obtain ⟨state, result⟩ := outcome
          subst state_eq
          cases result with
          | error error => exact ⟨rfl, fun same => by cases same⟩
          | ok ret =>
              cases ret with
              | true => exact absurd rfl result_ne
              | false => exact ⟨rfl, fun same => by cases same⟩
        refine ⟨?_, ?_, ?_, ?_⟩
        · exact iff_of_false stops.2 fun all =>
            refused (all.1 part List.mem_cons_self)
        · exact ⟨[], by rw [stops.1, List.append_nil]⟩
        · exact fun same => absurd same stops.2
        · intro _
          rw [stops.1]
          exact iff_of_true rfl ⟨[], part, rest, rfl, rfl, refused⟩
      · obtain ⟨admitted_iff, grows, all_recorded, none_recorded_iff⟩ :=
          inductionHypothesis table
        rw [result]
        refine ⟨admitted_iff.trans ?_, grows, ?_, ?_⟩
        · unfold AllAdmitted
          rw [List.forall_mem_cons, List.pairwise_cons, and_iff_right admitted,
            and_iff_right fun later _ => apart_of_not_recorded unrecorded later]
        · rw [recordedHashes_cons_of_not_recorded unrecorded]
          exact all_recorded
        · rw [refusedFirst_cons_of_unrecorded admitted unrecorded]
          exact none_recorded_iff
      · obtain ⟨admitted_iff, grows, all_recorded, _⟩ :=
          inductionHypothesis (table.recordMsgHash time hash)
        have recorded_eq := recorded_record fresh
        rw [result]
        refine ⟨admitted_iff.trans ?_, ?_, ?_, ?_⟩
        · unfold AllAdmitted
          simp only [admits_record_iff fresh]
          rw [List.forall_mem_cons, List.pairwise_cons]
          constructor
          · rintro ⟨admits, apart⟩
            exact ⟨⟨fresh, fun later listed => (admits later listed).1⟩,
              fun later listed => (admits later listed).2, apart⟩
          · rintro ⟨⟨_, admits⟩, first_apart, apart⟩
            exact ⟨fun later listed =>
              ⟨admits later listed, first_apart later listed⟩, apart⟩
        · refine List.IsPrefix.trans ?_ grows
          rw [recorded_eq]
          exact List.prefix_append _ _
        · intro done
          refine (all_recorded done).trans ?_
          rw [recorded_eq, List.append_assoc]
          rfl
        · intro _
          refine iff_of_false ?_ (refusedFirst_cons_of_recorded fresh rest)
          intro same
          have longer := grows.length_le
          have same_length := congrArg List.length same
          rw [recorded_eq, List.length_append, List.length_singleton] at longer
          have state_eq : ((Outcome.pure (table.recordMsgHash time hash) true :
              Outcome (SeenTable Hash) PyError Bool).bind fun table ret =>
                if ret then table.filterParts time rest
                else Outcome.pure table false).state =
              ((table.recordMsgHash time hash).filterParts time rest).state :=
            rfl
          rw [state_eq] at same_length
          omega

/-! ## Recordings over a run -/

/-- The times a message has been recorded. -/
def recordings (table : SeenTable Hash) (hash : Hash) : List Int :=
  (table.recorded.filter fun entry => entry.1 = hash).map Prod.snd

/-- A message is recorded often enough never again, and not too soon after the
last time. -/
def Spaced (table : SeenTable Hash) (hash : Hash) : Prop :=
  (table.recordings hash).length ≤ maxRetransmissions ∧
    (table.recordings hash).IsChain fun earlier later =>
      earlier + minRetransmitInterval ≤ later

/-- The table has the number of recordings of every message and the last of
them. -/
def Counted (table : SeenTable Hash) : Prop :=
  ∀ hash, table.Spaced hash ∧
    table.seen.get? hash =
      (table.recordings hash).getLast?.map fun last =>
        { times := (table.recordings hash).length, last }

theorem empty_counted : (empty : SeenTable Hash).Counted := by
  intro hash
  exact ⟨⟨Nat.zero_le _, List.IsChain.nil⟩, rfl⟩

theorem recordings_record
    {table : SeenTable Hash}
    {time : Int}
    {hash : Hash}
    (fresh : table.isMsgOld time hash = false)
    (other : Hash) :
    (table.recordMsgHash time hash).recordings other =
      if other = hash then table.recordings other ++ [time]
      else table.recordings other := by
  unfold recordings
  rw [recorded_record fresh, List.filter_append, List.map_append]
  split
  next same =>
    subst same
    simp
  next different =>
    simp [Ne.symm different]

theorem Counted.record
    {table : SeenTable Hash}
    (counted : table.Counted)
    (time : Int)
    (hash : Hash) :
    (table.recordMsgHash time hash).Counted := by
  cases old : table.isMsgOld time hash with
  | true =>
      unfold recordMsgHash
      rw [if_pos old]
      exact counted
  | false =>
      intro other
      have recorded := recordings_record old other
      by_cases same : other = hash
      · subst same
        rw [if_pos rfl] at recorded
        obtain ⟨⟨few, chain⟩, stored⟩ := counted other
        have not_old : ¬table.isMsgOld time other = true := by
          rw [old]
          decide
        have room : (table.recordings other).length < maxRetransmissions ∧
            ∀ last ∈ (table.recordings other).getLast?,
              last + minRetransmitInterval ≤ time := by
          cases last_eq : (table.recordings other).getLast? with
          | none =>
              rw [List.getLast?_eq_none_iff] at last_eq
              rw [last_eq]
              exact ⟨by decide, fun _ listed => by cases listed⟩
          | some last =>
              rw [last_eq, Option.map_some] at stored
              unfold isMsgOld at not_old
              rw [stored] at not_old
              simp only [Bool.or_eq_true, decide_eq_true_eq, not_or, not_lt,
                not_le] at not_old
              refine ⟨not_old.2, fun _ listed => ?_⟩
              rw [← Option.some.inj listed]
              omega
        unfold Spaced
        rw [recorded]
        refine ⟨⟨?_, ?_⟩, ?_⟩
        · rw [List.length_append, List.length_singleton]
          exact room.1
        · rw [List.isChain_append]
          refine ⟨chain, List.isChain_singleton _, ?_⟩
          intro last listed next next_eq
          rw [← Option.some.inj next_eq]
          exact room.2 last listed
        · rw [List.getLast?_concat, Option.map_some, List.length_append,
            List.length_singleton]
          unfold recordMsgHash
          rw [if_neg not_old, stored]
          cases last_eq : (table.recordings other).getLast? with
          | none =>
              rw [List.getLast?_eq_none_iff] at last_eq
              simp [Dict.get?_set_same, last_eq]
          | some last => simp [Dict.get?_set_same]
      · rw [if_neg same] at recorded
        have seen_eq : (table.recordMsgHash time hash).seen.get? other =
            table.seen.get? other := by
          unfold recordMsgHash
          rw [if_neg (by rw [old]; decide)]
          cases table.seen.get? hash <;>
            simp [Dict.get?_set_of_ne _ _ same]
        unfold Spaced
        rw [seen_eq, recorded]
        exact counted other

theorem Counted.filterPart
    {table : SeenTable Hash}
    (counted : table.Counted)
    (time : Int)
    (part : Part Hash) :
    (table.filterPart time part).state.Counted := by
  rcases table.filterPart_cases time part with
    ⟨_, state_eq, _⟩ | ⟨_, _, result⟩ | ⟨hash, _, _, result⟩
  · rw [state_eq]
    exact counted
  · rw [result]
    exact counted
  · rw [result]
    exact counted.record time hash

theorem Counted.filterParts
    {table : SeenTable Hash}
    (counted : table.Counted)
    (time : Int)
    (msgs : List (Part Hash)) :
    (table.filterParts time msgs).state.Counted := by
  induction msgs generalizing table with
  | nil => exact counted
  | cons part rest inductionHypothesis =>
      have stepped := counted.filterPart time part
      rw [SeenTable.filterParts]
      cases result : (table.filterPart time part).result with
      | error error =>
          simp only [Outcome.bind, result]
          exact stepped
      | ok ret =>
          simp only [Outcome.bind, result]
          cases ret with
          | true => exact inductionHypothesis stepped
          | false => exact stepped

/-- What is passed to the filter, with `int(time.time())` at that moment. -/
structure FilterCall where
  msg : ReplyMsg
  time : Int

/-- The table after some calls of the filter. -/
def runFilter (table : SeenTable Hash) (calls : List FilterCall) :
    SeenTable Hash :=
  calls.foldl
    (fun table call =>
      (filterOldMessages sha256 table call.time false call.msg).state) table

theorem Counted.runFilter
    {table : SeenTable Hash}
    (counted : table.Counted)
    (calls : List FilterCall) :
    (table.runFilter sha256 calls).Counted := by
  induction calls generalizing table with
  | nil => exact counted
  | cons call calls inductionHypothesis =>
      refine inductionHypothesis ?_
      simp only [filterOldMessages_eq]
      exact counted.filterParts call.time _

/-- A reply with a list is admitted with every message of it recorded, or
dropped with none recorded. -/
def AllOrNothing
    (table : SeenTable Hash)
    (time : Int)
    (recordSeen : Bool)
    (msgs : List ReplyMsg) : Prop :=
  let outcome := filterOldMessages sha256 table time false
    (.replyList recordSeen msgs)
  (outcome.result = .ok true ∧
      outcome.state.recorded = table.recorded ++
        stamped time (recordedHashes (subParts sha256 (!recordSeen) msgs))) ∨
    (outcome.result ≠ .ok true ∧ outcome.state.recorded = table.recorded)

/-- A reply is admitted whole or not at all exactly when all its parts are let
through and none repeats a recorded one, or one is refused before any is
recorded; and in every run no message is recorded too often or too soon. -/
theorem filterOldMessages_allOrNothing_iff
    (table : SeenTable Hash)
    (time : Int)
    (recordSeen : Bool)
    (msgs : List ReplyMsg)
    (calls : List FilterCall)
    (hash : Hash) :
    (table.AllOrNothing sha256 time recordSeen msgs ↔
        table.AllAdmitted time (subParts sha256 (!recordSeen) msgs) ∨
          table.RefusedFirst time (subParts sha256 (!recordSeen) msgs)) ∧
      (empty.runFilter sha256 calls).Spaced hash := by
  refine ⟨?_, (empty_counted.runFilter sha256 calls hash).1⟩
  have spec := table.filterParts_spec time (subParts sha256 (!recordSeen) msgs)
  have outcome_eq : filterOldMessages sha256 table time false
      (.replyList recordSeen msgs) =
        table.filterParts time (subParts sha256 (!recordSeen) msgs) := by
    rw [filterOldMessages_eq, parts, Bool.false_or]
  unfold AllOrNothing
  simp only [outcome_eq]
  by_cases admitted : (table.filterParts time
      (subParts sha256 (!recordSeen) msgs)).result = .ok true
  · exact iff_of_true (Or.inl ⟨admitted, spec.all_recorded admitted⟩)
      (Or.inl (spec.admitted_iff.mp admitted))
  · have not_all := spec.admitted_iff.not.mp admitted
    rw [or_iff_right fun both => admitted both.1, and_iff_right admitted,
      or_iff_right not_all]
    exact spec.none_recorded_iff admitted

end SeenTable

namespace Sample

/-- A hash that keeps different messages apart. -/
def plainHash (msg : Bytes) : Bytes := msg

/-- The message `b` was sent at time 1000. -/
def seenTable : SeenTable Bytes :=
  SeenTable.empty.recordMsgHash 1000 [98]

/-- A new message and one sent a second ago. -/
def mixedReply : List ReplyMsg := [.text ['a'], .text ['b']]

end Sample

/-- A reply whose second message is old is dropped, but its first one is
recorded. -/
theorem mixedReply_divided :
    ¬Sample.seenTable.AllOrNothing Sample.plainHash 1001 true
      Sample.mixedReply := by
  unfold SeenTable.AllOrNothing
  decide +kernel

end Coinbend
