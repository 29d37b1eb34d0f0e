import Coinbend.Library.DecimalRounding
import Coinbend.Library.Numerals
import Coinbend.Library.Outcome
import Coinbend.Library.Raising
import Coinbend.Network.LineBuffer
import Coinbend.PyError
import Mathlib.Algebra.Order.Field.Rat
import Mathlib.Tactic.Linarith

/-!
# Processing a queue of lines

`parse_msg` of `lib.py`, and `process_replies` of the contract client: one
`try` around a loop over the lines a socket has queued.  What `parse_msg` cannot
read, a timestamp with a fraction or more digits than the interpreter converts,
raises out of the loop.
-/

namespace Coinbend

/-- A line in the queue, the clock when its turn comes, and what its handler
does if it is called. -/
structure QueuedLine where
  line : Text
  time : ℚ
  answer : Except PyError Unit

/-- What `parse_msg` is called with, and the interpreter it runs in. -/
structure MsgParser where
  version : Nat
  debug : Bool
  conversion : Numerals.Conversion
  /-- `decimal.getcontext()`: the digits of a result and its largest
  exponent. -/
  prec : Nat
  emax : Nat
  /-- `rpc in msg_handlers`. -/
  knows : Text → Bool

/-- The three groups of the header pattern of `parse_msg`. -/
structure MsgHeader where
  version : Text
  ntp : Text
  rpc : Text

/-- The longest start of a text in a class of characters, at least one, and
what follows it. -/
def someOf (inClass : Char → Bool) (text : Text) : Option (Text × Text) :=
  if text.takeWhile inClass = [] then none
  else some (text.takeWhile inClass, text.dropWhile inClass)

/-- What follows one character. -/
def expect (ch : Char) : Text → Option Text
  | [] => none
  | next :: rest => if next = ch then some rest else none

/-- `[0-9]+(?:[.][0-9]+)?`. -/
def decimalNumber (text : Text) : Option (Text × Text) := do
  let (whole, rest) ← someOf Char.isDigit text
  match rest with
  | '.' :: more =>
      match someOf Char.isDigit more with
      | some (dec, rest) => some (whole ++ '.' :: dec, rest)
      | none => some (whole, rest)
  | _ => some (whole, rest)

/-- `[a-zA-Z_]`. -/
def rpcChar (ch : Char) : Bool :=
  ch.isAlpha || ch == '_'

/-- `^([0-9]+) ([0-9]+(?:[.][0-9]+)?) ([a-zA-Z_]+)`. -/
def msgHeader (msg : Text) : Option MsgHeader := do
  let (version, rest) ← someOf Char.isDigit msg
  let rest ← expect ' ' rest
  let (ntp, rest) ← decimalNumber rest
  let rest ← expect ' ' rest
  let (rpc, _) ← someOf rpcChar rest
  return { version, ntp, rpc }

namespace MsgParser

/-- A text of digits that are not too many to be converted; `int` does not read
a point. -/
def Converts (parser : MsgParser) (digits : Text) : Prop :=
  digits.all Char.isDigit = true ∧
    parser.conversion.tooLong digits.length = false

instance (parser : MsgParser) (digits : Text) :
    Decidable (parser.Converts digits) :=
  inferInstanceAs (Decidable (_ ∧ _))

/-- `int(digits)` of a part of the header. -/
def int (parser : MsgParser) (digits : Text) : Except PyError Nat :=
  if parser.Converts digits then .ok (Nat.ofDigitChars 10 digits 0)
  else .error .valueError

/-- `sys_clock.time() - ntp`, before it is found to be out of range. -/
def dif (parser : MsgParser) (time : ℚ) (ntp : Nat) : ℚ :=
  DecimalRounding.roundDigits parser.prec (time - ntp)

/-- The difference is beyond the largest exponent. -/
def OutOfRange (parser : MsgParser) (time : ℚ) (ntp : Nat) : Prop :=
  10 ^ (parser.emax + 1) ≤
    (parser.dif time ntp).num.natAbs / (parser.dif time ntp).den

instance (parser : MsgParser) (time : ℚ) (ntp : Nat) :
    Decidable (parser.OutOfRange time ntp) :=
  inferInstanceAs (Decidable (_ ≤ _))

/-- `parse_msg`.  The state is the list of the lines handed to a handler. -/
def parseMsg
    (parser : MsgParser)
    (handed : List QueuedLine)
    (queued : QueuedLine) : Outcome (List QueuedLine) PyError Unit :=
  match msgHeader queued.line with
  | none => Outcome.pure handed ()
  | some header =>
      Outcome.attempt handed (parser.int header.version) fun version =>
      Outcome.attempt handed (parser.int header.ntp) fun ntp =>
      if version ≠ parser.version then Outcome.pure handed ()
      else
        Outcome.attempt handed
          (Except.raiseIf (parser.OutOfRange queued.time ntp)
            .decimalOverflow) fun _ =>
        let dif := parser.dif queued.time ntp
        if parser.debug = false ∧ dif ≤ -(60 * 15) then Outcome.pure handed ()
        else if parser.debug = false ∧ 60 * 15 ≤ dif then
          Outcome.pure handed ()
        else if parser.knows header.rpc then
          ⟨handed ++ [queued], queued.answer⟩
        else Outcome.pure handed ()

/-- The loop of `process_replies` over the queued lines. -/
def replyLoop (parser : MsgParser) (handed : List QueuedLine) :
    List QueuedLine → Outcome (List QueuedLine) PyError Unit
  | [] => Outcome.pure handed ()
  | queued :: queue =>
      (parser.parseMsg handed queued).bind fun handed _ =>
      parser.replyLoop handed queue

/-- `process_replies`: the lines handed to a handler.  Iterating over the
socket has emptied its queue, and an exception ends the loop. -/
def processReplies (parser : MsgParser) (queue : List QueuedLine) :
    List QueuedLine :=
  (parser.replyLoop [] queue).state

/-- The lines handed to a handler by successive passes, each over the lines
queued since the pass before. -/
def passes (parser : MsgParser) (queues : List (List QueuedLine)) :
    List QueuedLine :=
  (queues.map parser.processReplies).flatten

/-- What a header of a line holds for `parse_msg` to go on with it. -/
structure Reads
    (parser : MsgParser)
    (queued : QueuedLine)
    (header : MsgHeader) : Prop where
  version : parser.Converts header.version
  ntp : parser.Converts header.ntp
  range : Nat.ofDigitChars 10 header.version 0 = parser.version →
    ¬parser.OutOfRange queued.time (Nat.ofDigitChars 10 header.ntp 0)

/-- A line with a header that `parse_msg` cannot read: its timestamp has a
fraction, its version or its timestamp has too many digits to be converted, or
the version is that of the protocol and the timestamp too far away to be taken
from the clock. -/
def Unreadable (parser : MsgParser) (queued : QueuedLine) : Prop :=
  ∃ header, msgHeader queued.line = some header ∧
    ¬parser.Reads queued header

/-- What makes a line with a header one a handler is there for: the version of
the protocol, an integer timestamp close to the clock and a known name. -/
structure Fits
    (parser : MsgParser)
    (queued : QueuedLine)
    (header : MsgHeader) : Prop where
  reads : parser.Reads queued header
  version : Nat.ofDigitChars 10 header.version 0 = parser.version
  close : parser.debug = false →
    |parser.dif queued.time (Nat.ofDigitChars 10 header.ntp 0)| < 60 * 15
  known : parser.knows header.rpc = true

/-- A line a handler is there for. -/
def WellFormed (parser : MsgParser) (queued : QueuedLine) : Prop :=
  ∃ header, msgHeader queued.line = some header ∧ parser.Fits queued header

/-- A line whose processing raises. -/
def Raises (parser : MsgParser) (queued : QueuedLine) : Prop :=
  parser.Unreadable queued ∨
    (parser.WellFormed queued ∧ ∃ error, queued.answer = .error error)

instance
    (parser : MsgParser)
    (queued : QueuedLine)
    (header : MsgHeader) : Decidable (parser.Reads queued header) :=
  decidable_of_iff
    (parser.Converts header.version ∧ parser.Converts header.ntp ∧
      (Nat.ofDigitChars 10 header.version 0 = parser.version →
        ¬parser.OutOfRange queued.time (Nat.ofDigitChars 10 header.ntp 0)))
    ⟨fun both => ⟨both.1, both.2.1, both.2.2⟩,
      fun reads => ⟨reads.version, reads.ntp, reads.range⟩⟩

instance
    (parser : MsgParser)
    (queued : QueuedLine)
    (header : MsgHeader) : Decidable (parser.Fits queued header) :=
  decidable_of_iff
    (parser.Reads queued header ∧
      Nat.ofDigitChars 10 header.version 0 = parser.version ∧
      (parser.debug = false →
        |parser.dif queued.time (Nat.ofDigitChars 10 header.ntp 0)| <
          60 * 15) ∧
      parser.knows header.rpc = true)
    ⟨fun all => ⟨all.1, all.2.1, all.2.2.1, all.2.2.2⟩,
      fun fits => ⟨fits.reads, fits.version, fits.close, fits.known⟩⟩

instance (parser : MsgParser) (queued : QueuedLine) :
    Decidable (parser.WellFormed queued) :=
  inferInstanceAs
    (Decidable (∃ header ∈ msgHeader queued.line, parser.Fits queued header))

variable (parser : MsgParser)

/-! ## One line -/

/-- A line that cannot be read raises. -/
theorem parseMsg_of_unread
    (handed : List QueuedLine)
    {queued : QueuedLine}
    {header : MsgHeader}
    (matched : msgHeader queued.line = some header)
    (unread : ¬parser.Reads queued header) :
    ∃ error, parser.parseMsg handed queued = Outcome.raise handed error := by
  unfold parseMsg
  simp only [matched, int]
  by_cases version : parser.Converts header.version
  · rw [if_pos version, Outcome.attempt_ok]
    by_cases ntp : parser.Converts header.ntp
    · rw [if_pos ntp, Outcome.attempt_ok]
      by_cases range : Nat.ofDigitChars 10 header.version 0 =
          parser.version →
            ¬parser.OutOfRange queued.time (Nat.ofDigitChars 10 header.ntp 0)
      · exact absurd ⟨version, ntp, range⟩ unread
      · rw [Classical.not_imp, not_not] at range
        rw [if_neg (not_not.mpr range.1), Except.raiseIf, if_pos range.2]
        exact ⟨_, rfl⟩
    · rw [if_neg ntp]
      exact ⟨_, rfl⟩
  · rw [if_neg version]
    exact ⟨_, rfl⟩

/-- A line that can be read is handed on or passed over. -/
theorem parseMsg_of_reads
    (handed : List QueuedLine)
    {queued : QueuedLine}
    {header : MsgHeader}
    (matched : msgHeader queued.line = some header)
    (reads : parser.Reads queued header) :
    (parser.Fits queued header ∧
        parser.parseMsg handed queued = ⟨handed ++ [queued], queued.answer⟩) ∨
      (¬parser.Fits queued header ∧
        parser.parseMsg handed queued = Outcome.pure handed ()) := by
  unfold parseMsg
  simp only [matched, int]
  rw [if_pos reads.version, Outcome.attempt_ok, if_pos reads.ntp,
    Outcome.attempt_ok]
  by_cases version : Nat.ofDigitChars 10 header.version 0 = parser.version
  · rw [if_neg (not_not.mpr version), Except.raiseIf,
      if_neg (reads.range version), Outcome.attempt_ok]
    split
    next future =>
      refine Or.inr ⟨fun fits => ?_, rfl⟩
      have close := abs_lt.mp (fits.close future.1)
      linarith [close.1, future.2]
    next not_future =>
    split
    next past =>
      refine Or.inr ⟨fun fits => ?_, rfl⟩
      have close := abs_lt.mp (fits.close past.1)
      linarith [close.2, past.2]
    next not_past =>
    split
    next known =>
      refine Or.inl ⟨⟨reads, version, fun strict => abs_lt.mpr ?_, known⟩,
        rfl⟩
      exact ⟨not_le.mp fun le => not_future ⟨strict, le⟩,
        not_le.mp fun le => not_past ⟨strict, le⟩⟩
    next unknown => exact Or.inr ⟨fun fits => unknown fits.known, rfl⟩
  · rw [if_pos version]
    exact Or.inr ⟨fun fits => version fits.version, rfl⟩

/-- A line raises, is handed to its handler or is passed over. -/
theorem parseMsg_cases
    (handed : List QueuedLine)
    (queued : QueuedLine) :
    (parser.Unreadable queued ∧ ¬parser.WellFormed queued ∧
        ∃ error,
          parser.parseMsg handed queued = Outcome.raise handed error) ∨
      (¬parser.Unreadable queued ∧ parser.WellFormed queued ∧
        parser.parseMsg handed queued = ⟨handed ++ [queued], queued.answer⟩) ∨
      (¬parser.Unreadable queued ∧ ¬parser.WellFormed queued ∧
        parser.parseMsg handed queued = Outcome.pure handed ()) := by
  cases matched : msgHeader queued.line with
  | none =>
      refine Or.inr (Or.inr ⟨?_, ?_, ?_⟩)
      · rintro ⟨_, found, _⟩
        rw [matched] at found
        cases found
      · rintro ⟨_, found, _⟩
        rw [matched] at found
        cases found
      · unfold parseMsg
        simp only [matched]
  | some header =>
      have formed_iff : parser.WellFormed queued ↔
          parser.Fits queued header := by
        simp [WellFormed, matched]
      have unreadable_iff : parser.Unreadable queued ↔
          ¬parser.Reads queued header := by
        simp [Unreadable, matched]
      rw [formed_iff, unreadable_iff, not_not]
      by_cases reads : parser.Reads queued header
      · rcases parser.parseMsg_of_reads handed matched reads with
          ⟨fits, result⟩ | ⟨unfit, result⟩
        · exact Or.inr (Or.inl ⟨reads, fits, result⟩)
        · exact Or.inr (Or.inr ⟨reads, unfit, result⟩)
      · exact Or.inl ⟨reads, fun fits => reads fits.reads,
          parser.parseMsg_of_unread handed matched reads⟩

/-! ## The loop -/

/-- The well-formed lines of a queue. -/
def wellFormedLines (queue : List QueuedLine) : List QueuedLine :=
  queue.filter fun queued => parser.WellFormed queued

/-- No well-formed line comes after one that raises. -/
def NothingLost (queue : List QueuedLine) : Prop :=
  queue.Pairwise fun queued later =>
    parser.Raises queued → ¬parser.WellFormed later

theorem wellFormedLines_eq_nil_iff (queue : List QueuedLine) :
    parser.wellFormedLines queue = [] ↔
      ∀ queued ∈ queue, ¬parser.WellFormed queued := by
  unfold wellFormedLines
  simp [List.filter_eq_nil_iff]

theorem nothingLost_of_unformed
    {queue : List QueuedLine}
    (unformed : ∀ queued ∈ queue, ¬parser.WellFormed queued) :
    parser.NothingLost queue := by
  refine List.pairwise_of_forall_mem_list ?_
  intro _ _ later listed _
  exact unformed later listed

/-- Behind a line that raises nothing is lost when nothing is well-formed. -/
theorem nothingLost_cons_of_raises
    {queued : QueuedLine}
    (raises : parser.Raises queued)
    (queue : List QueuedLine) :
    parser.NothingLost (queued :: queue) ↔
      parser.wellFormedLines queue = [] := by
  rw [wellFormedLines_eq_nil_iff, NothingLost, List.pairwise_cons]
  constructor
  · rintro ⟨first, _⟩ later listed
    exact first later listed raises
  · intro unformed
    exact ⟨fun later listed _ => unformed later listed,
      parser.nothingLost_of_unformed unformed⟩

theorem nothingLost_cons_of_not_raises
    {queued : QueuedLine}
    (quiet : ¬parser.Raises queued)
    (queue : List QueuedLine) :
    parser.NothingLost (queued :: queue) ↔ parser.NothingLost queue := by
  rw [NothingLost, List.pairwise_cons]
  exact and_iff_right fun later _ raises => absurd raises quiet

/-- The loop hands on a first part of the well-formed lines, and all of them
exactly when none comes after a line that raises. -/
theorem replyLoop_spec (handed queue : List QueuedLine) :
    ∃ done, (parser.replyLoop handed queue).state = handed ++ done ∧
      done <+: parser.wellFormedLines queue ∧
      (done = parser.wellFormedLines queue ↔ parser.NothingLost queue) := by
  induction queue generalizing handed with
  | nil =>
      refine ⟨[], (List.append_nil _).symm, List.nil_prefix, ?_⟩
      exact iff_of_true rfl List.Pairwise.nil
  | cons queued queue inductionHypothesis =>
      rw [replyLoop]
      rcases parser.parseMsg_cases handed queued with
        ⟨unreadable, unformed, error, result⟩ |
          ⟨readable, formed, result⟩ | ⟨readable, unformed, result⟩
      · have lines_eq : parser.wellFormedLines (queued :: queue) =
            parser.wellFormedLines queue :=
          List.filter_cons_of_neg (by simpa using unformed)
        refine ⟨[], ?_, List.nil_prefix, ?_⟩
        · rw [result, List.append_nil]
          rfl
        · rw [parser.nothingLost_cons_of_raises (Or.inl unreadable), lines_eq]
          exact eq_comm
      · have lines_eq : parser.wellFormedLines (queued :: queue) =
            queued :: parser.wellFormedLines queue :=
          List.filter_cons_of_pos (by simpa using formed)
        rw [lines_eq]
        cases answer : queued.answer with
        | ok _ =>
            have quiet : ¬parser.Raises queued := by
              rintro (unreadable | ⟨_, error, raised⟩)
              · exact readable unreadable
              · rw [answer] at raised
                cases raised
            obtain ⟨done, state_eq, starts, complete⟩ :=
              inductionHypothesis (handed ++ [queued])
            refine ⟨queued :: done, ?_, ?_, ?_⟩
            · rw [result, answer]
              refine state_eq.trans ?_
              rw [List.append_assoc, List.singleton_append]
            · exact (List.prefix_cons_inj queued).mpr starts
            · rw [parser.nothingLost_cons_of_not_raises quiet, ← complete,
                List.cons.injEq, and_iff_right rfl]
        | error error =>
            refine ⟨[queued], ?_, ?_, ?_⟩
            · rw [result, answer]
              rfl
            · exact (List.prefix_cons_inj queued).mpr List.nil_prefix
            · rw [parser.nothingLost_cons_of_raises
                  (Or.inr ⟨formed, error, answer⟩),
                List.cons.injEq, and_iff_right rfl]
              exact eq_comm
      · have lines_eq : parser.wellFormedLines (queued :: queue) =
            parser.wellFormedLines queue :=
          List.filter_cons_of_neg (by simpa using unformed)
        have quiet : ¬parser.Raises queued := by
          rintro (unreadable | ⟨formed, _⟩)
          · exact readable unreadable
          · exact unformed formed
        obtain ⟨done, state_eq, starts, complete⟩ := inductionHypothesis handed
        refine ⟨done, ?_, ?_, ?_⟩
        · rw [result]
          exact state_eq
        · rw [lines_eq]
          exact starts
        · rw [parser.nothingLost_cons_of_not_raises quiet, lines_eq]
          exact complete

theorem processReplies_spec (queue : List QueuedLine) :
    parser.processReplies queue <+: parser.wellFormedLines queue ∧
      (parser.processReplies queue = parser.wellFormedLines queue ↔
        parser.NothingLost queue) := by
  obtain ⟨done, state_eq, starts, complete⟩ := parser.replyLoop_spec [] queue
  rw [List.nil_append] at state_eq
  rw [processReplies, state_eq]
  exact ⟨starts, complete⟩

/-- Passes lose nothing together exactly when each of them loses nothing. -/
theorem passes_eq_iff (queues : List (List QueuedLine)) :
    parser.passes queues = parser.wellFormedLines queues.flatten ↔
      ∀ queue ∈ queues, parser.NothingLost queue := by
  have shorter : ∀ queues : List (List QueuedLine),
      (parser.passes queues).length ≤
        (parser.wellFormedLines queues.flatten).length := by
    intro queues
    induction queues with
    | nil => exact le_rfl
    | cons queue queues inductionHypothesis =>
        have first := (parser.processReplies_spec queue).1.length_le
        simp only [passes, wellFormedLines, List.map_cons, List.flatten_cons,
          List.filter_append, List.length_append] at *
        omega
  induction queues with
  | nil => simp [passes, wellFormedLines]
  | cons queue queues inductionHypothesis =>
      obtain ⟨starts, complete⟩ := parser.processReplies_spec queue
      have later := shorter queues
      rw [List.forall_mem_cons]
      refine Iff.trans ?_ (and_congr complete inductionHypothesis)
      have passes_cons : parser.passes (queue :: queues) =
          parser.processReplies queue ++ parser.passes queues := rfl
      have lines_cons : parser.wellFormedLines (queue :: queues).flatten =
          parser.wellFormedLines queue ++
            parser.wellFormedLines queues.flatten := by
        rw [List.flatten_cons, wellFormedLines, List.filter_append]
        rfl
      rw [passes_cons, lines_cons]
      constructor
      · intro same
        have length_eq := congrArg List.length same
        rw [List.length_append, List.length_append] at length_eq
        have first := starts.length_le
        have first_eq := starts.eq_of_length (by omega)
        rw [first_eq] at same ⊢
        exact ⟨rfl, List.append_cancel_left same⟩
      · rintro ⟨first, rest⟩
        rw [first, rest]

/-- Over any passes every well-formed line is handed to its handler exactly
once, in order, if and only if in no pass one comes after a line that raises;
and a line with a header whose handler does not raise is processed without an
exception if and only if it can be read. -/
theorem passes_complete_iff (queues : List (List QueuedLine)) :
    (parser.passes queues = parser.wellFormedLines queues.flatten ↔
      ∀ queue ∈ queues, parser.NothingLost queue) ∧
    ∀ handed queued, (msgHeader queued.line).isSome →
      queued.answer = .ok () →
        ((∃ error, (parser.parseMsg handed queued).result = .error error) ↔
          parser.Unreadable queued) := by
  refine ⟨parser.passes_eq_iff queues, ?_⟩
  intro handed queued _ answer
  rcases parser.parseMsg_cases handed queued with
    ⟨unreadable, _, error, result⟩ | ⟨readable, _, result⟩ |
      ⟨readable, _, result⟩
  · rw [result]
    exact iff_of_true ⟨error, rfl⟩ unreadable
  · rw [result, answer]
    exact iff_of_false (fun ⟨_, raised⟩ => by cases raised) readable
  · rw [result]
    exact iff_of_false (fun ⟨_, raised⟩ => by cases raised) readable

end MsgParser

namespace Sample

def readyParser : MsgParser where
  version := 1
  debug := false
  conversion := .plain
  prec := 28
  emax := 999999
  knows rpc := decide (rpc = "READY".toList)

def queuedLine (line : String) : QueuedLine where
  line := line.toList
  time := 1500000000
  answer := .ok ()

/-- A line with a fractional timestamp before a well-formed one. -/
def oddQueue : List QueuedLine :=
  [queuedLine "1 1500000000.5 READY a", queuedLine "1 1500000000 READY b"]

end Sample

/-- Whether a line with a header is processed is a matter of its timestamp. -/
theorem passes_complete_of_ready :
    (∃ error, (Sample.readyParser.parseMsg []
      (Sample.queuedLine "1 1500000000 READY b")).result = .error error) ↔
        Sample.readyParser.Unreadable
          (Sample.queuedLine "1 1500000000 READY b") :=
  (Sample.readyParser.passes_complete_iff []).2 []
    (Sample.queuedLine "1 1500000000 READY b") (by decide +kernel) rfl

/-- The line behind a fractional timestamp never reaches its handler, and the
line with it raises. -/
theorem oddQueue_lost :
    Sample.readyParser.passes [Sample.oddQueue] = [] ∧
      Sample.readyParser.wellFormedLines Sample.oddQueue ≠ [] ∧
      ∃ error, (Sample.readyParser.parseMsg []
        (Sample.queuedLine "1 1500000000.5 READY a")).result =
          .error error := by
  refine ⟨?_, ?_, .valueError, ?_⟩
  · decide +kernel
  · decide +kernel
  · decide +kernel

end Coinbend
