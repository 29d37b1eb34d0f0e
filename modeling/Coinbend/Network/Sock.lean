import Coinbend.Library.Machine
import Coinbend.Library.Outcome
import Coinbend.Network.LineBuffer
import Coinbend.PyError
import Coinbend.Transaction.Defs

/-!
# Sockets

Class `Sock` of `sock.py`: what its calls read from the network, and the lines
they hand to the caller.  `received` is what `recv` has returned so far; the
code does not keep it.
-/

namespace Coinbend

/-- `bytes.decode("utf-8")`. -/
def decodeUtf8 (bytes : Bytes) : Option Text :=
  (String.fromUTF8? ⟨bytes.toArray⟩).map String.toList

theorem decodeUtf8_nil : decodeUtf8 [] = some [] := by
  decide

/-- What decodes by itself decodes in one piece. -/
theorem decodeUtf8_append
    {first second : Bytes}
    {firstText secondText : Text}
    (first_decodes : decodeUtf8 first = some firstText)
    (second_decodes : decodeUtf8 second = some secondText) :
    decodeUtf8 (first ++ second) = some (firstText ++ secondText) := by
  unfold decodeUtf8 at *
  rw [Option.map_eq_some_iff] at *
  obtain ⟨firstString, first_found, rfl⟩ := first_decodes
  obtain ⟨secondString, second_found, rfl⟩ := second_decodes
  refine ⟨firstString ++ secondString, ?_, String.toList_append⟩
  unfold String.fromUTF8? at *
  split at first_found
  · split at second_found
    · rw [Option.some.injEq] at first_found second_found
      have bytes_eq : (⟨(first ++ second).toArray⟩ : ByteArray) =
          (firstString ++ secondString).toByteArray := by
        rw [String.toByteArray_append, ← first_found, ← second_found]
        apply ByteArray.ext
        simp [String.fromUTF8]
      rw [dif_pos (by rw [bytes_eq]; exact String.isValidUTF8 _),
        Option.some.injEq]
      rw [← String.toByteArray_inj]
      exact bytes_eq
    · cases second_found
  · cases first_found

/-- What one `recv` does. -/
inductive Recv
  | chunk (bytes : Bytes)
  /-- Nothing has arrived, or the wait for it timed out. -/
  | wouldBlock
  /-- The peer closed the connection or it broke. -/
  | closed

structure Sock where
  connected : Bool
  blocking : Bool
  maxBuf : Nat
  maxChunks : Nat
  buf : Text
  replies : List Text
  received : Bytes

namespace Sock

/-- `"\r\n" in self.buf`. -/
def hasLine (sock : Sock) : Bool :=
  decide (['\r', '\n'] <:+: sock.buf)

/-- The end of a pass: a blocking socket goes on until it has a line, and
raises when nothing else comes. -/
def settle (sock : Sock) : Outcome Sock PyError Unit :=
  if sock.blocking ∧ sock.hasLine = false then
    Outcome.raise sock (.exception "Socket timeout.")
  else Outcome.pure sock ()

/-- `get_chunks` on what the calls of `recv` do, after `chunkNo` chunks. -/
def getChunks (sock : Sock) (chunkNo : Nat) :
    List Recv → Outcome Sock PyError Unit
  | [] => sock.settle
  | recv :: recvs =>
      if sock.maxBuf ≤ sock.buf.length then sock.settle
      else if sock.maxChunks ≤ chunkNo ∧ sock.blocking = false then
        Outcome.pure sock ()
      else
        match recv with
        | .wouldBlock =>
            if sock.blocking ∧ sock.hasLine = false then
              getChunks sock chunkNo recvs
            else Outcome.pure sock ()
        | .closed => Outcome.pure { sock with connected := false } ()
        | .chunk bytes =>
            let sock := { sock with received := sock.received ++ bytes }
            match decodeUtf8 bytes with
            -- "Avoid decoding errors."
            | none => getChunks sock chunkNo recvs
            | some text =>
                let sock := { sock with buf := sock.buf ++ text }
                if sock.blocking then
                  if sock.hasLine then Outcome.pure sock ()
                  else getChunks sock chunkNo recvs
                else getChunks sock (chunkNo + 1) recvs

/-- `update`. -/
def update (sock : Sock) (recvs : List Recv) : Outcome Sock PyError Unit :=
  (if sock.connected then sock.getChunks 0 recvs
    else Outcome.pure sock ()).bind fun sock _ =>
  let (replies, buf) := parseBuf sock.buf
  Outcome.pure { sock with replies, buf } ()

/-- The first pending line, unless the buffer is full. -/
def pop? (sock : Sock) : Option (Sock × Text) :=
  match sock.replies with
  | reply :: replies =>
      if sock.maxBuf ≤ sock.buf.length then none
      else some ({ sock with replies }, reply)
  | [] => none

/-- `recv_line`, on what the network does in each `update`; no line when the
connection is lost or it is still waiting after the last of them. -/
def recvLine (sock : Sock) : List (List Recv) → Outcome Sock PyError (Option Text)
  | [] =>
      match sock.pop? with
      | some (sock, reply) => Outcome.pure sock (some reply)
      | none => Outcome.pure sock none
  | recvs :: more =>
      match sock.pop? with
      | some (sock, reply) => Outcome.pure sock (some reply)
      | none =>
          if sock.connected = false then Outcome.pure sock none
          else (sock.update recvs).bind fun sock _ => sock.recvLine more

/-- What a caller does with a socket. -/
inductive Call
  | update (recvs : List Recv)
  | recvLine (answers : List (List Recv))
  /-- `len(sock)`. -/
  | len (recvs : List Recv)
  /-- `sock[key]`. -/
  | getItem (key : Nat) (recvs : List Recv)
  /-- `for reply in sock`. -/
  | iterate (recvs : List Recv)

/-- A call: the socket after it and the lines handed to the caller. -/
def call (sock : Sock) : Call → Sock × List Text
  | .update recvs => ((sock.update recvs).state, [])
  | .recvLine answers =>
      let outcome := sock.recvLine answers
      (outcome.state, outcome.result.toOption.join.toList)
  | .len recvs => ((sock.update recvs).state, [])
  | .getItem _ recvs => ((sock.update recvs).state, [])
  | .iterate recvs =>
      let outcome := sock.update recvs
      match outcome.result with
      | .error _ => (outcome.state, [])
      | .ok _ => ({ outcome.state with replies := [] }, outcome.state.replies)

/-- A socket after its construction. -/
def Fresh (sock : Sock) : Prop :=
  sock.buf = [] ∧ sock.replies = [] ∧ sock.received = []

/-- The socket after some calls and all the lines they handed out. -/
def run (sock : Sock) : List Call → Sock × List Text
  | [] => (sock, [])
  | call :: calls =>
      let (sock, handed) := sock.call call
      let (sock, more) := run sock calls
      (sock, handed ++ more)

/-! ## Lines that are not lost -/

/-- The lines handed out and the pending ones are the lines received. -/
def Delivered (sock : Sock) (handed : List Text) : Prop :=
  ∀ text, decodeUtf8 sock.received = some text →
    ∃ bodies rest, Delimited.Splits '\r' '\n' text bodies rest ∧
      handed ++ sock.replies = bodies.filter fun body => body ≠ []

/-- Every chunk ends where a character does. -/
def WholeCharacters (recvs : List Recv) : Prop :=
  ∀ bytes, .chunk bytes ∈ recvs → (decodeUtf8 bytes).isSome

/-- The buffer limit is not reached while a line is waited for. -/
def WithinBuffer (sock : Sock) : List (List Recv) → Prop
  | [] => sock.buf.length < sock.maxBuf
  | recvs :: more =>
      sock.buf.length < sock.maxBuf ∧
        WithinBuffer (sock.update recvs).state more

instance (sock : Sock) (answers : List (List Recv)) :
    Decidable (sock.WithinBuffer answers) := by
  induction answers generalizing sock with
  | nil => exact inferInstanceAs (Decidable (_ < _))
  | cons recvs more inductionHypothesis =>
      have := inductionHypothesis (sock.update recvs).state
      exact inferInstanceAs (Decidable (_ ∧ _))

/-- A call that loses nothing: its chunks end where characters do, and it does
not update the socket while lines are pending. -/
def Lossless (sock : Sock) : Call → Prop
  | .recvLine answers =>
      (∀ recvs ∈ answers, WholeCharacters recvs) ∧ sock.WithinBuffer answers
  | .update recvs | .len recvs | .getItem _ recvs | .iterate recvs =>
      WholeCharacters recvs ∧ sock.replies = []

/-- Calls of which each one loses nothing. -/
def AllLossless (sock : Sock) : List Call → Prop
  | [] => True
  | call :: calls =>
      sock.Lossless call ∧ AllLossless (sock.call call).1 calls

/-- The received text is what the lines and the buffer were cut from. -/
def Intact (sock : Sock) (handed : List Text) : Prop :=
  ∃ text, decodeUtf8 sock.received = some text ∧
    handed ++ sock.replies = nonemptyLines (splitLines text).1 ∧
      sock.buf = (splitLines text).2

theorem Intact.delivered
    {sock : Sock}
    {handed : List Text}
    (intact : sock.Intact handed) :
    sock.Delivered handed := by
  obtain ⟨text, decodes, lines, _⟩ := intact
  intro other other_decodes
  rw [decodes, Option.some.injEq] at other_decodes
  subst other_decodes
  exact ⟨_, _, Delimited.split_splits cr_ne_lf text, lines⟩

theorem Fresh.intact
    {sock : Sock}
    (fresh : sock.Fresh) :
    sock.Intact [] := by
  obtain ⟨buf, replies, received⟩ := fresh
  refine ⟨[], ?_, ?_, buf⟩
  · rw [received]
    exact decodeUtf8_nil
  · rw [replies]
    rfl

/-- A socket that has read some more text into its buffer. -/
structure Extends (sock later : Sock) (more : Text) : Prop where
  replies : later.replies = sock.replies
  buf : later.buf = sock.buf ++ more
  received : ∀ text, decodeUtf8 sock.received = some text →
    decodeUtf8 later.received = some (text ++ more)

theorem Extends.refl (sock : Sock) : sock.Extends sock [] where
  replies := rfl
  buf := (List.append_nil _).symm
  received text decodes := by rw [List.append_nil, decodes]

/-- A chunk of whole characters goes to the buffer. -/
theorem Extends.chunk
    {sock later : Sock}
    {bytes : Bytes}
    {text more : Text}
    (decodes : decodeUtf8 bytes = some text)
    (extended : Extends
      { sock with received := sock.received ++ bytes, buf := sock.buf ++ text }
      later more) :
    sock.Extends later (text ++ more) where
  replies := extended.replies
  buf := by rw [extended.buf, List.append_assoc]
  received before before_decodes := by
    have both := decodeUtf8_append before_decodes decodes
    rw [extended.received _ both, List.append_assoc]

theorem settle_spec (sock : Sock) :
    sock.settle.state = sock ∧
      (∀ error, sock.settle.result = .error error →
        ¬['\r', '\n'] <:+: sock.buf) := by
  unfold settle
  split
  next waits =>
    refine ⟨rfl, fun _ _ => ?_⟩
    have no_line := waits.2
    rw [hasLine, decide_eq_false_iff_not] at no_line
    exact no_line
  next => exact ⟨rfl, fun _ impossible => by cases impossible⟩

/-- Chunks of whole characters go to the buffer, and no line is in it when the
wait for one raises. -/
theorem getChunks_spec
    (sock : Sock)
    (chunkNo : Nat)
    (recvs : List Recv)
    (whole : WholeCharacters recvs) :
    ∃ more, sock.Extends (sock.getChunks chunkNo recvs).state more ∧
      ∀ error, (sock.getChunks chunkNo recvs).result = .error error →
        ¬['\r', '\n'] <:+: (sock.getChunks chunkNo recvs).state.buf := by
  induction recvs generalizing sock chunkNo with
  | nil =>
      obtain ⟨state_eq, no_line⟩ := sock.settle_spec
      refine ⟨[], ?_, ?_⟩
      · rw [getChunks, state_eq]
        exact Extends.refl sock
      · rw [getChunks, state_eq]
        exact no_line
  | cons recv recvs inductionHypothesis =>
      have later : WholeCharacters recvs := fun bytes listed =>
        whole bytes (List.mem_cons_of_mem _ listed)
      unfold getChunks
      split
      · obtain ⟨state_eq, no_line⟩ := sock.settle_spec
        rw [state_eq]
        exact ⟨[], Extends.refl sock, no_line⟩
      split
      · exact ⟨[], Extends.refl sock, fun _ impossible => by cases impossible⟩
      cases recv with
      | wouldBlock =>
          simp only
          split
          · exact inductionHypothesis sock chunkNo later
          · exact ⟨[], Extends.refl sock,
              fun _ impossible => by cases impossible⟩
      | closed =>
          refine ⟨[], ⟨rfl, (List.append_nil _).symm, ?_⟩,
            fun _ impossible => by cases impossible⟩
          intro text decodes
          rw [List.append_nil]
          exact decodes
      | chunk bytes =>
          obtain ⟨text, decodes⟩ :=
            Option.isSome_iff_exists.mp (whole bytes List.mem_cons_self)
          simp only [decodes]
          split
          · split
            · refine ⟨text ++ [], Extends.chunk decodes (Extends.refl _),
                fun _ impossible => by cases impossible⟩
            · obtain ⟨more, extended, no_line⟩ := inductionHypothesis
                { sock with
                  received := sock.received ++ bytes
                  buf := sock.buf ++ text } chunkNo later
              exact ⟨text ++ more, Extends.chunk decodes extended, no_line⟩
          · obtain ⟨more, extended, no_line⟩ := inductionHypothesis
              { sock with
                received := sock.received ++ bytes
                buf := sock.buf ++ text } (chunkNo + 1) later
            exact ⟨text ++ more, Extends.chunk decodes extended, no_line⟩

/-- An update with nothing pending hands over the new lines. -/
theorem Intact.update
    {sock : Sock}
    {handed : List Text}
    {recvs : List Recv}
    (intact : sock.Intact handed)
    (none_pending : sock.replies = [])
    (whole : WholeCharacters recvs) :
    (sock.update recvs).state.Intact handed := by
  obtain ⟨text, decodes, lines, buf_eq⟩ := intact
  rw [none_pending, List.append_nil] at lines
  have chunks : ∃ more,
      sock.Extends (if sock.connected then sock.getChunks 0 recvs
        else Outcome.pure sock ()).state more ∧
      ∀ error, (if sock.connected then sock.getChunks 0 recvs
        else Outcome.pure sock ()).result = .error error →
          ¬['\r', '\n'] <:+: (if sock.connected then sock.getChunks 0 recvs
            else Outcome.pure sock ()).state.buf := by
    split
    · exact getChunks_spec sock 0 recvs whole
    · exact ⟨[], Extends.refl sock, fun _ impossible => by cases impossible⟩
  obtain ⟨more, extended, no_line⟩ := chunks
  have cut : splitLines (text ++ more) =
      ((splitLines text).1 ++ (splitLines ((splitLines text).2 ++ more)).1,
        (splitLines ((splitLines text).2 ++ more)).2) :=
    Delimited.split_append cr_ne_lf text more
  unfold Sock.update
  generalize (if sock.connected then sock.getChunks 0 recvs
    else Outcome.pure sock ()) = outcome at extended no_line
  obtain ⟨later, result⟩ := outcome
  rw [← buf_eq, ← extended.buf] at cut
  cases result with
  | error error =>
      have free : splitLines later.buf = ([], later.buf) :=
        Delimited.split_of_free (no_line error rfl)
      rw [free, List.append_nil] at cut
      refine ⟨text ++ more, extended.received text decodes, ?_, ?_⟩
      · rw [cut, Outcome.bind, Outcome.raise_state, extended.replies,
          none_pending, List.append_nil, lines]
      · rw [cut]
        rfl
  | ok _ =>
      refine ⟨text ++ more, extended.received text decodes, ?_, ?_⟩
      · rw [cut, nonemptyLines_append, lines]
        simp only [Outcome.bind, parseBuf_eq, Outcome.pure_state]
      · rw [cut]
        simp only [Outcome.bind, parseBuf_eq, Outcome.pure_state]

/-- `recv_line` hands over the first pending line. -/
theorem Intact.pop
    {sock later : Sock}
    {handed : List Text}
    {reply : Text}
    (intact : sock.Intact handed)
    (popped : sock.pop? = some (later, reply)) :
    later.Intact (handed ++ [reply]) := by
  obtain ⟨text, decodes, lines, buf_eq⟩ := intact
  unfold pop? at popped
  split at popped
  next reply' replies pending =>
    split at popped
    · cases popped
    · rw [Option.some.injEq, Prod.mk.injEq] at popped
      obtain ⟨rfl, rfl⟩ := popped
      refine ⟨text, decodes, ?_, buf_eq⟩
      rw [← lines, pending, List.append_assoc, List.singleton_append]
  next => cases popped

theorem no_replies_of_pop
    {sock : Sock}
    (within : sock.buf.length < sock.maxBuf)
    (none : sock.pop? = none) :
    sock.replies = [] := by
  unfold pop? at none
  split at none
  · rw [if_neg (Nat.not_le_of_lt within)] at none
    cases none
  next empty => exact empty

theorem Intact.recvLine
    {sock : Sock}
    {handed : List Text}
    {answers : List (List Recv)}
    (intact : sock.Intact handed)
    (whole : ∀ recvs ∈ answers, WholeCharacters recvs)
    (within : sock.WithinBuffer answers) :
    (sock.recvLine answers).state.Intact
      (handed ++ (sock.recvLine answers).result.toOption.join.toList) := by
  induction answers generalizing sock with
  | nil =>
      unfold Sock.recvLine
      cases popped : sock.pop? with
      | some both => exact intact.pop popped
      | none =>
          have same := intact
          rw [← List.append_nil handed] at same
          exact same
  | cons recvs more inductionHypothesis =>
      unfold Sock.recvLine
      cases popped : sock.pop? with
      | some both => exact intact.pop popped
      | none =>
          have same := intact
          rw [← List.append_nil handed] at same
          simp only
          split
          · exact same
          · have updated := intact.update
              (no_replies_of_pop within.1 popped)
              (whole recvs List.mem_cons_self)
            cases result : (sock.update recvs).result with
            | ok _ =>
                simp only [Outcome.bind, result]
                exact inductionHypothesis updated
                  (fun other listed =>
                    whole other (List.mem_cons_of_mem _ listed)) within.2
            | error error =>
                simp only [Outcome.bind, result]
                rw [← List.append_nil handed] at updated
                exact updated

/-- A call that loses nothing keeps the lines together. -/
theorem Intact.call
    {sock : Sock}
    {handed : List Text}
    {call : Call}
    (intact : sock.Intact handed)
    (lossless : sock.Lossless call) :
    (sock.call call).1.Intact (handed ++ (sock.call call).2) := by
  have updates {recvs : List Recv}
      (clean : WholeCharacters recvs ∧ sock.replies = []) :
      (sock.update recvs).state.Intact (handed ++ []) := by
    rw [List.append_nil]
    exact intact.update clean.2 clean.1
  cases call with
  | update recvs => exact updates lossless
  | len recvs => exact updates lossless
  | getItem key recvs => exact updates lossless
  | recvLine answers => exact intact.recvLine lossless.1 lossless.2
  | iterate recvs =>
      have updated := intact.update lossless.2 lossless.1
      cases result : (sock.update recvs).result with
      | error error =>
          simp only [Sock.call, result]
          rw [← List.append_nil handed] at updated
          exact updated
      | ok _ =>
          simp only [Sock.call, result]
          obtain ⟨text, decodes, lines, buf_eq⟩ := updated
          refine ⟨text, decodes, ?_, buf_eq⟩
          rw [List.append_nil]
          exact lines

theorem Intact.run
    {sock : Sock}
    {handed : List Text}
    {calls : List Call}
    (intact : sock.Intact handed)
    (lossless : sock.AllLossless calls) :
    (sock.run calls).1.Intact (handed ++ (sock.run calls).2) := by
  induction calls generalizing sock handed with
  | nil =>
      rw [← List.append_nil handed] at intact
      exact intact
  | cons call calls inductionHypothesis =>
      have later := inductionHypothesis (intact.call lossless.1) lossless.2
      rw [List.append_assoc] at later
      exact later

/-- As long as chunks end where characters do and no call updates the socket
while lines are pending, every line received is handed out once and in order
or still pending. -/
theorem run_delivered
    (sock : Sock)
    (calls : List Call)
    (fresh : sock.Fresh)
    (lossless : sock.AllLossless calls) :
    (sock.run calls).1.Delivered (sock.run calls).2 :=
  (fresh.intact.run lossless).delivered

theorem Delivered.lines
    {sock : Sock}
    {handed : List Text}
    {text : Text}
    (delivered : sock.Delivered handed)
    (decodes : decodeUtf8 sock.received = some text) :
    handed ++ sock.replies = nonemptyLines (splitLines text).1 := by
  obtain ⟨bodies, rest, splits, lines⟩ := delivered text decodes
  rw [splitLines, splits.split_eq cr_ne_lf]
  exact lines

end Sock

namespace Sample

/-- A socket that does not block, just connected. -/
def freshSock : Sock where
  connected := true
  blocking := false
  maxBuf := 1024 * 1024
  maxChunks := 1024
  buf := []
  replies := []
  received := []

/-- `"a\r\nb\r\n"`. -/
def twoLines : Bytes := [97, 13, 10, 98, 13, 10]

/-- Read one line, then the other. -/
def patientCalls : List Sock.Call :=
  [.recvLine [[.chunk twoLines]], .recvLine []]

/-- Read one line, then ask how many there are. -/
def hastyCalls : List Sock.Call :=
  [.recvLine [[.chunk twoLines]], .len []]

/-- `"é\r\n"`, cut between the two bytes of its first character. -/
def cutCalls : List Sock.Call :=
  [.iterate [.chunk [195], .chunk [169, 13, 10]]]

end Sample

namespace Sock

/-- Two lines that arrive together are read one after the other. -/
theorem run_delivered_of_patient :
    (Sample.freshSock.run Sample.patientCalls).1.Delivered
      (Sample.freshSock.run Sample.patientCalls).2 := by
  refine run_delivered _ _ ⟨rfl, rfl, rfl⟩ ⟨⟨?_, ?_⟩, ⟨?_, ?_⟩, trivial⟩
  · intro recvs listed bytes chunk
    rw [List.mem_singleton.mp listed] at chunk
    rw [Recv.chunk.inj (List.mem_singleton.mp chunk)]
    decide
  · exact ⟨by decide, by decide +kernel⟩
  · exact fun _ listed => absurd listed List.not_mem_nil
  · decide +kernel

/-- Asking for the number of lines forgets the second of two lines; a line
whose first character is cut by a chunk never arrives. -/
theorem not_delivered :
    ¬(Sample.freshSock.run Sample.hastyCalls).1.Delivered
        (Sample.freshSock.run Sample.hastyCalls).2 ∧
      ¬(Sample.freshSock.run Sample.cutCalls).1.Delivered
        (Sample.freshSock.run Sample.cutCalls).2 := by
  constructor
  · intro delivered
    have lines := @Delivered.lines _ _ "a\r\nb\r\n".toList delivered
      (by decide +kernel)
    exact absurd lines (by decide +kernel)
  · intro delivered
    have lines := @Delivered.lines _ _ "é\r\n".toList delivered
      (by decide +kernel)
    exact absurd lines (by decide +kernel)

end Sock
end Coinbend
