import Coinbend.Currency.Text
import Coinbend.Library.Delimited

/-!
# The line buffer of a socket

`Sock.parse_buf`: a scan of the buffered text that hands out the lines ended
by a carriage return and a line feed, and keeps what comes after the last of
them.
-/

namespace Coinbend

/-- The variables of the scan. -/
structure ScanState where
  replies : List Text
  reply : Text
  chop : Nat
  skip : Nat
  i : Nat

namespace ScanState

def start : ScanState where
  replies := []
  reply := []
  chop := 0
  skip := 0
  i := 0

/-- One character of `for ch in self.buf`. -/
def step (buf : Text) (scan : ScanState) (ch : Char) : ScanState :=
  if scan.skip ≠ 0 then
    { scan with skip := scan.skip - 1, i := scan.i + 1 }
  else
    let nxt := scan.i + 1
    if nxt < buf.length ∧ ch = '\r' ∧ buf[nxt]? = some '\n' then
      { replies :=
          if scan.reply ≠ [] then scan.replies ++ [scan.reply]
          else scan.replies
        reply := if scan.reply ≠ [] then [] else scan.reply
        chop := nxt + 1
        skip := 1
        i := scan.i + 1 }
    else { scan with reply := scan.reply ++ [ch], i := scan.i + 1 }

end ScanState

/-- `parse_buf`: the replies and the new buffer. -/
def parseBuf (buf : Text) : List Text × Text :=
  let scan := buf.foldl (ScanState.step buf) .start
  (scan.replies, if scan.chop ≠ 0 then buf.drop scan.chop else buf)

/-- Append pieces to the buffer one after another with a `parse_buf` after
each: all the replies, and the last buffer. -/
def parsePieces : Text → List Text → List Text × Text
  | buf, [] => ([], buf)
  | buf, piece :: pieces =>
      let (replies, buf) := parseBuf (buf ++ piece)
      let (more, buf) := parsePieces buf pieces
      (replies ++ more, buf)

/-- The lines of a text, empty ones included, and its unfinished rest. -/
abbrev splitLines : Text → List Text × Text :=
  Delimited.split '\r' '\n'

/-- Bodies that are not empty. -/
def nonemptyLines (bodies : List Text) : List Text :=
  bodies.filter fun body => body ≠ []

@[simp] theorem nonemptyLines_nil : nonemptyLines [] = [] := rfl

theorem nonemptyLines_cons (body : Text) (bodies : List Text) :
    nonemptyLines (body :: bodies) =
      (if body ≠ [] then [body] else []) ++ nonemptyLines bodies := by
  unfold nonemptyLines
  by_cases empty : body = [] <;> simp [empty]

theorem nonemptyLines_append (first second : List Text) :
    nonemptyLines (first ++ second) =
      nonemptyLines first ++ nonemptyLines second :=
  List.filter_append ..

theorem cr_ne_lf : '\r' ≠ '\n' := by decide

/-! ## One scan -/

/-- The bodies when a line has already begun. -/
def resumed (reply : Text) : List Text → List Text
  | [] => []
  | body :: bodies => (reply ++ body) :: bodies

theorem resumed_push
    (reply : Text)
    (ch : Char)
    (bodies : List Text)
    (rest : Text) :
    resumed reply (Delimited.push ch (bodies, rest)).1 =
      resumed (reply ++ [ch]) bodies := by
  cases bodies with
  | nil => rfl
  | cons body bodies =>
      simp only [Delimited.push, resumed, List.append_assoc,
        List.cons_append, List.nil_append]

theorem resumed_nil (bodies : List Text) : resumed [] bodies = bodies := by
  cases bodies <;> rfl

/-- What the scan of the rest of a buffer finds, from where no character is to
be skipped. -/
theorem scan_spec
    (done text : Text)
    (scan : ScanState)
    (at_end : scan.i = done.length)
    (no_skip : scan.skip = 0) :
    let scanned := text.foldl (ScanState.step (done ++ text)) scan
    scanned.replies =
        scan.replies ++
          nonemptyLines (resumed scan.reply (splitLines text).1) ∧
      scanned.chop =
        if (splitLines text).1 = [] then scan.chop
        else (done ++ text).length - (splitLines text).2.length := by
  induction text using Delimited.split.induct '\r' '\n' generalizing done scan with
  | case1 =>
      simp [Delimited.split, resumed]
  | case2 ch =>
      have last : ¬(scan.i + 1 < (done ++ [ch]).length ∧ ch = '\r' ∧
          (done ++ [ch])[scan.i + 1]? = some '\n') := by
        rintro ⟨less, _⟩
        rw [at_end, List.length_append, List.length_singleton] at less
        omega
      simp only [List.foldl_cons, List.foldl_nil, ScanState.step,
        ne_eq, no_skip, not_true_eq_false, if_false, if_neg last,
        Delimited.split, resumed]
      simp
  | case3 ch next text starts bodies rest found inductionHypothesis =>
      obtain ⟨rfl, rfl⟩ := starts
      have delimiter : scan.i + 1 < (done ++ '\r' :: '\n' :: text).length ∧
          '\r' = '\r' ∧
          (done ++ '\r' :: '\n' :: text)[scan.i + 1]? = some '\n' := by
        refine ⟨?_, rfl, ?_⟩
        · rw [at_end]
          simp
        · rw [at_end, List.getElem?_append_right (by omega)]
          simp
      have regroup : done ++ '\r' :: '\n' :: text =
          (done ++ ['\r', '\n']) ++ text := by
        simp
      -- The two symbols of the delimiter take two steps of the loop.
      have first_step : ScanState.step (done ++ '\r' :: '\n' :: text) scan '\r' =
          { replies := scan.replies ++ nonemptyLines [scan.reply]
            reply := []
            chop := scan.i + 1 + 1
            skip := 1
            i := scan.i + 1 } := by
        unfold ScanState.step
        rw [if_neg (not_not.mpr no_skip)]
        refine (if_pos delimiter).trans ?_
        by_cases empty : scan.reply = [] <;> simp [nonemptyLines_cons, empty]
      simp only [List.foldl_cons, first_step]
      have later := inductionHypothesis (done ++ ['\r', '\n'])
        { replies := scan.replies ++ nonemptyLines [scan.reply]
          reply := []
          chop := scan.i + 1 + 1
          skip := 0
          i := scan.i + 1 + 1 }
        (by rw [at_end, List.length_append]; rfl) rfl
      rw [← regroup] at later
      obtain ⟨replies_eq, chop_eq⟩ := later
      have split_eq : splitLines ('\r' :: '\n' :: text) =
          ([] :: (splitLines text).1, (splitLines text).2) := by
        rw [splitLines, Delimited.split, if_pos ⟨rfl, rfl⟩]
      rw [split_eq]
      constructor
      · refine replies_eq.trans ?_
        rw [resumed_nil, List.append_assoc, ← nonemptyLines_append, resumed,
          List.append_nil]
        rfl
      · refine chop_eq.trans ?_
        rw [if_neg (List.cons_ne_nil _ _)]
        split
        next none =>
          rw [Delimited.rest_of_no_body cr_ne_lf none, at_end, regroup,
            List.length_append, Nat.add_sub_cancel, List.length_append]
          rfl
        next some => rfl
  | case4 ch next text starts inductionHypothesis =>
      have regroup : done ++ ch :: next :: text =
          (done ++ [ch]) ++ next :: text := by
        simp
      have no_delimiter : ¬(scan.i + 1 < (done ++ ch :: next :: text).length ∧
          ch = '\r' ∧
          (done ++ ch :: next :: text)[scan.i + 1]? = some '\n') := by
        rintro ⟨_, is_cr, is_lf⟩
        rw [at_end, List.getElem?_append_right (by omega)] at is_lf
        simp only [Nat.add_sub_cancel_left, List.getElem?_cons_succ,
          List.getElem?_cons_zero, Option.some.injEq] at is_lf
        exact starts ⟨is_cr, is_lf⟩
      have first_step : ScanState.step (done ++ ch :: next :: text) scan ch =
          { scan with reply := scan.reply ++ [ch], i := scan.i + 1 } := by
        simp only [ScanState.step, ne_eq, no_skip, not_true_eq_false, if_false,
          if_neg no_delimiter]
      rw [List.foldl_cons, first_step]
      have later := inductionHypothesis (done ++ [ch])
        { scan with reply := scan.reply ++ [ch], i := scan.i + 1 }
        (by rw [List.length_append, at_end]; rfl) no_skip
      rw [← regroup] at later
      obtain ⟨replies_eq, chop_eq⟩ := later
      have split_eq : splitLines (ch :: next :: text) =
          Delimited.push ch (splitLines (next :: text)) := by
        rw [splitLines, Delimited.split, if_neg starts]
      rw [split_eq]
      cases found : splitLines (next :: text) with
      | mk bodies rest =>
          rw [found] at replies_eq chop_eq
          rw [resumed_push]
          refine ⟨replies_eq, chop_eq.trans ?_⟩
          cases bodies with
          | nil => rfl
          | cons body bodies => rfl

/-- `parse_buf` hands out the lines that are not empty and keeps the rest. -/
theorem parseBuf_eq (buf : Text) :
    parseBuf buf = (nonemptyLines (splitLines buf).1, (splitLines buf).2) := by
  obtain ⟨replies_eq, chop_eq⟩ := scan_spec [] buf .start rfl rfl
  rw [List.nil_append] at replies_eq chop_eq
  have joined := (Delimited.split_splits cr_ne_lf buf).joined
  unfold parseBuf
  simp only [replies_eq, chop_eq]
  refine Prod.ext ?_ ?_
  · rw [ScanState.start, resumed_nil]
    rfl
  · simp only
    by_cases none : (splitLines buf).1 = []
    · rw [if_pos none, Delimited.rest_of_no_body cr_ne_lf none]
      rfl
    · rw [if_neg none]
      generalize (splitLines buf).1 = bodies at *
      generalize (splitLines buf).2 = rest at *
      subst joined
      have some_length : (List.map (fun x => x ++ ['\r', '\n'])
          bodies).flatten.length ≠ 0 := by
        cases bodies with
        | nil => exact absurd rfl none
        | cons body bodies => simp
      rw [List.length_append, Nat.add_sub_cancel, if_pos some_length,
        List.drop_left]

/-- The buffer between two scans has no whole line. -/
theorem parsePieces_eq
    (pieces : List Text)
    {buf : Text}
    (no_line : ¬['\r', '\n'] <:+: buf) :
    parsePieces buf pieces =
      (nonemptyLines (splitLines (buf ++ pieces.flatten)).1,
        (splitLines (buf ++ pieces.flatten)).2) := by
  induction pieces generalizing buf with
  | nil =>
      rw [List.flatten_nil, List.append_nil, splitLines,
        Delimited.split_of_free no_line]
      rfl
  | cons piece pieces inductionHypothesis =>
      have rest_free := (Delimited.split_splits cr_ne_lf (buf ++ piece)).rest_free
      have later := inductionHypothesis rest_free
      rw [parsePieces, parseBuf_eq]
      simp only [later, List.flatten_cons]
      rw [← List.append_assoc, splitLines,
        Delimited.split_append cr_ne_lf (buf ++ piece), nonemptyLines_append]

/-- However a text is cut into pieces, the replies are its lines that are not
empty, in order, and the buffer is what comes after the last of them. -/
theorem parsePieces_spec (pieces : List Text) :
    ∃ bodies rest,
      Delimited.Splits '\r' '\n' pieces.flatten bodies rest ∧
        parsePieces [] pieces = (bodies.filter fun body => body ≠ [], rest) := by
  have empty_free : ¬['\r', '\n'] <:+: ([] : Text) := by
    intro inside
    exact absurd inside.length_le (by decide)
  have parsed := parsePieces_eq pieces empty_free
  rw [List.nil_append] at parsed
  exact ⟨_, _, Delimited.split_splits cr_ne_lf _, parsed⟩

example : parsePieces [] ["\rx\r".toList, "\n\r\ny\n".toList, "z".toList] =
    (["\rx".toList], "y\nz".toList) := by
  decide +kernel

end Coinbend
