import Mathlib.Data.List.Infix

/-!
# Delimited streams

A stream in which every body is followed by a delimiter of two different
symbols.  The bodies and the unfinished rest of a stream are unique, and
cutting the stream anywhere and going on with the rest of the first part finds
the same bodies.
-/

namespace Delimited

variable {α : Type}

/-- The bodies of a text, each followed by the two symbols of the delimiter,
and the rest after the last of them. -/
structure Splits
    (first second : α)
    (text : List α)
    (bodies : List (List α))
    (rest : List α) : Prop where
  joined : text = (bodies.map (· ++ [first, second])).flatten ++ rest
  bodies_free : ∀ body ∈ bodies, ¬[first, second] <:+: body
  rest_free : ¬[first, second] <:+: rest

/-- Put a symbol in front of the first body, or of the rest without one. -/
def push (symbol : α) : List (List α) × List α → List (List α) × List α
  | ([], rest) => ([], symbol :: rest)
  | (body :: bodies, rest) => ((symbol :: body) :: bodies, rest)

section
variable {first second : α}

theorem infix_cons_iff
    (symbol next : α)
    (text : List α) :
    [first, second] <:+: symbol :: next :: text ↔
      (symbol = first ∧ next = second) ∨
        [first, second] <:+: next :: text := by
  rw [List.infix_cons_iff, List.cons_prefix_cons, List.cons_prefix_cons]
  simp only [List.nil_prefix, and_true]
  constructor
  · rintro (⟨rfl, rfl⟩ | later)
    · exact Or.inl ⟨rfl, rfl⟩
    · exact Or.inr later
  · rintro (⟨rfl, rfl⟩ | later)
    · exact Or.inl ⟨rfl, rfl⟩
    · exact Or.inr later

theorem not_infix_singleton (symbol : α) :
    ¬[first, second] <:+: [symbol] := by
  intro inside
  have length_le := inside.length_le
  simp at length_le

theorem infix_push_body
    {symbol : α}
    {body : List α}
    (free : ¬[first, second] <:+: body)
    (starts : symbol = first → body.head? ≠ some second) :
    ¬[first, second] <:+: symbol :: body := by
  cases body with
  | nil => exact not_infix_singleton symbol
  | cons next body =>
      rw [infix_cons_iff, not_or]
      refine ⟨?_, free⟩
      rintro ⟨rfl, rfl⟩
      exact starts rfl rfl

end

variable [DecidableEq α]

/-- The bodies and the rest of a text. -/
def split (first second : α) : List α → List (List α) × List α
  | [] => ([], [])
  | [symbol] => ([], [symbol])
  | symbol :: next :: text =>
      if symbol = first ∧ next = second then
        let (bodies, rest) := split first second text
        ([] :: bodies, rest)
      else push symbol (split first second (next :: text))

section
variable {first second : α}

/-- The rest of a text without a body is the whole text. -/
theorem split_of_free
    {text : List α}
    (free : ¬[first, second] <:+: text) :
    split first second text = ([], text) := by
  induction text using split.induct first second with
  | case1 => rfl
  | case2 symbol => rfl
  | case3 symbol next text starts bodies rest found inductionHypothesis =>
      exact absurd ((infix_cons_iff _ _ _).mpr (Or.inl starts)) free
  | case4 symbol next text starts inductionHypothesis =>
      rw [infix_cons_iff, not_or] at free
      rw [split, if_neg starts, inductionHypothesis free.2, push]

/-- A body in front is the first one. -/
theorem split_body
    (different : first ≠ second)
    {body : List α}
    (free : ¬[first, second] <:+: body)
    (text : List α) :
    split first second (body ++ first :: second :: text) =
      (body :: (split first second text).1, (split first second text).2) := by
  induction body with
  | nil => rw [List.nil_append, split, if_pos ⟨rfl, rfl⟩]
  | cons symbol body inductionHypothesis =>
      have shorter : ¬[first, second] <:+: body := fun inside =>
        free (inside.trans (List.infix_cons (List.infix_refl body)))
      have tail_eq := inductionHypothesis shorter
      cases body with
      | nil =>
          rw [List.nil_append] at tail_eq
          rw [List.cons_append, List.nil_append, split,
            if_neg (fun both => different both.2), tail_eq, push]
      | cons next body =>
          rw [infix_cons_iff, not_or] at free
          rw [List.cons_append] at tail_eq
          rw [List.cons_append, List.cons_append, split, if_neg free.1, tail_eq,
            push]

/-- Bodies and a rest are the ones that are found. -/
theorem Splits.split_eq
    (different : first ≠ second)
    {text : List α}
    {bodies : List (List α)}
    {rest : List α}
    (splits : Splits first second text bodies rest) :
    split first second text = (bodies, rest) := by
  obtain ⟨rfl, bodies_free, rest_free⟩ := splits
  induction bodies with
  | nil => exact split_of_free rest_free
  | cons body bodies inductionHypothesis =>
      have later := inductionHypothesis fun other listed =>
        bodies_free other (List.mem_cons_of_mem _ listed)
      rw [List.map_cons, List.flatten_cons, List.append_assoc,
        List.append_assoc, List.cons_append, List.cons_append, List.nil_append,
        split_body different (bodies_free body List.mem_cons_self), later]

/-- What is found are the bodies and the rest. -/
theorem split_splits
    (different : first ≠ second)
    (text : List α) :
    Splits first second text (split first second text).1
      (split first second text).2 := by
  induction text using split.induct first second with
  | case1 =>
      refine ⟨rfl, fun _ listed => absurd listed List.not_mem_nil, ?_⟩
      intro inside
      have length_le := inside.length_le
      simp [split] at length_le
  | case2 symbol =>
      exact ⟨rfl, fun _ listed => absurd listed List.not_mem_nil,
        not_infix_singleton symbol⟩
  | case3 symbol next text starts bodies rest found inductionHypothesis =>
      obtain ⟨rfl, rfl⟩ := starts
      rw [split, if_pos ⟨rfl, rfl⟩]
      refine ⟨?_, ?_, inductionHypothesis.rest_free⟩
      · have joined := inductionHypothesis.joined
        simp only [List.map_cons, List.flatten_cons, List.nil_append,
          List.cons_append, ← joined]
      · intro body listed
        rcases List.mem_cons.mp listed with rfl | listed
        · intro inside
          have length_le := inside.length_le
          simp at length_le
        · exact inductionHypothesis.bodies_free body listed
  | case4 symbol next text starts inductionHypothesis =>
      rw [split, if_neg starts]
      obtain ⟨joined, bodies_free, rest_free⟩ := inductionHypothesis
      cases found : split first second (next :: text) with
      | mk bodies rest =>
          rw [found] at joined bodies_free rest_free
          cases bodies with
          | nil =>
              rw [List.map_nil, List.flatten_nil, List.nil_append] at joined
              refine ⟨?_, fun _ listed => absurd listed List.not_mem_nil, ?_⟩
              · rw [joined]
                rfl
              · refine infix_push_body rest_free ?_
                rintro rfl starts_second
                have joined_rest : next :: text = rest := joined
                rw [← joined_rest, List.head?_cons, Option.some.injEq]
                  at starts_second
                exact starts ⟨rfl, starts_second⟩
          | cons body bodies =>
              refine ⟨?_, ?_, rest_free⟩
              · rw [joined]
                rfl
              · intro other listed
                rcases List.mem_cons.mp listed with rfl | listed
                · refine infix_push_body
                    (bodies_free body List.mem_cons_self) ?_
                  rintro rfl starts_second
                  cases body with
                  | nil => cases starts_second
                  | cons head body =>
                      simp only [List.map_cons, List.flatten_cons,
                        List.cons_append, List.cons.injEq] at joined
                      rw [List.head?_cons, Option.some.injEq] at starts_second
                      exact starts ⟨rfl, joined.1.trans starts_second⟩
                · exact bodies_free other (List.mem_cons_of_mem _ listed)

/-- Without a body everything is the rest. -/
theorem rest_of_no_body
    (different : first ≠ second)
    {text : List α}
    (none : (split first second text).1 = []) :
    (split first second text).2 = text := by
  have joined := (split_splits different text).joined
  rw [none, List.map_nil, List.flatten_nil, List.nil_append] at joined
  exact joined.symm

/-- After a cut the rest of the first part goes on with the second part. -/
theorem split_append
    (different : first ≠ second)
    (start more : List α) :
    split first second (start ++ more) =
      ((split first second start).1 ++
          (split first second ((split first second start).2 ++ more)).1,
        (split first second ((split first second start).2 ++ more)).2) := by
  have found := split_splits different start
  have later := split_splits different ((split first second start).2 ++ more)
  refine (Splits.split_eq different ⟨?_, ?_, later.rest_free⟩)
  · rw [List.map_append, List.flatten_append, List.append_assoc,
      ← later.joined, ← List.append_assoc, ← found.joined]
  · intro body listed
    rcases List.mem_append.mp listed with listed | listed
    · exact found.bodies_free body listed
    · exact later.bodies_free body listed

end

end Delimited
