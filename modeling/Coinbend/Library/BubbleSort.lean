import Mathlib.Data.List.Basic
import Mathlib.Order.Lattice

/-!
# Sorting by adjacent swaps

Passes over a list exchange neighbours whose keys are in the wrong order, until
a pass exchanges nothing.  A pass that exchanges something leaves fewer
inversions, so there is such a pass.
-/

namespace BubbleSort

variable {α κ : Type} [LinearOrder κ] (key : α → κ)

/-- One pass, and whether it exchanged two neighbours. -/
def pass : List α → List α × Bool
  | [] => ([], false)
  | [last] => ([last], false)
  | first :: second :: rest =>
      if key second < key first then
        (second :: (pass (first :: rest)).1, true)
      else
        (first :: (pass (second :: rest)).1, (pass (second :: rest)).2)
  termination_by list => list.length

/-- The pairs of a list whose keys are in the wrong order. -/
def inversions : List α → ℕ
  | [] => 0
  | first :: rest =>
      rest.countP (fun later => key later < key first) + inversions rest

-- The equations are made once here, before the proofs that use them.
attribute [local grind =] pass inversions

theorem inversions_cons (first : α) (rest : List α) :
    inversions key (first :: rest) =
      rest.countP (fun later => key later < key first) +
        inversions key rest := rfl

theorem pass_of_lt
    {first second : α}
    (rest : List α)
    (wrong : key second < key first) :
    pass key (first :: second :: rest) =
      (second :: (pass key (first :: rest)).1, true) := by
  rw [pass, if_pos wrong]

theorem pass_of_not_lt
    {first second : α}
    (rest : List α)
    (right : ¬key second < key first) :
    pass key (first :: second :: rest) =
      (first :: (pass key (second :: rest)).1,
        (pass key (second :: rest)).2) := by
  rw [pass, if_neg right]

theorem pass_perm (list : List α) : (pass key list).1.Perm list := by
  induction list using pass.induct key with
  | case1 => rw [pass]
  | case2 last => rw [pass]
  | case3 first second rest wrong hypothesis =>
      rw [pass_of_lt key rest wrong]
      exact (hypothesis.cons second).trans (List.Perm.swap first second rest)
  | case4 first second rest right hypothesis =>
      rw [pass_of_not_lt key rest right]
      exact hypothesis.cons first

/-- A pass that exchanges something leaves fewer inversions. -/
theorem inversions_pass (list : List α) :
    inversions key (pass key list).1 ≤ inversions key list ∧
      ((pass key list).2 = true →
        inversions key (pass key list).1 < inversions key list) := by
  induction list using pass.induct key with
  | case1 => simp [pass]
  | case2 last => simp [pass]
  | case3 first second rest wrong hypothesis =>
      have fewer : inversions key (second :: (pass key (first :: rest)).1) <
          inversions key (first :: second :: rest) := by
        have same := (pass_perm key (first :: rest)).countP_eq
          fun later => key later < key second
        simp only [inversions, same, List.countP_cons, wrong,
          not_lt_of_gt wrong, decide_true, decide_false, if_true] at hypothesis ⊢
        have bound := hypothesis.1
        simp only [Bool.false_eq_true, if_false]
        omega
      rw [pass_of_lt key rest wrong]
      exact ⟨Nat.le_of_lt fewer, fun _ => fewer⟩
  | case4 first second rest right hypothesis =>
      have same := (pass_perm key (second :: rest)).countP_eq
        fun later => key later < key first
      rw [pass_of_not_lt key rest right]
      obtain ⟨bound, fewer⟩ := hypothesis
      rw [inversions_cons key first, inversions_cons key first, same]
      refine ⟨by omega, fun exchanged => ?_⟩
      have strictly := fewer exchanged
      omega

/-- A pass that exchanges nothing finds the list in order. -/
theorem pairwise_of_pass
    {list : List α}
    (unchanged : (pass key list).2 = false) :
    (pass key list).1 = list ∧
      list.Pairwise fun first second => key first ≤ key second := by
  induction list using pass.induct key with
  | case1 => simp [pass]
  | case2 last => simp [pass]
  | case3 first second rest wrong hypothesis =>
      rw [pass_of_lt key rest wrong] at unchanged
      cases unchanged
  | case4 first second rest right hypothesis =>
      rw [pass_of_not_lt key rest right] at unchanged ⊢
      obtain ⟨same, ordered⟩ := hypothesis unchanged
      refine ⟨by rw [same], List.pairwise_cons.mpr ⟨?_, ordered⟩⟩
      intro later member
      have first_le := not_lt.mp right
      rcases List.mem_cons.mp member with rfl | member
      · exact first_le
      · exact first_le.trans (List.rel_of_pairwise_cons ordered member)

/-- Passes until one exchanges nothing. -/
def sort (list : List α) : List α :=
  if (pass key list).2 = true then
    sort (pass key list).1
  else
    (pass key list).1
  termination_by inversions key list
  decreasing_by
    next exchanged => exact (inversions_pass key list).2 exchanged

theorem sort_perm (list : List α) : (sort key list).Perm list := by
  induction list using sort.induct key with
  | case1 list exchanged hypothesis =>
      rw [sort, if_pos exchanged]
      exact hypothesis.trans (pass_perm key list)
  | case2 list unchanged =>
      rw [sort, if_neg unchanged]
      exact pass_perm key list

theorem sort_sorted (list : List α) :
    (sort key list).Pairwise fun first second => key first ≤ key second := by
  induction list using sort.induct key with
  | case1 list exchanged hypothesis =>
      rw [sort, if_pos exchanged]
      exact hypothesis
  | case2 list unchanged =>
      rw [sort, if_neg unchanged]
      obtain ⟨same, ordered⟩ :=
        pairwise_of_pass key (Bool.not_eq_true _ ▸ unchanged)
      rw [same]
      exact ordered

/-- The first element of a sorted list has the least key. -/
theorem head?_sort
    {list : List α}
    {first : α}
    (head : (sort key list).head? = some first) :
    first ∈ list ∧ ∀ other ∈ list, key first ≤ key other := by
  have perm := sort_perm key list
  have ordered := sort_sorted key list
  cases sorted : sort key list with
  | nil =>
      rw [sorted] at head
      cases head
  | cons least rest =>
      rw [sorted] at head perm ordered
      cases head
      refine ⟨perm.mem_iff.mp List.mem_cons_self, ?_⟩
      intro other member
      rcases List.mem_cons.mp (perm.mem_iff.mpr member) with rfl | member
      · exact le_rfl
      · exact List.rel_of_pairwise_cons ordered member

end BubbleSort
