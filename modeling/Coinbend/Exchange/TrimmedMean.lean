import Coinbend.Library.BubbleSort
import Mathlib.Algebra.Order.Field.Basic
import Mathlib.Algebra.Order.Field.Rat
import Mathlib.Data.Finset.Max
import Mathlib.Order.OrderDual
import Mathlib.Tactic.Linarith

/-!
# The trimmed mean of exchange rates

`trimmed_mean` of `lib.py`, in exact arithmetic.  Every quote collects the
quotes close to it, and the average of a largest collection is returned.  The
test for closeness refuses a difference of zero, so a quote does not collect
the quotes equal to it.
-/

namespace Coinbend

namespace TrimmedMean

/-- Whether the pairwise test of `trimmed_mean` relates two numbers. -/
def related (percent x y : ℚ) : Bool :=
  if x < y then
    let dif := y - x
    decide (dif ≠ 0 ∧ x ≠ 0 ∧ dif / x ≤ percent)
  else
    let dif := x - y
    decide (dif ≠ 0 ∧ y ≠ 0 ∧ dif / y ≤ percent)

/-- A number of the array, then the numbers at other places that pass a
test. -/
def collect
    (test : ℚ → ℚ → Bool)
    (array : List ℚ)
    (entry : ℚ × Nat) : List ℚ :=
  entry.1 :: ((array.zipIdx.filter fun other =>
    other.2 ≠ entry.2 ∧ test entry.1 other.1).map Prod.fst)

/-- `related_numbers` after the first loop. -/
def relatedNumbers (percent : ℚ) (array : List ℚ) : List (List ℚ) :=
  array.zipIdx.map (collect (related percent) array)

/-- The sets with the highest membership. -/
def highestMemberships (percent : ℚ) (array : List ℚ) : List (List ℚ) :=
  let sorted := BubbleSort.sort
    (fun numbers : List ℚ => OrderDual.toDual numbers.length)
    (relatedNumbers percent array)
  sorted.filter fun numbers =>
    numbers.length = (sorted.head?.map List.length).getD 0

def average (numbers : List ℚ) : ℚ :=
  numbers.sum / numbers.length

/-- `trimmed_mean`. -/
def trimmedMean (percent : ℚ) (array : List ℚ) : ℚ :=
  let relatedAvgs := (highestMemberships percent array).map average
  (BubbleSort.sort (fun avg : ℚ => avg) relatedAvgs).head?.getD 0

/-! ## What is returned -/

/-- A collection of the most numbers. -/
def Largest (collections : List (List ℚ)) (numbers : List ℚ) : Prop :=
  numbers ∈ collections ∧
    ∀ other ∈ collections, other.length ≤ numbers.length

theorem mem_highestMemberships_iff
    (percent : ℚ)
    (array numbers : List ℚ) :
    numbers ∈ highestMemberships percent array ↔
      Largest (relatedNumbers percent array) numbers := by
  have perm := BubbleSort.sort_perm
    (fun numbers : List ℚ => OrderDual.toDual numbers.length)
    (relatedNumbers percent array)
  simp only [highestMemberships, List.mem_filter, decide_eq_true_eq,
    perm.mem_iff, Largest]
  refine and_congr_right fun member => ?_
  cases head : (BubbleSort.sort
      (fun numbers : List ℚ => OrderDual.toDual numbers.length)
      (relatedNumbers percent array)).head? with
  | none =>
      rw [List.head?_eq_none_iff] at head
      rw [head] at perm
      rw [List.nil_perm.mp perm] at member
      cases member
  | some first =>
      obtain ⟨first_member, greatest⟩ := BubbleSort.head?_sort _ head
      change numbers.length = first.length ↔ _
      constructor
      · intro same other other_member
        rw [same]
        exact OrderDual.toDual_le_toDual.mp (greatest other other_member)
      · intro largest
        have le : numbers.length ≤ first.length :=
          OrderDual.toDual_le_toDual.mp (greatest numbers member)
        exact Nat.le_antisymm le (largest first first_member)

theorem exists_largest
    {collections : List (List ℚ)}
    (nonempty : collections ≠ []) :
    ∃ numbers, Largest collections numbers := by
  obtain ⟨numbers, member, largest⟩ :=
    collections.toFinset.exists_max_image List.length
      (List.toFinset_nonempty_iff collections |>.mpr nonempty)
  refine ⟨numbers, List.mem_toFinset.mp member, ?_⟩
  intro other other_member
  exact largest other (List.mem_toFinset.mpr other_member)

/-- The value returned is the least average of a largest collection. -/
theorem trimmedMean_spec
    (percent : ℚ)
    {array : List ℚ}
    (nonempty : array ≠ []) :
    ∃ numbers, Largest (relatedNumbers percent array) numbers ∧
      trimmedMean percent array = average numbers := by
  have collected : relatedNumbers percent array ≠ [] := by
    simpa [relatedNumbers] using nonempty
  obtain ⟨numbers, largest⟩ := exists_largest collected
  have listed := (mem_highestMemberships_iff percent array numbers).mpr largest
  have averages := BubbleSort.sort_perm (fun avg : ℚ => avg)
    ((highestMemberships percent array).map average)
  cases head : (BubbleSort.sort (fun avg : ℚ => avg)
      ((highestMemberships percent array).map average)).head? with
  | none =>
      rw [List.head?_eq_none_iff] at head
      have empty := List.nil_perm.mp (head ▸ averages)
      rw [List.map_eq_nil_iff] at empty
      rw [empty] at listed
      cases listed
  | some first =>
      obtain ⟨member, -⟩ := BubbleSort.head?_sort _ head
      obtain ⟨chosen, chosen_listed, same⟩ := List.mem_map.mp member
      refine ⟨chosen,
        (mem_highestMemberships_iff percent array chosen).mp chosen_listed, ?_⟩
      rw [trimmedMean, head, Option.getD_some, same]

/-! ## Groups of agreeing quotes -/

/-- Two quotes are equal or differ by at most the percentage of the smaller
one. -/
def Agree (percent x y : ℚ) : Prop :=
  x = y ∨ |x - y| / min x y ≤ percent

instance (percent x y : ℚ) : Decidable (Agree percent x y) :=
  inferInstanceAs (Decidable (_ ∨ _))

/-- Every quote with all other quotes that agree with it. -/
def groups (percent : ℚ) (array : List ℚ) : List (List ℚ) :=
  array.zipIdx.map (collect (fun x y => Agree percent x y) array)

/-- No other place of the array has the same number. -/
def Unrepeated (array : List ℚ) (entry : ℚ × Nat) : Prop :=
  ∀ other ∈ array.zipIdx, other.2 ≠ entry.2 → other.1 ≠ entry.1

instance (array : List ℚ) (entry : ℚ × Nat) :
    Decidable (Unrepeated array entry) :=
  inferInstanceAs (Decidable (∀ other ∈ _, _))

/-- The pairwise test is agreement of two different quotes. -/
theorem related_iff
    (percent : ℚ)
    {x y : ℚ}
    (x_pos : 0 < x)
    (y_pos : 0 < y) :
    related percent x y = true ↔ x ≠ y ∧ Agree percent x y := by
  unfold related Agree
  rcases lt_trichotomy x y with less | rfl | greater
  · have dif : |x - y| = y - x := by
      rw [abs_sub_comm, abs_of_pos (sub_pos.mpr less)]
    simp [if_pos less, dif, min_eq_left less.le, less.ne, x_pos.ne',
      (sub_pos.mpr less).ne']
  · simp
  · have dif : |x - y| = x - y := abs_of_pos (sub_pos.mpr greater)
    simp [if_neg (not_lt.mpr greater.le), dif, min_eq_right greater.le,
      greater.ne', y_pos.ne', (sub_pos.mpr greater).ne']

section Collected

variable {percent : ℚ} {array : List ℚ}
  (positive : ∀ number ∈ array, 0 < number)
include positive

theorem related_iff_of_mem
    {entry other : ℚ × Nat}
    (entry_mem : entry ∈ array.zipIdx)
    (other_mem : other ∈ array.zipIdx) :
    related percent entry.1 other.1 = true ↔
      entry.1 ≠ other.1 ∧ Agree percent entry.1 other.1 :=
  related_iff percent
    (positive _ (List.fst_mem_of_mem_zipIdx entry_mem))
    (positive _ (List.fst_mem_of_mem_zipIdx other_mem))

/-- What a quote collects is its group without the quotes equal to it. -/
theorem filter_related_eq
    {entry : ℚ × Nat}
    (entry_mem : entry ∈ array.zipIdx) :
    (array.zipIdx.filter fun other =>
        other.2 ≠ entry.2 ∧ related percent entry.1 other.1) =
      (array.zipIdx.filter fun other =>
        other.2 ≠ entry.2 ∧
          (decide (Agree percent entry.1 other.1) : Bool)).filter
        fun other => entry.1 ≠ other.1 := by
  rw [List.filter_filter]
  apply List.filter_congr
  intro other other_mem
  rw [← Bool.decide_and, decide_eq_decide,
    related_iff_of_mem positive entry_mem other_mem, decide_eq_true_eq]
  tauto

theorem collect_related_sublist
    {entry : ℚ × Nat}
    (entry_mem : entry ∈ array.zipIdx) :
    (collect (related percent) array entry).Sublist
      (collect (fun x y => Agree percent x y) array entry) := by
  refine List.Sublist.cons_cons _ (List.Sublist.map _ ?_)
  rw [filter_related_eq positive entry_mem]
  exact List.filter_sublist

/-- A quote collects its whole group exactly when it is not repeated. -/
theorem length_collect_related_eq_iff
    {entry : ℚ × Nat}
    (entry_mem : entry ∈ array.zipIdx) :
    (collect (related percent) array entry).length =
        (collect (fun x y => Agree percent x y) array entry).length ↔
      Unrepeated array entry := by
  simp only [collect, List.length_cons, List.length_map,
    filter_related_eq positive entry_mem, Nat.add_right_cancel_iff,
    List.length_filter_eq_length_iff]
  constructor
  · intro different other other_mem elsewhere same
    have agree : Agree percent entry.1 other.1 := Or.inl same.symm
    have apart := different other (by simp [other_mem, elsewhere, agree])
    simp [same] at apart
  · intro unrepeated other listed
    simp only [List.mem_filter, decide_eq_true_eq] at listed
    have apart := unrepeated other listed.1 listed.2.1
    simp [apart.symm]

end Collected

/-! ## The vote -/

/-- The value returned is the average of a largest group. -/
def VotesForLargest (percent : ℚ) (array : List ℚ) : Prop :=
  ∃ numbers, Largest (groups percent array) numbers ∧
    trimmedMean percent array = average numbers

/-- A collection of the most numbers that is averaged is a largest group. -/
def PicksLargest (percent : ℚ) (array : List ℚ) : Prop :=
  ∃ numbers, Largest (relatedNumbers percent array) numbers ∧
    Largest (groups percent array) numbers ∧
    trimmedMean percent array = average numbers

/-- Some quote with a largest group is not repeated. -/
def UnrepeatedLargest (percent : ℚ) (array : List ℚ) : Prop :=
  ∃ entry ∈ array.zipIdx,
    Largest (groups percent array)
      (collect (fun x y => Agree percent x y) array entry) ∧
    Unrepeated array entry

theorem PicksLargest.votes
    {percent : ℚ}
    {array : List ℚ}
    (picks : PicksLargest percent array) :
    VotesForLargest percent array := by
  obtain ⟨numbers, -, largest, returned⟩ := picks
  exact ⟨numbers, largest, returned⟩

/-- A largest group is averaged exactly when some quote with a largest group
is not repeated. -/
theorem picksLargest_iff
    (percent : ℚ)
    {array : List ℚ}
    (nonempty : array ≠ [])
    (positive : ∀ number ∈ array, 0 < number) :
    PicksLargest percent array ↔ UnrepeatedLargest percent array := by
  constructor
  · rintro ⟨numbers, ⟨collected, -⟩, largest, -⟩
    obtain ⟨entry, entry_mem, rfl⟩ := List.mem_map.mp collected
    have group_mem : collect (fun x y => Agree percent x y) array entry ∈
        groups percent array :=
      List.mem_map_of_mem entry_mem
    have part : (collect (related percent) array entry).Sublist
        (collect (fun x y => Agree percent x y) array entry) :=
      collect_related_sublist positive entry_mem
    have whole := Nat.le_antisymm part.length_le (largest.2 _ group_mem)
    refine ⟨entry, entry_mem, ?_,
      (length_collect_related_eq_iff positive entry_mem).mp whole⟩
    rw [← part.eq_of_length whole]
    exact largest
  · rintro ⟨entry, entry_mem, largest, unrepeated⟩
    have whole : (collect (related percent) array entry).length =
        (collect (fun x y => Agree percent x y) array entry).length :=
      (length_collect_related_eq_iff positive entry_mem).mpr unrepeated
    obtain ⟨numbers, most, returned⟩ := trimmedMean_spec percent nonempty
    refine ⟨numbers, most, ?_, returned⟩
    obtain ⟨chosen, chosen_mem, rfl⟩ := List.mem_map.mp most.1
    have chosen_group :
        collect (fun x y => Agree percent x y) array chosen ∈
          groups percent array :=
      List.mem_map_of_mem chosen_mem
    have part : (collect (related percent) array chosen).Sublist
        (collect (fun x y => Agree percent x y) array chosen) :=
      collect_related_sublist positive chosen_mem
    -- The collection averaged has no less than the unrepeated quote's group,
    -- and so no less than its own group.
    have enough := most.2 _ (List.mem_map_of_mem entry_mem)
    rw [whole] at enough
    have bound := largest.2 _ chosen_group
    have same := part.eq_of_length
      (Nat.le_antisymm part.length_le (bound.trans enough))
    rw [same]
    refine ⟨chosen_group, fun other other_mem => ?_⟩
    rw [← same]
    exact (largest.2 other other_mem).trans enough

/-- The vote goes to a largest group when some quote with a largest group is
not repeated, and exactly then a largest group is averaged. -/
theorem trimmedMean_largest
    (percent : ℚ)
    (array : List ℚ)
    (nonempty : array ≠ [])
    (positive : ∀ number ∈ array, 0 < number) :
    (UnrepeatedLargest percent array → VotesForLargest percent array) ∧
      (PicksLargest percent array ↔ UnrepeatedLargest percent array) := by
  have picks := picksLargest_iff percent nonempty positive
  exact ⟨fun unrepeated => (picks.mpr unrepeated).votes, picks⟩

end TrimmedMean

namespace Sample

/-- Two close quotes and one far from them. -/
def closeQuotes : List ℚ := [1, 21 / 20, 3]

/-- A quote three sources agree on, and two quotes that are close to each
other. -/
def majorityQuotes : List ℚ := [1, 1, 1, 2, 21 / 10]

end Sample

open TrimmedMean in
/-- The close quotes are averaged. -/
theorem TrimmedMean.trimmedMean_largest_of_closeQuotes :
    VotesForLargest (1 / 5) Sample.closeQuotes := by
  have vote := trimmedMean_largest (1 / 5) Sample.closeQuotes (by decide)
    (by decide +kernel)
  apply vote.1
  refine ⟨(1, 0), by decide +kernel, ⟨?_, ?_⟩, by decide +kernel⟩
  · decide +kernel
  · decide +kernel

open TrimmedMean in
/-- The value of three sources out of five is outvoted by two. -/
theorem TrimmedMean.majority_outvoted :
    Sample.majorityQuotes.count 1 = 3 ∧
      trimmedMean (1 / 5) Sample.majorityQuotes = 41 / 20 ∧
      ¬VotesForLargest (1 / 5) Sample.majorityQuotes := by
  have collected : relatedNumbers (1 / 5) Sample.majorityQuotes =
      [[1], [1], [1], [2, 21 / 10], [21 / 10, 2]] := by
    decide +kernel
  have grouped : groups (1 / 5) Sample.majorityQuotes =
      [[1, 1, 1], [1, 1, 1], [1, 1, 1], [2, 21 / 10], [21 / 10, 2]] := by
    decide +kernel
  have value : trimmedMean (1 / 5) Sample.majorityQuotes = 41 / 20 := by
    obtain ⟨numbers, most, returned⟩ :=
      @trimmedMean_spec (1 / 5) Sample.majorityQuotes (by decide)
    rw [collected] at most
    obtain ⟨member, greatest⟩ := most
    have pair : 2 ≤ numbers.length := greatest [2, 21 / 10] (by simp)
    rw [returned]
    simp only [List.mem_cons, List.not_mem_nil, or_false] at member
    rcases member with rfl | rfl | rfl | rfl | rfl
    · simp at pair
    · simp at pair
    · simp at pair
    · decide +kernel
    · decide +kernel
  refine ⟨by decide +kernel, value, ?_⟩
  rintro ⟨numbers, ⟨member, greatest⟩, returned⟩
  rw [grouped] at member greatest
  have three : 3 ≤ numbers.length := greatest [1, 1, 1] (by simp)
  rw [value] at returned
  simp only [List.mem_cons, List.not_mem_nil, or_false] at member
  rcases member with rfl | rfl | rfl | rfl | rfl
  · revert returned
    decide +kernel
  · revert returned
    decide +kernel
  · revert returned
    decide +kernel
  · simp at three
  · simp at three

end Coinbend
