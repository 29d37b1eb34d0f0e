import Coinbend.Exchange.TrimmedMean
import Mathlib.Algebra.Order.BigOperators.Group.List

/-!
# The order of the sources

The value `trimmed_mean` returns is the least average of a largest collection,
and neither the collections nor their averages depend on the order of the
quotes.  An average lies between the least and the greatest quote.
-/

namespace Coinbend

namespace TrimmedMean

/-- A quote with the quotes close to it, in the order of the array. -/
def collection (percent : ℚ) (array : List ℚ) (number : ℚ) : List ℚ :=
  number :: array.filter (related percent number)

theorem related_self (percent number : ℚ) :
    related percent number number = false := by
  simp [related]

/-- Leaving out the quote's own place changes nothing, as the test refuses
it. -/
theorem collect_eq_collection
    (percent : ℚ)
    {array : List ℚ}
    {entry : ℚ × Nat}
    (entry_mem : entry ∈ array.zipIdx) :
    collect (related percent) array entry =
      collection percent array entry.1 := by
  have elsewhere : (array.zipIdx.filter fun other =>
        other.2 ≠ entry.2 ∧ related percent entry.1 other.1) =
      array.zipIdx.filter (related percent entry.1 ∘ Prod.fst) := by
    apply List.filter_congr
    intro other other_mem
    rw [Function.comp_apply]
    cases test : related percent entry.1 other.1 with
    | false => simp
    | true =>
        have other_place : other.2 ≠ entry.2 := by
          intro same_place
          have at_other := List.mk_mem_zipIdx_iff_getElem?.mp other_mem
          have at_entry := List.mk_mem_zipIdx_iff_getElem?.mp entry_mem
          rw [same_place, at_entry, Option.some.injEq] at at_other
          rw [at_other, related_self] at test
          cases test
        simp [other_place]
  rw [collect, collection, elsewhere, ← List.filter_map, List.zipIdx_map_fst]

theorem relatedNumbers_eq (percent : ℚ) (array : List ℚ) :
    relatedNumbers percent array = array.map (collection percent array) := by
  have collected : relatedNumbers percent array =
      array.zipIdx.map (collection percent array ∘ Prod.fst) :=
    List.map_congr_left fun entry entry_mem =>
      collect_eq_collection percent entry_mem
  rw [collected, ← List.map_map, List.zipIdx_map_fst]

/-- The quotes with the most quotes close to them. -/
def Central (percent : ℚ) (array : List ℚ) (number : ℚ) : Prop :=
  number ∈ array ∧ ∀ other ∈ array,
    (collection percent array other).length ≤
      (collection percent array number).length

theorem largest_iff_central
    (percent : ℚ)
    (array numbers : List ℚ) :
    Largest (relatedNumbers percent array) numbers ↔
      ∃ number, Central percent array number ∧
        collection percent array number = numbers := by
  rw [relatedNumbers_eq, Largest]
  simp only [List.mem_map, forall_exists_index, and_imp,
    forall_apply_eq_imp_iff₂]
  constructor
  · rintro ⟨⟨number, member, rfl⟩, largest⟩
    exact ⟨number, ⟨member, largest⟩, rfl⟩
  · rintro ⟨number, ⟨member, largest⟩, rfl⟩
    exact ⟨⟨number, member, rfl⟩, largest⟩

/-- The value returned is the least average around a central quote. -/
theorem trimmedMean_isLeast
    (percent : ℚ)
    {array : List ℚ}
    (nonempty : array ≠ []) :
    IsLeast
      {avg | ∃ number, Central percent array number ∧
        average (collection percent array number) = avg}
      (trimmedMean percent array) := by
  obtain ⟨numbers, largest, returned⟩ := trimmedMean_spec percent nonempty
  obtain ⟨number, central, rfl⟩ :=
    (largest_iff_central percent array numbers).mp largest
  refine ⟨⟨number, central, returned.symm⟩, ?_⟩
  rintro _ ⟨other, other_central, rfl⟩
  have listed := (mem_highestMemberships_iff percent array _).mpr
    ((largest_iff_central percent array _).mpr ⟨other, other_central, rfl⟩)
  have averages := BubbleSort.sort_perm (fun avg : ℚ => avg)
    ((highestMemberships percent array).map average)
  cases head : (BubbleSort.sort (fun avg : ℚ => avg)
      ((highestMemberships percent array).map average)).head? with
  | none =>
      rw [List.head?_eq_none_iff] at head
      have empty := List.map_eq_nil_iff.mp (List.nil_perm.mp (head ▸ averages))
      rw [empty] at listed
      cases listed
  | some first =>
      rw [trimmedMean, head, Option.getD_some]
      exact (BubbleSort.head?_sort _ head).2 _ (List.mem_map_of_mem listed)

section Permuted

variable {array permuted : List ℚ} (perm : permuted.Perm array) (percent : ℚ)
include perm

theorem collection_perm (number : ℚ) :
    (collection percent permuted number).Perm
      (collection percent array number) :=
  (perm.filter _).cons number

theorem average_collection_of_perm (number : ℚ) :
    average (collection percent permuted number) =
      average (collection percent array number) := by
  have collected := collection_perm perm percent number
  rw [average, average, collected.sum_eq, collected.length_eq]

theorem central_iff_of_perm (number : ℚ) :
    Central percent permuted number ↔ Central percent array number := by
  simp only [Central, perm.mem_iff,
    (collection_perm perm percent _).length_eq]

/-- The value returned does not depend on the order. -/
theorem trimmedMean_eq_of_perm
    (nonempty : array ≠ []) :
    trimmedMean percent permuted = trimmedMean percent array := by
  have permuted_nonempty : permuted ≠ [] := by
    rintro rfl
    exact nonempty (List.nil_perm.mp perm)
  have least := trimmedMean_isLeast percent permuted_nonempty
  simp only [central_iff_of_perm perm percent,
    average_collection_of_perm perm percent] at least
  exact least.unique (trimmedMean_isLeast percent nonempty)

end Permuted

/-- An average of numbers within bounds is within them. -/
theorem average_bounds
    {numbers : List ℚ}
    {low high : ℚ}
    (nonempty : numbers ≠ [])
    (bounds : ∀ number ∈ numbers, low ≤ number ∧ number ≤ high) :
    low ≤ average numbers ∧ average numbers ≤ high := by
  have count : (0 : ℚ) < numbers.length :=
    Nat.cast_pos.mpr (List.length_pos_iff_ne_nil.mpr nonempty)
  have above := List.card_nsmul_le_sum numbers low fun number member =>
    (bounds number member).1
  have below := List.sum_le_card_nsmul numbers high fun number member =>
    (bounds number member).2
  rw [nsmul_eq_mul] at above below
  rw [average, le_div_iff₀ count, div_le_iff₀ count]
  exact ⟨by linarith, by linarith⟩

theorem mem_of_mem_collection
    {percent number other : ℚ}
    {array : List ℚ}
    (member : number ∈ array)
    (collected : other ∈ collection percent array number) :
    other ∈ array := by
  rcases List.mem_cons.mp collected with rfl | collected
  · exact member
  · exact List.mem_of_mem_filter collected

/-- The value returned is between the least and the greatest quote. -/
theorem trimmedMean_bounds
    (percent : ℚ)
    {array : List ℚ}
    {low high : ℚ}
    (nonempty : array ≠ [])
    (bounds : ∀ number ∈ array, low ≤ number ∧ number ≤ high) :
    low ≤ trimmedMean percent array ∧ trimmedMean percent array ≤ high := by
  obtain ⟨⟨number, ⟨member, -⟩, returned⟩, -⟩ :=
    trimmedMean_isLeast percent nonempty
  rw [← returned]
  exact average_bounds (List.cons_ne_nil _ _) fun other collected =>
    bounds other (mem_of_mem_collection member collected)

theorem exists_least_and_greatest
    {array : List ℚ}
    (nonempty : array ≠ []) :
    ∃ smallest ∈ array, ∃ largest ∈ array,
      ∀ number ∈ array, smallest ≤ number ∧ number ≤ largest := by
  have some_number := List.toFinset_nonempty_iff array |>.mpr nonempty
  obtain ⟨smallest, smallest_mem, least⟩ :=
    array.toFinset.exists_min_image id some_number
  obtain ⟨largest, largest_mem, greatest⟩ :=
    array.toFinset.exists_max_image id some_number
  refine ⟨smallest, List.mem_toFinset.mp smallest_mem, largest,
    List.mem_toFinset.mp largest_mem, fun number member => ?_⟩
  exact ⟨least number (List.mem_toFinset.mpr member),
    greatest number (List.mem_toFinset.mpr member)⟩

/-- The vote is the same for every order of the quotes, and lies between the
smallest and the largest one. -/
theorem trimmedMean_order
    (percent : ℚ)
    (array : List ℚ)
    (nonempty : array ≠ []) :
    (∀ permuted : List ℚ, permuted.Perm array →
        trimmedMean percent permuted = trimmedMean percent array) ∧
      ∃ smallest ∈ array, ∃ largest ∈ array,
        (∀ number ∈ array, smallest ≤ number ∧ number ≤ largest) ∧
        smallest ≤ trimmedMean percent array ∧
        trimmedMean percent array ≤ largest := by
  obtain ⟨smallest, smallest_mem, largest, largest_mem, bounds⟩ :=
    exists_least_and_greatest nonempty
  exact ⟨fun permuted perm => trimmedMean_eq_of_perm perm percent nonempty,
    smallest, smallest_mem, largest, largest_mem, bounds,
    trimmedMean_bounds percent nonempty bounds⟩

end TrimmedMean

open TrimmedMean in
/-- The quotes of five sources in another order give the same value. -/
theorem TrimmedMean.trimmedMean_order_of_majority :
    trimmedMean (1 / 5) Sample.majorityQuotes.reverse =
      trimmedMean (1 / 5) Sample.majorityQuotes :=
  (trimmedMean_order (1 / 5) Sample.majorityQuotes (by decide)).1 _
    (List.reverse_perm _)

end Coinbend
