import Mathlib.Data.List.Perm.Subperm

/-!
# Drawing without replacement

A number of random draws from a list, each of which removes what it draws.
Every draw takes its index from a sequence of numbers, cut to the length of
what is left.
-/

namespace Drawing

variable {α : Type} [DecidableEq α]

/-- What some draws from a list give. -/
def draws : Nat → (Nat → Nat) → List α → List α
  | 0, _, _ => []
  | number + 1, random, list =>
      match list[random 0 % list.length]? with
      | none => []
      | some drawn =>
          drawn :: draws number (fun draw => random (draw + 1))
            (list.erase drawn)

theorem draws_nil (number : Nat) (random : Nat → Nat) :
    draws number random ([] : List α) = [] := by
  cases number <;> rfl

omit [DecidableEq α] in
/-- A draw from a list that is not empty. -/
theorem exists_drawn
    (index : Nat)
    {list : List α}
    (nonempty : list ≠ []) :
    ∃ drawn ∈ list, list[index % list.length]? = some drawn := by
  have within : index % list.length < list.length :=
    Nat.mod_lt _ (List.length_pos_iff_ne_nil.mpr nonempty)
  exact ⟨list[index % list.length], List.getElem_mem within,
    List.getElem?_eq_getElem within⟩

/-- The draws and what is left of the list. -/
theorem exists_left (number : Nat) (random : Nat → Nat) (list : List α) :
    ∃ left, (draws number random list ++ left).Perm list := by
  induction number generalizing random list with
  | zero => exact ⟨list, List.Perm.refl list⟩
  | succ number inductionHypothesis =>
      rcases eq_or_ne list [] with rfl | nonempty
      · exact ⟨[], by rw [draws_nil, List.append_nil]⟩
      · obtain ⟨drawn, member, found⟩ := exists_drawn (random 0) nonempty
        obtain ⟨left, perm⟩ := inductionHypothesis
          (fun draw => random (draw + 1)) (list.erase drawn)
        refine ⟨left, ?_⟩
        rw [draws, found]
        exact (perm.cons drawn).trans (List.perm_cons_erase member).symm

/-- There are as many draws as asked for while the list lasts. -/
theorem length_draws (number : Nat) (random : Nat → Nat) (list : List α) :
    (draws number random list).length = min number list.length := by
  induction number generalizing random list with
  | zero => simp [draws]
  | succ number inductionHypothesis =>
      rcases eq_or_ne list [] with rfl | nonempty
      · simp [draws_nil]
      · obtain ⟨drawn, member, found⟩ := exists_drawn (random 0) nonempty
        have positive := List.length_pos_of_mem member
        rw [draws, found]
        simp only [List.length_cons, inductionHypothesis,
          List.length_erase_of_mem member]
        omega

theorem mem_of_mem_draws
    {number : Nat}
    {random : Nat → Nat}
    {list : List α}
    {drawn : α}
    (member : drawn ∈ draws number random list) :
    drawn ∈ list := by
  obtain ⟨left, perm⟩ := exists_left number random list
  exact perm.mem_iff.mp (List.mem_append_left _ member)

theorem nodup_draws
    (number : Nat)
    (random : Nat → Nat)
    {list : List α}
    (distinct : list.Nodup) :
    (draws number random list).Nodup := by
  obtain ⟨left, perm⟩ := exists_left number random list
  exact (List.nodup_append.mp (perm.nodup_iff.mpr distinct)).1

/-- Some draws take what passes a test before everything else. -/
theorem exists_draws_first
    (test : α → Bool)
    (number : Nat)
    (list : List α) :
    ∃ random, min number (list.countP test) ≤
      (draws number random list).countP test := by
  induction number generalizing list with
  | zero => exact ⟨fun _ => 0, by simp⟩
  | succ number inductionHypothesis =>
      by_cases some_passes : ∃ drawn ∈ list, test drawn = true
      · obtain ⟨drawn, member, passes⟩ := some_passes
        obtain ⟨index, within, found⟩ := List.getElem_of_mem member
        obtain ⟨random, enough⟩ := inductionHypothesis (list.erase drawn)
        change min number _ ≤
          (draws number (fun draw => random draw) _).countP test at enough
        have count := (List.perm_cons_erase member).countP_eq test
        rw [List.countP_cons_of_pos passes] at count
        refine ⟨fun draw => if draw = 0 then index else random (draw - 1), ?_⟩
        have first : list[index % list.length]? = some drawn := by
          rw [Nat.mod_eq_of_lt within, List.getElem?_eq_getElem within, found]
        rw [draws]
        simp only [if_true, first, List.countP_cons, passes, Nat.add_sub_cancel,
          Nat.add_eq_zero_iff, Nat.one_ne_zero, and_false, if_false]
        omega
      · have none_passes : list.countP test = 0 := by
          rw [List.countP_eq_zero]
          intro drawn member passes
          exact some_passes ⟨drawn, member, passes⟩
        exact ⟨fun _ => 0, by simp [none_passes]⟩

end Drawing
