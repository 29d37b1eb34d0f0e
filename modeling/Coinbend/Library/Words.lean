import Mathlib.Data.List.Infix

/-!
# Words of a text

A text cut at every symbol of a class of separators.  The words of a suffix
are the last words of the text, but for the start of the first of them.
-/

namespace Words

variable {α : Type} {separates : α → Bool}

/-- The symbols of a word do not separate. -/
def Solid (separates : α → Bool) (word : List α) : Prop :=
  ∀ symbol ∈ word, separates symbol = false

@[simp] theorem solid_nil : Solid separates [] := by
  simp [Solid]

theorem Solid.append
    {first second : List α}
    (first_solid : Solid separates first)
    (second_solid : Solid separates second) :
    Solid separates (first ++ second) := by
  intro symbol member
  rcases List.mem_append.mp member with member | member
  · exact first_solid symbol member
  · exact second_solid symbol member

/-- A solid word in front of a separator is the first word. -/
theorem splitOnP_word
    {word : List α}
    (solid : Solid separates word)
    {separator : α}
    (separator_separates : separates separator = true)
    (text : List α) :
    (word ++ separator :: text).splitOnP separates =
      word :: text.splitOnP separates :=
  List.splitOnP_append_cons_of_forall_mem solid separator
    separator_separates text

/-- A solid text is one word. -/
theorem splitOnP_solid
    {word : List α}
    (solid : Solid separates word) :
    word.splitOnP separates = [word] :=
  List.splitOnP_eq_singleton solid

/-- A word of a text is solid and made of its symbols. -/
theorem solid_of_mem_splitOnP
    {text word : List α}
    (listed : word ∈ text.splitOnP separates) :
    Solid separates word ∧ word ⊆ text := by
  induction text generalizing word with
  | nil =>
      rw [List.splitOnP_nil, List.mem_singleton] at listed
      rw [listed]
      exact ⟨solid_nil, List.Subset.refl _⟩
  | cons symbol text hypothesis =>
      rw [List.splitOnP_cons_eq_if_modifyHead] at listed
      split at listed
      · rcases List.mem_cons.mp listed with rfl | later
        · exact ⟨solid_nil, List.nil_subset _⟩
        · exact (hypothesis later).imp_right (List.subset_cons_of_subset _)
      next inside =>
        obtain ⟨first, later, words⟩ :=
          List.exists_cons_of_ne_nil (List.splitOnP_ne_nil separates text)
        rw [words, List.modifyHead_cons, List.mem_cons] at listed
        rw [words] at hypothesis
        rcases listed with rfl | later_listed
        · obtain ⟨solid, subset⟩ := hypothesis List.mem_cons_self
          refine ⟨?_, List.cons_subset_cons _ subset⟩
          rw [Solid, List.forall_mem_cons]
          exact ⟨Bool.eq_false_iff.mpr inside, solid⟩
        · exact (hypothesis (List.mem_cons_of_mem _ later_listed)).imp_right
            (List.subset_cons_of_subset _)

/-- The words of a suffix are the last words of the text, the first of them
without its start. -/
theorem exists_words_of_suffix
    {here text : List α}
    (place : here <:+ text) :
    ∃ before start word later,
      here.splitOnP separates = word :: later ∧
        text.splitOnP separates = before ++ (start ++ word) :: later := by
  induction text with
  | nil =>
      obtain rfl := List.suffix_nil.mp place
      exact ⟨[], [], [], [], rfl, rfl⟩
  | cons symbol text hypothesis =>
      rcases List.suffix_cons_iff.mp place with rfl | place
      · obtain ⟨word, later, words⟩ :=
          List.exists_cons_of_ne_nil
            (List.splitOnP_ne_nil separates (symbol :: text))
        exact ⟨[], [], word, later, words, words⟩
      · obtain ⟨before, start, word, later, here_words, text_words⟩ :=
          hypothesis place
        rw [List.splitOnP_cons_eq_if_modifyHead, text_words]
        split_ifs with separator
        · exact ⟨[] :: before, start, word, later, here_words, rfl⟩
        · cases before with
          | nil =>
              exact ⟨[], symbol :: start, word, later, here_words, rfl⟩
          | cons first before =>
              exact ⟨(symbol :: first) :: before, start, word, later,
                here_words, rfl⟩

end Words
