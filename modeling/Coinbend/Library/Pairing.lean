import Mathlib.Logic.Function.Basic

/-!
# Mutual links

Links between keys, each with a label.  They are mutual when every link is
answered by one back with the same label.  Joining two keys keeps that exactly
when neither of them is linked to a third one.
-/

namespace Pairing

variable {κ β : Type}

/-- Every link is answered by a link back. -/
def Mutual (links : κ → Option (κ × β)) : Prop :=
  ∀ first second label,
    links first = some (second, label) ↔ links second = some (first, label)

/-- One direction is enough. -/
theorem mutual_of_answered
    {links : κ → Option (κ × β)}
    (answered : ∀ first second label,
      links first = some (second, label) →
        links second = some (first, label)) :
    Mutual links := by
  intro first second label
  exact ⟨answered first second label, answered second first label⟩

theorem mutual_none : Mutual (fun _ : κ => (none : Option (κ × β))) := by
  intro first second label
  exact ⟨nofun, nofun⟩

/-- The key is linked to one of two keys, if at all. -/
def OnlyTo
    (links : κ → Option (κ × β))
    (key first second : κ) : Prop :=
  ∀ link ∈ links key, link.1 = first ∨ link.1 = second

instance [DecidableEq κ]
    (links : κ → Option (κ × β))
    (key first second : κ) :
    Decidable (OnlyTo links key first second) :=
  inferInstanceAs (Decidable
    (∀ link ∈ links key, link.1 = first ∨ link.1 = second))

variable [DecidableEq κ]

/-- Link two keys with each other. -/
def join
    (links : κ → Option (κ × β))
    (first second : κ)
    (label : β) : κ → Option (κ × β) :=
  Function.update (Function.update links first (some (second, label))) second
    (some (first, label))

theorem join_second
    (links : κ → Option (κ × β))
    (first second : κ)
    (label : β) :
    join links first second label second = some (first, label) :=
  Function.update_self ..

theorem join_first
    (links : κ → Option (κ × β))
    (first second : κ)
    (label : β) :
    join links first second label first = some (second, label) := by
  by_cases same : first = second
  · subst same
    exact join_second links first first label
  · rw [join, Function.update_of_ne same, Function.update_self]

theorem join_of_ne
    (links : κ → Option (κ × β))
    {first second other : κ}
    (label : β)
    (ne_first : other ≠ first)
    (ne_second : other ≠ second) :
    join links first second label other = links other := by
  rw [join, Function.update_of_ne ne_second, Function.update_of_ne ne_first]

/-- Joining two keys that are linked to no third one keeps links mutual. -/
theorem mutual_join
    {links : κ → Option (κ × β)}
    {first second : κ}
    (isMutual : Mutual links)
    (label : β)
    (firstOnly : OnlyTo links first first second)
    (secondOnly : OnlyTo links second first second) :
    Mutual (join links first second label) := by
  apply mutual_of_answered
  intro key other found linked
  by_cases is_second : key = second
  · subst is_second
    rw [join_second, Option.some.injEq, Prod.mk.injEq] at linked
    obtain ⟨rfl, rfl⟩ := linked
    exact join_first links first key label
  by_cases is_first : key = first
  · subst is_first
    rw [join_first, Option.some.injEq, Prod.mk.injEq] at linked
    obtain ⟨rfl, rfl⟩ := linked
    exact join_second links key second label
  rw [join_of_ne links label is_first is_second] at linked
  have back := (isMutual key other found).mp linked
  -- A joined key has no link to this one.
  have ne_first : other ≠ first := by
    rintro rfl
    exact (firstOnly _ back).elim is_first is_second
  have ne_second : other ≠ second := by
    rintro rfl
    exact (secondOnly _ back).elim is_first is_second
  rw [join_of_ne links label ne_first ne_second]
  exact back

end Pairing
