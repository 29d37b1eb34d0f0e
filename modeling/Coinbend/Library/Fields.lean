import Mathlib.Data.List.Basic
import Mathlib.Data.List.Nodup

/-!
# Fields with repeated names

A list of named values in which a name may occur more than once.  Setting a
name replaces all of its values, or adds the name at the end.
-/

namespace Fields

variable {κ ν : Type} [DecidableEq κ]

/-- The values of a name, in order. -/
def values (fields : List (κ × ν)) (name : κ) : List ν :=
  (fields.filter fun field => field.1 = name).map Prod.snd

/-- The first value of a name. -/
def get? (fields : List (κ × ν)) (name : κ) : Option ν :=
  (fields.find? fun field => field.1 = name).map Prod.snd

def set (fields : List (κ × ν)) (name : κ) (value : ν) : List (κ × ν) :=
  if name ∈ fields.map Prod.fst then
    fields.map fun field => if field.1 = name then (name, value) else field
  else fields ++ [(name, value)]

/-- Set some names, one after another. -/
def setAll (fields edits : List (κ × ν)) : List (κ × ν) :=
  edits.foldl (fun fields edit => set fields edit.1 edit.2) fields

section

variable
  (fields : List (κ × ν))
  (name : κ)
  (value : ν)

theorem get?_eq_head? : get? fields name = (values fields name).head? := by
  rw [get?, values, List.head?_map, List.head?_filter]

theorem mem_values_iff :
    value ∈ values fields name ↔ (name, value) ∈ fields := by
  rw [values, List.mem_map]
  constructor
  · rintro ⟨field, listed, rfl⟩
    rw [List.mem_filter, decide_eq_true_eq] at listed
    obtain ⟨listed, rfl⟩ := listed
    exact listed
  · intro listed
    exact ⟨(name, value), List.mem_filter.mpr ⟨listed, by simp⟩, rfl⟩

theorem get?_eq_none_iff :
    get? fields name = none ↔ name ∉ fields.map Prod.fst := by
  rw [get?, Option.map_eq_none_iff, List.find?_eq_none, List.mem_map]
  constructor
  · rintro missing ⟨field, listed, rfl⟩
    exact missing field listed (by simp)
  · intro missing field listed same
    exact missing ⟨field, listed, of_decide_eq_true same⟩

theorem mem_of_get? {fields : List (κ × ν)} {name : κ} {value : ν}
    (found : get? fields name = some value) :
    (name, value) ∈ fields := by
  rw [get?_eq_head?] at found
  exact (mem_values_iff fields name value).mp (List.mem_of_head? found)

/-- What a filter leaves out is seen in the values of its name. -/
theorem values_filter_eq_iff
    {τ : Type}
    (entries : List τ)
    (field : τ → κ × ν)
    (name : κ)
    (keeps : τ → Bool) :
    values ((entries.filter keeps).map field) name =
        values (entries.map field) name ↔
      ∀ entry ∈ entries, (field entry).1 = name → keeps entry = true := by
  have named : ∀ entry,
      entry ∈ entries.filter (fun entry => (field entry).1 = name) ↔
        entry ∈ entries ∧ (field entry).1 = name := by
    intro entry
    rw [List.mem_filter, decide_eq_true_eq]
  rw [values, values, List.filter_map, List.filter_map, List.filter_comm]
  constructor
  · intro same entry listed own
    have length := congrArg List.length same
    rw [List.length_map, List.length_map, List.length_map, List.length_map]
      at length
    exact List.length_filter_eq_length_iff.mp length entry
      ((named entry).mpr ⟨listed, own⟩)
  · intro kept
    rw [List.filter_eq_self.mpr]
    intro entry listed
    exact kept entry ((named entry).mp listed).1 ((named entry).mp listed).2

theorem names_replace :
    (fields.map fun field =>
      if field.1 = name then (name, value) else field).map Prod.fst =
        fields.map Prod.fst := by
  rw [List.map_map]
  apply List.map_congr_left
  intro field _
  rw [Function.comp_apply]
  split
  next same => exact same.symm
  next => rfl

theorem mem_names_set (other : κ) :
    other ∈ (set fields name value).map Prod.fst ↔
      other = name ∨ other ∈ fields.map Prod.fst := by
  unfold set
  split
  next present =>
    rw [names_replace]
    constructor
    · exact Or.inr
    · rintro (rfl | listed)
      · exact present
      · exact listed
  next =>
    rw [List.map_append, List.mem_append, List.map_singleton,
      List.mem_singleton]
    exact Or.comm

theorem length_set :
    (set fields name value).length =
      if name ∈ fields.map Prod.fst then fields.length
      else fields.length + 1 := by
  unfold set
  split
  · rw [List.length_map]
  · rw [List.length_append, List.length_singleton]

theorem values_cons (field : κ × ν) :
    values (field :: fields) name =
      if field.1 = name then field.2 :: values fields name
      else values fields name := by
  rw [values, List.filter_cons]
  by_cases named : field.1 = name
  · rw [if_pos (decide_eq_true named), if_pos named]
    rfl
  · rw [if_neg (by simpa using named), if_neg named]
    rfl

theorem values_replace
    {other : κ}
    (different : other ≠ name) :
    values (fields.map fun field =>
      if field.1 = name then (name, value) else field) other =
        values fields other := by
  induction fields with
  | nil => rfl
  | cons field fields hypothesis =>
      rw [List.map_cons, values_cons, values_cons, hypothesis]
      by_cases named : field.1 = name
      · rw [if_pos named, if_neg different.symm, named, if_neg different.symm]
      · rw [if_neg named]

/-- The other names keep their values. -/
theorem values_set_of_ne
    {other : κ}
    (different : other ≠ name) :
    values (set fields name value) other = values fields other := by
  unfold set
  split
  next => exact values_replace fields name value different
  next =>
    rw [values, List.filter_append, List.map_append,
      List.filter_cons_of_neg (by simpa using different.symm),
      List.filter_nil, List.map_nil, List.append_nil, values]

/-- A set name has one value. -/
theorem eq_of_mem_set
    {found : ν}
    (listed : (name, found) ∈ set fields name value) :
    found = value := by
  unfold set at listed
  split at listed
  next =>
    obtain ⟨field, -, replaced⟩ := List.mem_map.mp listed
    split at replaced
    · exact (Prod.mk.inj replaced).2.symm
    next different =>
      rw [replaced] at different
      exact absurd rfl different
  next missing =>
    rcases List.mem_append.mp listed with before | new
    · exact absurd (List.mem_map_of_mem before) missing
    · exact (Prod.mk.inj (List.mem_singleton.mp new)).2

theorem set_eq_self
    (present : name ∈ fields.map Prod.fst)
    (same : ∀ found, (name, found) ∈ fields → found = value) :
    set fields name value = fields := by
  rw [set, if_pos present]
  conv_rhs => rw [← List.map_id fields]
  apply List.map_congr_left
  intro field listed
  split
  next named =>
    obtain ⟨_, found⟩ := field
    subst named
    rw [same found listed]
    rfl
  next => rfl

/-- What holds of the fields before and of the new one holds after. -/
theorem forall_mem_set
    {motive : κ × ν → Prop}
    {fields : List (κ × ν)}
    {name : κ}
    {value : ν}
    (before : ∀ field ∈ fields, motive field)
    (new : motive (name, value)) :
    ∀ field ∈ set fields name value, motive field := by
  intro field listed
  unfold set at listed
  split at listed
  next =>
    obtain ⟨old, old_listed, rfl⟩ := List.mem_map.mp listed
    split
    · exact new
    · exact before old old_listed
  next =>
    rcases List.mem_append.mp listed with old | added
    · exact before field old
    · rw [List.mem_singleton.mp added]
      exact new

end

/-! ## Several fields -/

section

variable
  {fields edits : List (κ × ν)}

theorem setAll_cons (edit : κ × ν) (edits : List (κ × ν)) :
    setAll fields (edit :: edits) =
      setAll (set fields edit.1 edit.2) edits := rfl

theorem mem_names_setAll (name : κ) :
    name ∈ (setAll fields edits).map Prod.fst ↔
      name ∈ edits.map Prod.fst ∨ name ∈ fields.map Prod.fst := by
  induction edits generalizing fields with
  | nil => simp [setAll]
  | cons edit edits hypothesis =>
      rw [setAll_cons, hypothesis, mem_names_set, List.map_cons,
        List.mem_cons]
      tauto

/-- The other names keep their values. -/
theorem values_setAll_of_notMem
    {name : κ}
    (untouched : name ∉ edits.map Prod.fst) :
    values (setAll fields edits) name = values fields name := by
  induction edits generalizing fields with
  | nil => rfl
  | cons edit edits hypothesis =>
      rw [List.map_cons, List.mem_cons, not_or] at untouched
      rw [setAll_cons, hypothesis untouched.2,
        values_set_of_ne _ _ _ untouched.1]

/-- A set name has one value. -/
theorem eq_of_mem_setAll
    (once : (edits.map Prod.fst).Nodup)
    {edit : κ × ν}
    (listed : edit ∈ edits)
    {found : ν}
    (found_listed : (edit.1, found) ∈ setAll fields edits) :
    found = edit.2 := by
  induction edits generalizing fields with
  | nil => cases listed
  | cons first edits hypothesis =>
      rw [List.map_cons, List.nodup_cons] at once
      rw [setAll_cons] at found_listed
      rcases List.mem_cons.mp listed with rfl | later
      · rw [← mem_values_iff, values_setAll_of_notMem once.1,
          mem_values_iff] at found_listed
        exact eq_of_mem_set _ _ _ found_listed
      · exact hypothesis once.2 later found_listed

theorem get?_setAll
    (once : (edits.map Prod.fst).Nodup)
    {edit : κ × ν}
    (listed : edit ∈ edits) :
    get? (setAll fields edits) edit.1 = some edit.2 := by
  cases found : get? (setAll fields edits) edit.1 with
  | none =>
      rw [get?_eq_none_iff, mem_names_setAll, not_or] at found
      exact absurd (List.mem_map_of_mem listed) found.1
  | some value =>
      rw [eq_of_mem_setAll once listed (mem_of_get? found)]

theorem length_le_setAll :
    fields.length ≤ (setAll fields edits).length := by
  induction edits generalizing fields with
  | nil => exact Nat.le_refl _
  | cons edit edits hypothesis =>
      have grown := length_set fields edit.1 edit.2
      refine Nat.le_trans ?_ hypothesis
      rw [grown]
      split <;> omega

/-- The fields grow exactly when a name is missing. -/
theorem length_setAll_eq_iff :
    (setAll fields edits).length = fields.length ↔
      ∀ edit ∈ edits, edit.1 ∈ fields.map Prod.fst := by
  induction edits generalizing fields with
  | nil => exact ⟨fun _ _ listed => (by cases listed), fun _ => rfl⟩
  | cons edit edits hypothesis =>
      have grown := length_set fields edit.1 edit.2
      rw [setAll_cons, List.forall_mem_cons]
      by_cases present : edit.1 ∈ fields.map Prod.fst
      · rw [if_pos present] at grown
        rw [← grown, hypothesis]
        have names : ∀ name, name ∈ (set fields edit.1 edit.2).map Prod.fst ↔
            name ∈ fields.map Prod.fst := by
          intro name
          rw [mem_names_set]
          exact ⟨fun either => either.elim (fun same => same ▸ present) id,
            Or.inr⟩
        simp only [names, present, true_and]
      · rw [if_neg present] at grown
        have later : (set fields edit.1 edit.2).length ≤
            (setAll (set fields edit.1 edit.2) edits).length :=
          length_le_setAll
        constructor
        · intro same
          omega
        · exact fun all => absurd all.1 present

theorem setAll_eq_self_iff
    (once : (edits.map Prod.fst).Nodup) :
    setAll fields edits = fields ↔
      ∀ edit ∈ edits, edit.1 ∈ fields.map Prod.fst ∧
        ∀ found, (edit.1, found) ∈ fields → found = edit.2 := by
  constructor
  · intro same edit listed
    constructor
    · rw [← same, mem_names_setAll]
      exact Or.inl (List.mem_map_of_mem listed)
    · intro found found_listed
      rw [← same] at found_listed
      exact eq_of_mem_setAll once listed found_listed
  · intro settled
    induction edits with
    | nil => rfl
    | cons edit edits hypothesis =>
        rw [List.map_cons, List.nodup_cons] at once
        rw [List.forall_mem_cons] at settled
        rw [setAll_cons, set_eq_self _ _ _ settled.1.1 settled.1.2]
        exact hypothesis once.2 settled.2

theorem forall_mem_setAll
    {motive : κ × ν → Prop}
    (before : ∀ field ∈ fields, motive field)
    (new : ∀ edit ∈ edits, motive edit) :
    ∀ field ∈ setAll fields edits, motive field := by
  induction edits generalizing fields with
  | nil => exact before
  | cons edit edits hypothesis =>
      rw [List.forall_mem_cons] at new
      exact hypothesis (forall_mem_set before new.1) new.2

end

end Fields
