import Mathlib.Data.List.Basic
import Mathlib.Data.List.Nodup

/-!
# Dictionaries in insertion order

A finite map kept as the list of its entries.  Storing under a key that is
present replaces its value in place; storing under a new key appends an entry.
-/

/-- A map from keys to values that remembers the order of its keys. -/
structure Dict (κ α : Type) where
  entries : List (κ × α)
  deriving DecidableEq

namespace Dict

variable {κ α : Type} [DecidableEq κ]

def empty : Dict κ α := ⟨[]⟩

instance : EmptyCollection (Dict κ α) := ⟨empty⟩

/-- The value stored under a key. -/
def get? (dict : Dict κ α) (key : κ) : Option α :=
  dict.entries.lookup key

/-- The keys in insertion order. -/
def keys (dict : Dict κ α) : List κ :=
  dict.entries.map Prod.fst

/-- The values in insertion order. -/
def values (dict : Dict κ α) : List α :=
  dict.entries.map Prod.snd

def size (dict : Dict κ α) : Nat :=
  dict.entries.length

/-- Whether a key is present. -/
def contains (dict : Dict κ α) (key : κ) : Bool :=
  (dict.get? key).isSome

/-- Store a value in an entry list. -/
def setEntry (key : κ) (value : α) : List (κ × α) → List (κ × α)
  | [] => [(key, value)]
  | entry :: entries =>
      if key = entry.1 then (key, value) :: entries
      else entry :: setEntry key value entries

-- The equations are made once here, before the proofs that use them.
attribute [local grind =] setEntry

/-- Store a value under a key. -/
def set (dict : Dict κ α) (key : κ) (value : α) : Dict κ α :=
  ⟨setEntry key value dict.entries⟩

/-- Remove a key. -/
def erase (dict : Dict κ α) (key : κ) : Dict κ α :=
  ⟨dict.entries.filter fun entry => entry.1 ≠ key⟩

@[simp] theorem get?_empty (key : κ) : (∅ : Dict κ α).get? key = none := rfl

/-- A value that is found is stored. -/
theorem mem_of_get?
    {dict : Dict κ α}
    {key : κ}
    {value : α}
    (found : dict.get? key = some value) :
    (key, value) ∈ dict.entries := by
  rw [get?, List.lookup_eq_some_iff] at found
  obtain ⟨before, after, split, _⟩ := found
  rw [split]
  exact List.mem_append_right _ List.mem_cons_self

/-- A key that is listed has a value. -/
theorem exists_get?_of_mem_keys
    (dict : Dict κ α)
    {key : κ}
    (mem : key ∈ dict.keys) :
    ∃ value, dict.get? key = some value := by
  rw [← Option.isSome_iff_exists, get?, List.lookup_isSome_iff]
  obtain ⟨entry, stored, rfl⟩ := List.mem_map.mp mem
  exact ⟨entry, stored, beq_self_eq_true _⟩

/-- A key that is not listed has no value. -/
theorem get?_eq_none_of_notMem
    {dict : Dict κ α}
    {key : κ}
    (missing : key ∉ dict.keys) :
    dict.get? key = none := by
  cases found : dict.get? key with
  | none => rfl
  | some value =>
      exact absurd (List.mem_map_of_mem (mem_of_get? found)) missing

theorem lookup_cons_eq_ite
    (key found : κ)
    (value : α)
    (entries : List (κ × α)) :
    ((key, value) :: entries).lookup found =
      if found = key then some value else entries.lookup found := by
  by_cases same : found = key
  · subst same
    rw [List.lookup_cons_self, if_pos rfl]
  · rw [List.lookup_cons, beq_eq_false_iff_ne.mpr same, if_neg same]

theorem lookup_setEntry
    (key found : κ)
    (value : α)
    (entries : List (κ × α)) :
    (setEntry key value entries).lookup found =
      if found = key then some value else entries.lookup found := by
  induction entries with
  | nil => exact lookup_cons_eq_ite key found value []
  | cons entry entries inductionHypothesis =>
      obtain ⟨entryKey, entryValue⟩ := entry
      rw [setEntry, lookup_cons_eq_ite]
      split
      next same =>
        subst same
        rw [lookup_cons_eq_ite]
        split <;> rfl
      next different =>
        rw [lookup_cons_eq_ite, inductionHypothesis]
        split
        next same =>
          subst same
          rw [if_neg (Ne.symm different)]
        · rfl

/-- Reading after a store. -/
theorem get?_set
    (dict : Dict κ α)
    (key found : κ)
    (value : α) :
    (dict.set key value).get? found =
      if found = key then some value else dict.get? found :=
  lookup_setEntry key found value dict.entries

@[simp] theorem get?_set_same (dict : Dict κ α) (key : κ) (value : α) :
    (dict.set key value).get? key = some value := by
  rw [get?_set, if_pos rfl]

theorem setEntry_of_lookup
    {key : κ}
    {value : α}
    {entries : List (κ × α)}
    (found : entries.lookup key = some value) :
    setEntry key value entries = entries := by
  induction entries with
  | nil => cases found
  | cons entry entries inductionHypothesis =>
      obtain ⟨entryKey, entryValue⟩ := entry
      rw [lookup_cons_eq_ite] at found
      unfold setEntry
      by_cases same : key = entryKey
      · subst same
        rw [if_pos rfl] at found ⊢
        cases found
        rfl
      · rw [if_neg same] at found ⊢
        rw [inductionHypothesis found]

/-- Storing what is stored already changes nothing. -/
theorem set_of_get?
    {dict : Dict κ α}
    {key : κ}
    {value : α}
    (found : dict.get? key = some value) :
    dict.set key value = dict := by
  rw [set, setEntry_of_lookup found]

theorem setEntry_of_lookup_none
    {key : κ}
    (value : α)
    {entries : List (κ × α)}
    (missing : entries.lookup key = none) :
    setEntry key value entries = entries ++ [(key, value)] := by
  induction entries with
  | nil => rfl
  | cons entry entries inductionHypothesis =>
      obtain ⟨entryKey, entryValue⟩ := entry
      rw [lookup_cons_eq_ite] at missing
      unfold setEntry
      by_cases same : key = entryKey
      · rw [if_pos same] at missing
        cases missing
      · rw [if_neg same] at missing ⊢
        rw [inductionHypothesis missing]
        rfl

/-- Storing under a new key appends an entry. -/
theorem entries_set_of_new
    {dict : Dict κ α}
    {key : κ}
    (value : α)
    (missing : dict.get? key = none) :
    (dict.set key value).entries = dict.entries ++ [(key, value)] :=
  setEntry_of_lookup_none value missing

theorem get?_set_of_ne
    (dict : Dict κ α)
    {key found : κ}
    (value : α)
    (different : found ≠ key) :
    (dict.set key value).get? found = dict.get? found := by
  rw [get?_set, if_neg different]

theorem mem_setEntry
    {key : κ}
    {value : α}
    {entries : List (κ × α)}
    {entry : κ × α}
    (stored : entry ∈ setEntry key value entries) :
    entry = (key, value) ∨ entry ∈ entries := by
  induction entries with
  | nil =>
      rw [setEntry, List.mem_singleton] at stored
      exact Or.inl stored
  | cons first entries inductionHypothesis =>
      rw [setEntry] at stored
      split at stored
      · rcases List.mem_cons.mp stored with same | old
        · exact Or.inl same
        · exact Or.inr (List.mem_cons_of_mem _ old)
      · rcases List.mem_cons.mp stored with same | later
        · exact Or.inr (same ▸ List.mem_cons_self)
        · rcases inductionHypothesis later with new | old
          · exact Or.inl new
          · exact Or.inr (List.mem_cons_of_mem _ old)

/-- A value after a store is the stored one or an old one. -/
theorem mem_values_set
    {dict : Dict κ α}
    {key : κ}
    {value found : α}
    (stored : found ∈ (dict.set key value).values) :
    found = value ∨ found ∈ dict.values := by
  obtain ⟨entry, isEntry, rfl⟩ := List.mem_map.mp stored
  rcases mem_setEntry isEntry with rfl | old
  · exact Or.inl rfl
  · exact Or.inr (List.mem_map_of_mem old)

theorem nodup_keys_setEntry
    (key : κ)
    (value : α)
    {entries : List (κ × α)}
    (distinct : (entries.map Prod.fst).Nodup) :
    ((setEntry key value entries).map Prod.fst).Nodup := by
  induction entries with
  | nil => simp [setEntry]
  | cons first entries inductionHypothesis =>
      rw [List.map_cons, List.nodup_cons] at distinct
      obtain ⟨new, distinct⟩ := distinct
      rw [setEntry]
      split
      next same =>
        subst same
        rw [List.map_cons, List.nodup_cons]
        exact ⟨new, distinct⟩
      next different =>
        rw [List.map_cons, List.nodup_cons]
        refine ⟨?_, inductionHypothesis distinct⟩
        intro stored
        obtain ⟨entry, isEntry, sameKey⟩ := List.mem_map.mp stored
        rcases mem_setEntry isEntry with rfl | old
        · exact different sameKey
        · exact new (sameKey ▸ List.mem_map_of_mem old)

/-- Storing a value keeps the keys distinct. -/
theorem nodup_keys_set
    {dict : Dict κ α}
    (distinct : dict.keys.Nodup)
    (key : κ)
    (value : α) :
    (dict.set key value).keys.Nodup :=
  nodup_keys_setEntry key value distinct

theorem mem_keys_of_get?
    {dict : Dict κ α}
    {key : κ}
    {value : α}
    (found : dict.get? key = some value) :
    key ∈ dict.keys :=
  List.mem_map_of_mem (mem_of_get? found)

@[simp] theorem contains_iff_mem_keys (dict : Dict κ α) (key : κ) :
    dict.contains key = true ↔ key ∈ dict.keys := by
  rw [contains, Option.isSome_iff_exists]
  constructor
  · rintro ⟨value, found⟩
    exact mem_keys_of_get? found
  · exact exists_get?_of_mem_keys dict

@[simp] theorem contains_eq_false_iff (dict : Dict κ α) (key : κ) :
    dict.contains key = false ↔ key ∉ dict.keys := by
  rw [← contains_iff_mem_keys, Bool.not_eq_true]

/-- Distinct keys make every entry the one that is found. -/
theorem get?_of_mem
    {dict : Dict κ α}
    (distinct : dict.keys.Nodup)
    {key : κ}
    {value : α}
    (stored : (key, value) ∈ dict.entries) :
    dict.get? key = some value := by
  obtain ⟨found, found_eq⟩ :=
    exists_get?_of_mem_keys dict (List.mem_map_of_mem stored)
  have same : (key, value) = (key, found) :=
    List.inj_on_of_nodup_map distinct stored (mem_of_get? found_eq) rfl
  rw [found_eq, (Prod.mk.inj same).2]

theorem mem_keys_set (dict : Dict κ α) (key : κ) (value : α) {found : κ} :
    found ∈ (dict.set key value).keys ↔ found = key ∨ found ∈ dict.keys := by
  rw [← contains_iff_mem_keys, ← contains_iff_mem_keys, contains, contains,
    get?_set]
  split <;> simp_all

theorem mem_entries_erase {dict : Dict κ α} {key : κ} {entry : κ × α} :
    entry ∈ (dict.erase key).entries ↔ entry ∈ dict.entries ∧ entry.1 ≠ key := by
  rw [erase, List.mem_filter, decide_eq_true_eq]

theorem mem_keys_erase {dict : Dict κ α} {key found : κ} :
    found ∈ (dict.erase key).keys ↔ found ∈ dict.keys ∧ found ≠ key := by
  simp only [keys, List.mem_map, mem_entries_erase]
  constructor
  · rintro ⟨entry, ⟨stored, other⟩, rfl⟩
    exact ⟨⟨entry, stored, rfl⟩, other⟩
  · rintro ⟨⟨entry, stored, rfl⟩, other⟩
    exact ⟨entry, ⟨stored, other⟩, rfl⟩

/-- Erasing keeps the keys distinct. -/
theorem nodup_keys_erase
    {dict : Dict κ α}
    (distinct : dict.keys.Nodup)
    (key : κ) :
    (dict.erase key).keys.Nodup :=
  distinct.sublist (List.filter_sublist.map _)

theorem get?_erase (dict : Dict κ α) (key found : κ) :
    (dict.erase key).get? found =
      if found = key then none else dict.get? found := by
  simp only [get?, erase]
  induction dict.entries with
  | nil => simp
  | cons entry entries inductionHypothesis =>
      obtain ⟨entryKey, value⟩ := entry
      rw [List.filter_cons, lookup_cons_eq_ite]
      split
      next kept =>
        rw [lookup_cons_eq_ite, inductionHypothesis]
        grind
      next gone =>
        rw [inductionHypothesis]
        grind

/-- Storing under a key that is present keeps the keys in place. -/
theorem keys_set_of_get?
    {dict : Dict κ α}
    {key : κ}
    {old : α}
    (found : dict.get? key = some old)
    (value : α) :
    (dict.set key value).keys = dict.keys := by
  obtain ⟨entries⟩ := dict
  unfold get? at found
  simp only [keys, set]
  induction entries with
  | nil => cases found
  | cons entry entries inductionHypothesis =>
      obtain ⟨entryKey, entryValue⟩ := entry
      rw [lookup_cons_eq_ite] at found
      unfold setEntry
      by_cases same : key = entryKey
      · rw [if_pos same, List.map_cons, List.map_cons, same]
      · rw [if_neg same] at found ⊢
        rw [List.map_cons, List.map_cons, inductionHypothesis found]

/-- What is asked of all values can be decided by going over the keys. -/
instance decidableForallGet?
    {P : κ → α → Prop}
    [∀ key value, Decidable (P key value)]
    (dict : Dict κ α) :
    Decidable (∀ key value, dict.get? key = some value → P key value) :=
  decidable_of_iff (∀ key ∈ dict.keys, ∀ value ∈ dict.get? key, P key value)
    ⟨fun all key value found => all key (mem_keys_of_get? found) value found,
      fun all key _ value found => all key value found⟩

end Dict
