import Coinbend.Currency.Text
import Coinbend.Library.Drawing
import Coinbend.Library.Raising
import Mathlib.Data.List.GetD
import Mathlib.Data.List.Perm.Basic

/-!
# Generated passwords

`PasswordComplexity` of `password_complexity.py`.  A password is generated from
the requirements in random order, over and over, and checked against each of
them.  The constructor compares the requirements with themselves, and the check
of two of them also looks the password up in a dictionary.
-/

namespace Coinbend

/-- A policy that the constructor accepts. -/
structure PasswordComplexity where
  requirements : List String
  length : ℕ
  requirements_ne : requirements ≠ []
  length_le : requirements.length ≤ length

namespace PasswordComplexity

def uppercase : Text := "ABCDEFGHIJKLMNOPQRSTUVWXYZ".toList

def lowercase : Text := "abcdefghijklmnopqrstuvwxyz".toList

def writtenCharsets : List (String × Text) :=
  [("uppercase", uppercase),
   ("lowercase", lowercase),
   ("whitespace", "\t\r\n ".toList),
   ("numeric", "0123456789".toList),
   ("minus", "-".toList),
   ("underscore", "_".toList),
   ("special", "~!@#$%^&*()+[\x7b]\x7d\\|;:'\",<.>/?".toList),
   ("custom", [])]

/-- `self.charsets`; "anything" joins the names of the other ones. -/
def charsets : List (String × Text) :=
  writtenCharsets ++
    [("anything", writtenCharsets.flatMap fun charset => charset.1.toList)]

/-- The constructor. -/
def init
    (requirements : List String)
    (length : ℤ) : Except PyError PasswordComplexity :=
  if requirements.any fun requirement => !requirements.contains requirement then
    .error (.exception "Invalid requirement.")
  else if empty : requirements = [] then
    .error (.exception "This class expects complexity requirements.")
  else if short : length < requirements.length then
    .error (.exception ("Requirements cannot be met with the specified " ++
      "string length. Length needs to be at least " ++
      toString requirements.length ++ " long."))
  else .ok ⟨requirements, length.toNat, empty, by omega⟩

/-- `list[random.randrange(0, len(list))]`. -/
def choose {α : Type} (random : ℕ) (list : List α) : Except PyError α :=
  match list[random % list.length]? with
  | some chosen => .ok chosen
  | none => .error .valueError

def charsetOf (requirement : String) : Except PyError Text :=
  match charsets.lookup requirement with
  | some charset => .ok charset
  | none => .error .keyError

/-- The loop of `generate_password` from a buffer of requirements, with two
random choices for each character. -/
def nextChars (requirements : List String) :
    List (ℕ × ℕ) → List String → Except PyError Text
  | [], _ => .ok []
  | random :: choices, buffer => do
      let buffer := if buffer = [] then requirements else buffer
      let requirement ← choose random.1 buffer
      let charset ← charsetOf requirement
      let char ← choose random.2 charset
      let password ← nextChars requirements choices (buffer.erase requirement)
      return char :: password

def generatePassword
    (pc : PasswordComplexity)
    (random : ℕ → ℕ × ℕ) : Except PyError Text :=
  nextChars pc.requirements ((List.range pc.length).map random)
    pc.requirements

/-- What a requirement adds to `not_met`. -/
def unmet (password : Text) (requirement : String) :
    Except PyError (List String) :=
  let msg := "At least one " ++ requirement ++ " character" ++
    " was not found in password."
  if password = [] then .ok [msg]
  else do
    let charset ← charsetOf requirement
    return if password.any charset.contains then [] else [msg]

def notMet (password : Text) : List String → Except PyError (List String)
  | [] => .ok []
  | requirement :: requirements => do
      let first ← unmet password requirement
      let later ← notMet password requirements
      return first ++ later

/-- `dictionary_attack` with the stripped words of the word lists. -/
def dictionaryAttack (words : List Text) (password : Text) : Bool :=
  words.contains (password.map Char.toLower)

/-- The check looks the password up. -/
def LooksUp (requirements : List String) : Prop :=
  requirements.length = 2 ∧ "uppercase" ∈ requirements ∧
    "lowercase" ∈ requirements

instance (requirements : List String) : Decidable (LooksUp requirements) :=
  inferInstanceAs (Decidable (_ ∧ _))

def checkComplexity
    (words : List Text)
    (pc : PasswordComplexity)
    (password : Text) : Except PyError (List String) :=
  if pc.requirements.head? = some "anything" then .ok []
  else do
    let found ← notMet password pc.requirements
    let short := if password.length < pc.length then
      ["Password was not at least " ++ toString pc.length ++
        " characters long."] else []
    let word := if LooksUp pc.requirements ∧
      dictionaryAttack words password = true then
        ["Password is a dictionary word!"] else []
    return found ++ short ++ word

def isValid
    (words : List Text)
    (pc : PasswordComplexity)
    (password : Text) : Except PyError Bool := do
  let notMet ← checkComplexity words pc password
  return notMet.isEmpty

/-- The password that some random choices give meets its policy. -/
def MeetsPolicy
    (words : List Text)
    (pc : PasswordComplexity)
    (random : ℕ → ℕ × ℕ) : Prop :=
  ∃ password,
    generatePassword pc random = .ok password ∧
      password.length = pc.length ∧
      checkComplexity words pc password = .ok []

/-! ## Charsets -/

/-- The requirements with a character. -/
def usable : List String :=
  ["anything", "uppercase", "lowercase", "whitespace", "numeric", "minus",
   "underscore", "special"]

/-- The characters that meet a requirement. -/
def Belongs (char : Char) (requirement : String) : Prop :=
  ∃ charset, charsetOf requirement = .ok charset ∧ char ∈ charset

theorem exists_char_of_usable :
    ∀ requirement ∈ usable, (charsets.lookup requirement).getD [] ≠ [] := by
  decide

theorem charsetOf_usable
    {requirement : String}
    (known : requirement ∈ usable) :
    ∃ charset, charsetOf requirement = .ok charset ∧ charset ≠ [] := by
  have nonempty := exists_char_of_usable requirement known
  unfold charsetOf
  cases found : charsets.lookup requirement with
  | none =>
      rw [found] at nonempty
      exact absurd rfl nonempty
  | some charset =>
      rw [found] at nonempty
      exact ⟨charset, rfl, nonempty⟩

theorem name_usable :
    ∀ name ∈ charsets.map Prod.fst, name ∈ "custom" :: usable := by
  decide

/-- The other requirements have no charset or an empty one. -/
theorem charsetOf_not_usable
    {requirement : String}
    (unusable : requirement ∉ usable) :
    charsetOf requirement = .error .keyError ∨
      charsetOf requirement = .ok [] := by
  by_cases custom : requirement = "custom"
  · rw [custom]
    exact Or.inr rfl
  · left
    have missing : charsets.lookup requirement = none := by
      rw [List.lookup_eq_none_iff]
      intro charset listed
      rw [bne_iff_ne]
      rintro rfl
      rcases List.mem_cons.mp
        (name_usable charset.1 (List.mem_map_of_mem listed)) with same | known
      · exact custom same
      · exact unusable known
    rw [charsetOf, missing]

theorem choose_mem
    {α : Type}
    (random : ℕ)
    {list : List α}
    (nonempty : list ≠ []) :
    ∃ chosen ∈ list, choose random list = .ok chosen := by
  obtain ⟨chosen, listed, found⟩ := Drawing.exists_drawn random nonempty
  refine ⟨chosen, listed, ?_⟩
  rw [choose, found]

/-! ## Generating -/

/-- What the loop makes of some choices from a buffer. -/
structure Generated
    (requirements : List String)
    (choices : List (ℕ × ℕ))
    (buffer : List String)
    (password : Text) : Prop where
  length_eq : password.length = choices.length
  belongs : ∀ char ∈ password, ∃ requirement ∈ requirements,
    Belongs char requirement
  covers : buffer.length ≤ choices.length →
    ∀ requirement ∈ buffer, ∃ char ∈ password, Belongs char requirement

/-- The buffer that the loop draws from. -/
theorem exists_full
    {requirements buffer : List String}
    (nonempty : requirements ≠ [])
    (subset : buffer ⊆ requirements) :
    ∃ full, (if buffer = [] then requirements else buffer) = full ∧
      full ⊆ requirements ∧ full ≠ [] ∧ (buffer ≠ [] → buffer = full) := by
  by_cases empty : buffer = []
  · exact ⟨requirements, if_pos empty, List.Subset.refl _, nonempty,
      fun some_left => absurd empty some_left⟩
  · exact ⟨buffer, if_neg empty, subset, empty, fun _ => rfl⟩

/-- The loop empties the buffer before it takes a requirement again. -/
theorem nextChars_generated
    {requirements : List String}
    (known : ∀ requirement ∈ requirements, requirement ∈ usable)
    (nonempty : requirements ≠ [])
    (choices : List (ℕ × ℕ))
    {buffer : List String}
    (subset : buffer ⊆ requirements) :
    ∃ password, nextChars requirements choices buffer = .ok password ∧
      Generated requirements choices buffer password := by
  induction choices generalizing buffer with
  | nil =>
      refine ⟨[], rfl, rfl, fun _ listed => ?_, fun short requirement listed => ?_⟩
      · cases listed
      · rw [List.length_nil, Nat.le_zero, List.length_eq_zero_iff] at short
        rw [short] at listed
        cases listed
  | cons random choices hypothesis =>
      rw [nextChars]
      obtain ⟨full, full_eq, full_subset, full_ne, buffer_full⟩ :=
        exists_full nonempty subset
      obtain ⟨requirement, listed, chosen⟩ := choose_mem random.1 full_ne
      obtain ⟨charset, found, charset_ne⟩ :=
        charsetOf_usable (known requirement (full_subset listed))
      obtain ⟨char, char_mem, char_chosen⟩ := choose_mem random.2 charset_ne
      obtain ⟨password, generated, spec⟩ :=
        hypothesis (List.Subset.trans (List.erase_subset (a := requirement))
          full_subset)
      have belongs : Belongs char requirement := ⟨charset, found, char_mem⟩
      refine ⟨char :: password, ?_, ?_, ?_, ?_⟩
      · simp only [full_eq, chosen, found, char_chosen, generated,
          Except.ok_bind]
        rfl
      · rw [List.length_cons, List.length_cons, spec.length_eq]
      · rw [List.forall_mem_cons]
        exact ⟨⟨requirement, full_subset listed, belongs⟩, spec.belongs⟩
      · intro long other other_listed
        obtain rfl := buffer_full (List.ne_nil_of_mem other_listed)
        by_cases same : other = requirement
        · exact ⟨char, List.mem_cons_self, same ▸ belongs⟩
        · have left : other ∈ buffer.erase requirement :=
            (List.mem_erase_of_ne same).mpr other_listed
          have left_length : (buffer.erase requirement).length ≤
              choices.length := by
            rw [List.length_erase_of_mem listed]
            rw [List.length_cons] at long
            omega
          obtain ⟨later, later_mem, later_belongs⟩ :=
            spec.covers left_length other left
          exact ⟨later, List.mem_cons_of_mem _ later_mem, later_belongs⟩

/-- A generated password has a character for each requirement. -/
theorem generatePassword_generated
    {pc : PasswordComplexity}
    (known : ∀ requirement ∈ pc.requirements, requirement ∈ usable)
    (random : ℕ → ℕ × ℕ) :
    ∃ password, generatePassword pc random = .ok password ∧
      password.length = pc.length ∧
      (∀ char ∈ password, ∃ requirement ∈ pc.requirements,
        Belongs char requirement) ∧
      ∀ requirement ∈ pc.requirements,
        ∃ char ∈ password, Belongs char requirement := by
  obtain ⟨password, generated, spec⟩ :=
    nextChars_generated known pc.requirements_ne
      ((List.range pc.length).map random) (List.Subset.refl pc.requirements)
  have choices_length : ((List.range pc.length).map random).length =
      pc.length := by
    rw [List.length_map, List.length_range]
  refine ⟨password, generated, spec.length_eq.trans choices_length,
    spec.belongs, spec.covers ?_⟩
  rw [choices_length]
  exact pc.length_le

/-! ## Checking -/

theorem unmet_of_belongs
    {password : Text}
    {char : Char}
    (listed : char ∈ password)
    {requirement : String}
    (belongs : Belongs char requirement) :
    unmet password requirement = .ok [] := by
  obtain ⟨charset, found, member⟩ := belongs
  have some_char : password.any charset.contains = true :=
    List.any_eq_true.mpr ⟨char, listed, List.contains_iff_mem.mpr member⟩
  unfold unmet
  rw [if_neg (List.ne_nil_of_mem listed), found, Except.ok_bind, if_pos some_char]
  rfl

theorem notMet_of_belongs
    {password : Text}
    {requirements : List String}
    (covered : ∀ requirement ∈ requirements,
      ∃ char ∈ password, Belongs char requirement) :
    notMet password requirements = .ok [] := by
  induction requirements with
  | nil => rfl
  | cons requirement requirements hypothesis =>
      rw [List.forall_mem_cons] at covered
      obtain ⟨⟨char, listed, belongs⟩, later⟩ := covered
      rw [notMet, unmet_of_belongs listed belongs, Except.ok_bind,
        hypothesis later]
      rfl

theorem exists_notMet
    (password : Text)
    {requirements : List String}
    (known : ∀ requirement ∈ requirements, requirement ∈ usable) :
    ∃ found, notMet password requirements = .ok found := by
  induction requirements with
  | nil => exact ⟨[], rfl⟩
  | cons requirement requirements hypothesis =>
      rw [List.forall_mem_cons] at known
      obtain ⟨charset, charset_eq, -⟩ := charsetOf_usable known.1
      obtain ⟨later, later_eq⟩ := hypothesis known.2
      have first_eq : ∃ first, unmet password requirement = .ok first := by
        unfold unmet
        by_cases empty : password = []
        · exact ⟨_, if_pos empty⟩
        · rw [if_neg empty, charset_eq]
          exact ⟨_, rfl⟩
      obtain ⟨first, first_eq⟩ := first_eq
      rw [notMet, first_eq, later_eq]
      exact ⟨_, rfl⟩

/-- A policy of requirements with characters can be checked. -/
theorem exists_isValid
    (words : List Text)
    {pc : PasswordComplexity}
    (known : ∀ requirement ∈ pc.requirements, requirement ∈ usable)
    (password : Text) :
    ∃ valid, isValid words pc password = .ok valid := by
  obtain ⟨found, found_eq⟩ := exists_notMet password known
  unfold isValid checkComplexity
  split
  · exact ⟨_, rfl⟩
  · rw [found_eq]
    exact ⟨_, rfl⟩

/-- Only two requirements look the password up. -/
theorem LooksUp.eq_or_eq
    {requirements : List String}
    (looksUp : LooksUp requirements) :
    requirements = ["uppercase", "lowercase"] ∨
      requirements = ["lowercase", "uppercase"] := by
  obtain ⟨length, upper, lower⟩ := looksUp
  obtain ⟨first, second, rfl⟩ := List.length_eq_two.mp length
  rw [List.mem_pair] at upper lower
  rcases upper with rfl | rfl
  · rcases lower with impossible | rfl
    · exact absurd impossible (by decide)
    · exact Or.inl rfl
  · rcases lower with rfl | impossible
    · exact Or.inr rfl
    · exact absurd impossible (by decide)

theorem LooksUp.letters
    {requirements : List String}
    (looksUp : LooksUp requirements)
    {requirement : String}
    (listed : requirement ∈ requirements) :
    requirement = "uppercase" ∨ requirement = "lowercase" := by
  rcases looksUp.eq_or_eq with rfl | rfl
  · exact List.mem_pair.mp listed
  · exact (List.mem_pair.mp listed).symm

theorem LooksUp.head?_ne
    {requirements : List String}
    (looksUp : LooksUp requirements) :
    requirements.head? ≠ some "anything" := by
  rcases looksUp.eq_or_eq with rfl | rfl <;> decide

/-- A password that covers the requirements is only checked for words. -/
theorem checkComplexity_eq_nil_iff
    (words : List Text)
    {pc : PasswordComplexity}
    {password : Text}
    (length_eq : password.length = pc.length)
    (covered : ∀ requirement ∈ pc.requirements,
      ∃ char ∈ password, Belongs char requirement) :
    checkComplexity words pc password = .ok [] ↔
      ¬(LooksUp pc.requirements ∧ dictionaryAttack words password = true) := by
  unfold checkComplexity
  split
  next anything =>
    exact ⟨fun _ attacked => attacked.1.head?_ne anything, fun _ => rfl⟩
  next =>
    rw [notMet_of_belongs covered, Except.ok_bind]
    simp only [length_eq, lt_irrefl, if_false, List.append_nil,
      List.nil_append]
    split
    next attacked =>
      exact ⟨fun impossible => (by cases impossible),
        fun safe => absurd attacked safe⟩
    next safe => exact ⟨fun _ => safe, fun _ => rfl⟩

/-! ## Words -/

/-- A password of letters can be a word of the dictionary. -/
def HasWord (words : List Text) (length : ℕ) : Prop :=
  ∃ word ∈ words, word.length = length ∧ ∀ char ∈ word, char ∈ lowercase

theorem toLower_letters :
    ((uppercase ++ lowercase).all fun char =>
      lowercase.contains char.toLower) = true := by
  decide

theorem toLower_mem
    {char : Char}
    {requirement : String}
    (letters : requirement = "uppercase" ∨ requirement = "lowercase")
    (belongs : Belongs char requirement) :
    char.toLower ∈ lowercase := by
  have listed : char ∈ uppercase ++ lowercase := by
    obtain ⟨charset, found, member⟩ := belongs
    rcases letters with rfl | rfl
    · cases found
      exact List.mem_append_left _ member
    · cases found
      exact List.mem_append_right _ member
  exact List.contains_iff_mem.mp
    (List.all_eq_true.mp toLower_letters char listed)

/-- The letter at a place of either charset is the same but for its case. -/
theorem choose_letter :
    ∀ place < 26,
      (uppercase.getD (place % uppercase.length) 'x').toLower =
          lowercase.getD place 'x' ∧
        (lowercase.getD (place % lowercase.length) 'x').toLower =
          lowercase.getD place 'x' := by
  decide

theorem choose_eq_getD
    {α : Type}
    (random : ℕ)
    {list : List α}
    (nonempty : list ≠ [])
    (default : α) :
    choose random list =
      .ok (list.getD (random % list.length) default) := by
  obtain ⟨chosen, -, found⟩ := Drawing.exists_drawn random nonempty
  rw [choose, found, List.getD_eq_getElem?_getD, found, Option.getD_some]

/-- Some choice gives a letter, in one case or the other. -/
theorem exists_choose_toLower
    {requirement : String}
    (letters : requirement = "uppercase" ∨ requirement = "lowercase")
    {char : Char}
    (lower : char ∈ lowercase) :
    ∃ charset chosen, charsetOf requirement = .ok charset ∧
      choose (lowercase.idxOf char) charset = .ok chosen ∧
      chosen.toLower = char := by
  have place_lt : lowercase.idxOf char < lowercase.length :=
    List.idxOf_lt_length_of_mem lower
  have found : lowercase.getD (lowercase.idxOf char) 'x' = char := by
    rw [List.getD_eq_getElem _ _ place_lt, List.getElem_idxOf]
  have cases := choose_letter (lowercase.idxOf char) place_lt
  rw [found] at cases
  rcases letters with rfl | rfl
  · exact ⟨uppercase, _, rfl, choose_eq_getD _ (by decide) 'x', cases.1⟩
  · exact ⟨lowercase, _, rfl, choose_eq_getD _ (by decide) 'x', cases.2⟩

/-- Some choices spell a word. -/
theorem nextChars_word
    {requirements : List String}
    (letters : ∀ requirement ∈ requirements,
      requirement = "uppercase" ∨ requirement = "lowercase")
    (nonempty : requirements ≠ [])
    {word : Text}
    (lower : ∀ char ∈ word, char ∈ lowercase)
    {buffer : List String}
    (subset : buffer ⊆ requirements) :
    ∃ password,
      nextChars requirements
          (word.map fun char => (0, lowercase.idxOf char)) buffer =
        .ok password ∧
      password.map Char.toLower = word := by
  induction word generalizing buffer with
  | nil => exact ⟨[], rfl, rfl⟩
  | cons char word hypothesis =>
      rw [List.forall_mem_cons] at lower
      rw [List.map_cons, nextChars]
      obtain ⟨full, full_eq, full_subset, full_ne, -⟩ :=
        exists_full nonempty subset
      obtain ⟨requirement, listed, chosen⟩ := choose_mem 0 full_ne
      obtain ⟨charset, letter, found, letter_chosen, same⟩ :=
        exists_choose_toLower (letters requirement (full_subset listed)) lower.1
      obtain ⟨password, generated, spelled⟩ := hypothesis lower.2
        (List.Subset.trans (List.erase_subset (a := requirement)) full_subset)
      refine ⟨letter :: password, ?_, ?_⟩
      · simp only [full_eq, chosen, found, letter_chosen, generated,
          Except.ok_bind]
        rfl
      · rw [List.map_cons, same, spelled]

theorem generatePassword_word
    {pc : PasswordComplexity}
    (looksUp : LooksUp pc.requirements)
    {word : Text}
    (length : word.length = pc.length)
    (lower : ∀ char ∈ word, char ∈ lowercase) :
    ∃ random password, generatePassword pc random = .ok password ∧
      password.map Char.toLower = word := by
  obtain ⟨password, generated, spelled⟩ :=
    nextChars_word (fun _ => looksUp.letters) pc.requirements_ne lower
      (List.Subset.refl pc.requirements)
  refine ⟨fun place => (0, lowercase.idxOf (word.getD place 'a')), password,
    ?_, spelled⟩
  have choices : (List.range pc.length).map
      (fun place => (0, lowercase.idxOf (word.getD place 'a'))) =
        word.map fun char => (0, lowercase.idxOf char) := by
    apply List.ext_getElem
    · rw [List.length_map, List.length_map, List.length_range, length]
    · intro place within within_word
      rw [List.length_map] at within_word
      rw [List.getElem_map, List.getElem_map, List.getElem_range,
        List.getD_eq_getElem _ _ within_word]
  rw [generatePassword, choices, generated]

/-- A requirement without characters can be chosen first. -/
theorem generatePassword_error_of_not_usable
    {pc : PasswordComplexity}
    {requirement : String}
    (listed : requirement ∈ pc.requirements)
    (unusable : requirement ∉ usable) :
    ∃ random error, generatePassword pc random = .error error := by
  have place_lt : pc.requirements.idxOf requirement < pc.requirements.length :=
    List.idxOf_lt_length_of_mem listed
  have chosen : choose (pc.requirements.idxOf requirement) pc.requirements =
      .ok requirement := by
    rw [choose_eq_getD _ pc.requirements_ne requirement,
      Nat.mod_eq_of_lt place_lt, List.getD_eq_getElem _ _ place_lt,
      List.getElem_idxOf]
  obtain ⟨later, length⟩ : ∃ later, pc.length = later + 1 := by
    have := pc.length_le
    exact ⟨pc.length - 1, by omega⟩
  refine ⟨fun _ => (pc.requirements.idxOf requirement, 0), ?_⟩
  rw [generatePassword, length, List.range_succ_eq_map, List.map_cons,
    nextChars]
  simp only [pc.requirements_ne, if_false, chosen, Except.ok_bind]
  rcases charsetOf_not_usable unusable with missing | empty
  · exact ⟨.keyError, by rw [missing]; rfl⟩
  · exact ⟨.valueError, by rw [empty]; rfl⟩

/-- The words that generated letters spell are the words of their length. -/
theorem attacked_of_generated
    {words : List Text}
    {pc : PasswordComplexity}
    (looksUp : LooksUp pc.requirements)
    {password : Text}
    (length : password.length = pc.length)
    (belongs : ∀ char ∈ password, ∃ requirement ∈ pc.requirements,
      Belongs char requirement)
    (attacked : dictionaryAttack words password = true) :
    HasWord words pc.length := by
  refine ⟨password.map Char.toLower, List.contains_iff_mem.mp attacked,
    by rw [List.length_map, length], ?_⟩
  intro lower listed
  obtain ⟨char, char_listed, rfl⟩ := List.mem_map.mp listed
  obtain ⟨requirement, required, char_belongs⟩ := belongs char char_listed
  exact toLower_mem (looksUp.letters required) char_belongs

/-! ## The policy -/

theorem init_eq_ok
    {requirements : List String}
    {length : ℤ}
    {pc : PasswordComplexity}
    (accepted : init requirements length = .ok pc) :
    pc.requirements = requirements ∧ pc.length = length.toNat := by
  unfold init at accepted
  split at accepted
  · cases accepted
  · split at accepted
    · cases accepted
    · split at accepted
      · cases accepted
      · cases accepted
        exact ⟨rfl, rfl⟩

/-- Whatever is chosen, the password meets its policy exactly when every
requirement has characters and no word of the dictionary can be generated for
a check that looks it up. -/
theorem generated_meets_policy_iff
    (words : List Text)
    {requirements : List String}
    {length : ℤ}
    {pc : PasswordComplexity}
    (accepted : init requirements length = .ok pc) :
    (∀ random, MeetsPolicy words pc random) ↔
      (∀ requirement ∈ requirements, requirement ∈ usable) ∧
        ¬(LooksUp requirements ∧ HasWord words length.toNat) := by
  obtain ⟨rfl, length_eq⟩ := init_eq_ok accepted
  rw [← length_eq]
  constructor
  · intro meets
    have known : ∀ requirement ∈ pc.requirements, requirement ∈ usable := by
      intro requirement listed
      by_contra unusable
      obtain ⟨random, error, raised⟩ :=
        generatePassword_error_of_not_usable listed unusable
      obtain ⟨password, generated, -⟩ := meets random
      rw [raised] at generated
      cases generated
    refine ⟨known, ?_⟩
    rintro ⟨looksUp, word, listed, word_length, lower⟩
    obtain ⟨random, spelled, spells, same⟩ :=
      generatePassword_word looksUp word_length lower
    obtain ⟨_, generated, length, -, covered⟩ :=
      generatePassword_generated known random
    obtain ⟨password, regenerated, -, checked⟩ := meets random
    rw [spells, Except.ok.injEq] at generated regenerated
    subst generated regenerated
    refine (checkComplexity_eq_nil_iff words length covered).mp checked
      ⟨looksUp, ?_⟩
    rw [dictionaryAttack, same]
    exact List.contains_iff_mem.mpr listed
  · rintro ⟨known, wordless⟩ random
    obtain ⟨password, generated, length, belongs, covered⟩ :=
      generatePassword_generated known random
    refine ⟨password, generated, length,
      (checkComplexity_eq_nil_iff words length covered).mpr ?_⟩
    rintro ⟨looksUp, attacked⟩
    exact wordless ⟨looksUp,
      attacked_of_generated looksUp length belongs attacked⟩

/-- An instance id of a contract. -/
theorem instanceId_meets_policy :
    MeetsPolicy ["dog".toList]
      ⟨["uppercase", "lowercase", "numeric"], 30, by decide, by decide⟩
      (fun place => (place, 7 * place)) := by
  have accepted : init ["uppercase", "lowercase", "numeric"] 30 =
      .ok ⟨["uppercase", "lowercase", "numeric"], 30, by decide, by decide⟩ :=
    rfl
  exact (generated_meets_policy_iff ["dog".toList] accepted).mpr
    ⟨by decide, fun both => absurd both.1 (by decide)⟩ _

/-- A requirement without characters is accepted, and so are two that can spell
a word. -/
theorem generated_fails :
    (∃ pc, init ["custom"] 1 = .ok pc ∧
        generatePassword pc (fun _ => (0, 0)) = .error .valueError) ∧
      ∃ pc, init ["uppercase", "lowercase"] 3 = .ok pc ∧
        generatePassword pc (fun place => (0, [3, 14, 6].getD place 0)) =
          .ok "DoG".toList ∧
        checkComplexity ["dog".toList] pc "DoG".toList =
          .ok ["Password is a dictionary word!"] :=
  ⟨⟨_, rfl, rfl⟩, _, rfl, rfl, rfl⟩

end PasswordComplexity

end Coinbend
