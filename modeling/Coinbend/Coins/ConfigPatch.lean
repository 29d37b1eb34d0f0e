import Coinbend.Coins.CoinConfig

/-!
# Patching the configuration of a coin

The patch sets some fields, each of which is looked up under its own name, so
it can be read off the loaded configuration as one list of edits.
-/

namespace Coinbend
namespace ConfigFile

/-! ## Edits -/

/-- The fields with a fixed value. -/
def fixedFields (testnet : ℕ) : List Setting :=
  [("testnet".toList, Nat.toDigits 10 testnet),
   ("rpcssl".toList, "0".toList),
   ("rpcallowip".toList, "127.0.0.1".toList),
   ("gen".toList, "0".toList),
   ("server".toList, "1".toList)]

/-- The fields that `patch` looks at. -/
def patchedNames : List Text :=
  ["testnet".toList, "rpcssl".toList, "rpcallowip".toList, "gen".toList,
   "server".toList, "rpcuser".toList, "rpcpassword".toList, "rpcport".toList]

/-- The generated text; it is always one for the policies of the patch. -/
def generated (pc : PasswordComplexity) (random : ℕ → ℕ × ℕ) : Text :=
  match pc.generatePassword random with
  | .ok password => password
  | .error _ => []

/-- A password that needs no change. -/
def passwordValid (words : List Text) (password : Text) : Bool :=
  match rpcPasswordPolicy.isValid words password with
  | .ok valid => valid
  | .error _ => false

/-- The edit of a field that is kept while it is valid. -/
def keptEdit
    (conf : List Setting)
    (name : Text)
    (valid : Text → Bool)
    (value : Text) : List Setting :=
  match getField conf name with
  | some old => if valid old then [] else [(name, value)]
  | none => [(name, value)]

/-- The edits of a patch. -/
def edits
    (testnet : ℕ)
    (words : List Text)
    (choices : Choices)
    (conf : List Setting) : List Setting :=
  fixedFields testnet ++
    keptEdit conf "rpcuser".toList UsernameComplexity.isValid
      (generated rpcUserPolicy choices.rpcUser) ++
    keptEdit conf "rpcpassword".toList (passwordValid words)
      (generated rpcPasswordPolicy choices.rpcPassword) ++
    keptEdit conf "rpcport".toList (fun _ => true)
      (Nat.toDigits 10 (1 + choices.rpcPort % 65534))

theorem setField_none (conf : List Setting) (name value : Text) :
    setField conf name value none = Fields.set conf name value := by
  have present : (conf.any fun lookup => decide (lookup.1 = name)) = true ↔
      name ∈ conf.map Prod.fst := by
    rw [List.any_eq_true, List.mem_map]
    simp only [decide_eq_true_eq]
  unfold setField Fields.set
  simp only [true_or, and_true, present, decide_eq_true_eq]
  by_cases listed : name ∈ conf.map Prod.fst
  · rw [if_pos listed, if_pos listed]
  · rw [if_neg listed, if_neg listed]

theorem getField_setAll_of_notMem
    {conf changes : List Setting}
    {name : Text}
    (untouched : name ∉ changes.map Prod.fst) :
    getField (Fields.setAll conf changes) name = getField conf name := by
  rw [getField, getField, Fields.get?_eq_head?, Fields.get?_eq_head?,
    Fields.values_setAll_of_notMem untouched]

/-- The edit of a field depends on no other field. -/
theorem keptEdit_setAll
    {conf changes : List Setting}
    {name : Text}
    (untouched : name ∉ changes.map Prod.fst)
    (valid : Text → Bool)
    (value : Text) :
    keptEdit (Fields.setAll conf changes) name valid value =
      keptEdit conf name valid value := by
  rw [keptEdit, getField_setAll_of_notMem untouched, keptEdit]

theorem keptEdit_names
    (conf : List Setting)
    (name : Text)
    (valid : Text → Bool)
    (value : Text) :
    ((keptEdit conf name valid value).map Prod.fst).Sublist [name] := by
  unfold keptEdit
  split
  · split
    · exact List.nil_sublist _
    · exact List.Sublist.refl _
  · exact List.Sublist.refl _

theorem usable_requirements :
    ∀ requirement ∈ requirements,
      requirement ∈ PasswordComplexity.usable := by
  decide

section

variable
  {pc : PasswordComplexity}
  (policy : pc.requirements = requirements)
  (random : ℕ → ℕ × ℕ)

include policy

/-- The generated text has the length and the characters of its policy. -/
theorem generated_spec :
    pc.generatePassword random = .ok (generated pc random) ∧
      (generated pc random).length = pc.length ∧
      (∀ char ∈ generated pc random, ∃ requirement ∈ requirements,
        PasswordComplexity.Belongs char requirement) ∧
      ∀ requirement ∈ requirements, ∃ char ∈ generated pc random,
        PasswordComplexity.Belongs char requirement := by
  have known : ∀ requirement ∈ pc.requirements,
      requirement ∈ PasswordComplexity.usable := by
    rw [policy]
    exact usable_requirements
  obtain ⟨password, generated_eq, length, belongs, covers⟩ :=
    PasswordComplexity.generatePassword_generated known random
  have same : generated pc random = password := by
    rw [generated, generated_eq]
  rw [policy] at belongs covers
  rw [same]
  exact ⟨generated_eq, length, belongs, covers⟩

theorem setGenerated_eq (conf : List Setting) (name : Text) :
    setGenerated conf name pc random =
      .ok (Fields.set conf name (generated pc random)) := by
  rw [setGenerated, (generated_spec policy random).1, Except.ok_bind,
    setField_none]
  rfl

theorem patchSecret_eq
    (conf : List Setting)
    (name : Text)
    {isValid : Text → Except PyError Bool}
    (valid : Text → Bool)
    (checks : ∀ value, isValid value = .ok (valid value)) :
    patchSecret conf name isValid pc random =
      .ok (Fields.setAll conf
        (keptEdit conf name valid (generated pc random))) := by
  unfold patchSecret keptEdit
  cases found : getField conf name with
  | none =>
      simp only
      rw [setGenerated_eq policy]
      rfl
  | some value =>
      simp only [checks, Except.ok_bind]
      split
      · rfl
      · rw [setGenerated_eq policy]
        rfl

end

/-- The characters of the policies. -/
theorem letters_of_belongs
    {char : Char}
    {requirement : String}
    (required : requirement ∈ requirements)
    (belongs : PasswordComplexity.Belongs char requirement) :
    char ∈ UsernameComplexity.letters := by
  obtain ⟨charset, found, member⟩ := belongs
  simp only [requirements, List.mem_cons, List.not_mem_nil, or_false]
    at required
  rw [UsernameComplexity.letters, List.mem_append, List.mem_append]
  rcases required with rfl | rfl | rfl
  · cases found
    exact Or.inl (Or.inl member)
  · cases found
    exact Or.inl (Or.inr member)
  · cases found
    exact Or.inr member

theorem exists_passwordValid (words : List Text) (value : Text) :
    rpcPasswordPolicy.isValid words value =
      .ok (passwordValid words value) := by
  have known : ∀ requirement ∈ rpcPasswordPolicy.requirements,
      requirement ∈ PasswordComplexity.usable := usable_requirements
  obtain ⟨valid, checked⟩ :=
    PasswordComplexity.exists_isValid words known value
  rw [passwordValid, checked]

theorem setAll_append (conf first second : List Setting) :
    Fields.setAll conf (first ++ second) =
      Fields.setAll (Fields.setAll conf first) second := by
  rw [Fields.setAll, List.foldl_append]
  rfl

/-- A field that is set if it is missing is kept whatever its value is. -/
theorem setMissing_eq (conf : List Setting) (name value : Text) :
    (if getField conf name = none then setField conf name value none
      else conf) =
      Fields.setAll conf (keptEdit conf name (fun _ => true) value) := by
  unfold keptEdit
  cases getField conf name with
  | none =>
      rw [if_pos rfl, setField_none]
      rfl
  | some old =>
      rw [if_neg (by simp)]
      rfl

/-- The edits of the first fields leave the later ones alone. -/
theorem names_append_keptEdit
    {changes : List Setting}
    {names : List Text}
    (sublist : (changes.map Prod.fst).Sublist names)
    (conf : List Setting)
    (name : Text)
    (valid : Text → Bool)
    (value : Text) :
    ((changes ++ keptEdit conf name valid value).map Prod.fst).Sublist
      (names ++ [name]) := by
  rw [List.map_append]
  exact sublist.append (keptEdit_names conf name valid value)

/-- A patch makes its edits. -/
theorem patch_eq
    (testnet : ℕ)
    (words : List Text)
    (choices : Choices)
    (conf : List Setting) :
    patch testnet words choices conf =
      .ok (Fields.setAll conf (edits testnet words choices conf)) := by
  have fixed : setField (setField (setField (setField (setField conf
      "testnet".toList (Nat.toDigits 10 testnet) none)
      "rpcssl".toList "0".toList none)
      "rpcallowip".toList "127.0.0.1".toList none)
      "gen".toList "0".toList none)
      "server".toList "1".toList none =
        Fields.setAll conf (fixedFields testnet) := by
    simp only [setField_none, fixedFields, Fields.setAll, List.foldl_cons,
      List.foldl_nil]
  let user := keptEdit conf "rpcuser".toList UsernameComplexity.isValid
    (generated rpcUserPolicy choices.rpcUser)
  let password := keptEdit conf "rpcpassword".toList (passwordValid words)
    (generated rpcPasswordPolicy choices.rpcPassword)
  have fixed_names : ((fixedFields testnet).map Prod.fst).Sublist
      (patchedNames.take 5) := List.Sublist.refl _
  have user_names : ((fixedFields testnet ++ user).map Prod.fst).Sublist
      (patchedNames.take 6) := names_append_keptEdit fixed_names _ _ _ _
  have password_names :
      ((fixedFields testnet ++ user ++ password).map Prod.fst).Sublist
        (patchedNames.take 7) := names_append_keptEdit user_names _ _ _ _
  have user_new : "rpcuser".toList ∉ (fixedFields testnet).map Prod.fst :=
    fun listed => absurd (fixed_names.subset listed) (by decide)
  have password_new : "rpcpassword".toList ∉
      (fixedFields testnet ++ user).map Prod.fst :=
    fun listed => absurd (user_names.subset listed) (by decide)
  have port_new : "rpcport".toList ∉
      (fixedFields testnet ++ user ++ password).map Prod.fst :=
    fun listed => absurd (password_names.subset listed) (by decide)
  unfold patch
  simp only [fixed]
  rw [patchSecret_eq rfl _ _ _ UsernameComplexity.isValid (fun _ => rfl),
    Except.ok_bind, keptEdit_setAll user_new, ← setAll_append]
  rw [patchSecret_eq rfl _ _ _ (passwordValid words)
      (exists_passwordValid words), Except.ok_bind,
    keptEdit_setAll password_new, ← setAll_append]
  rw [setMissing_eq, keptEdit_setAll port_new, ← setAll_append, edits]
  rfl

/-! ## What is edited -/

theorem mem_keptEdit_iff
    {conf : List Setting}
    {name : Text}
    {valid : Text → Bool}
    {value : Text}
    (edit : Setting) :
    edit ∈ keptEdit conf name valid value ↔
      edit = (name, value) ∧
        ∀ old, getField conf name = some old → valid old = false := by
  unfold keptEdit
  cases getField conf name with
  | none => simp
  | some old =>
      simp only [Option.some_inj, forall_eq']
      split
      next kept => simp [kept]
      next changed => simp [Bool.eq_false_iff.mpr changed]

theorem names_edits
    (testnet : ℕ)
    (words : List Text)
    (choices : Choices)
    (conf : List Setting) :
    ((edits testnet words choices conf).map Prod.fst).Sublist patchedNames := by
  have fixed_names : ((fixedFields testnet).map Prod.fst).Sublist
      (patchedNames.take 5) := List.Sublist.refl _
  exact names_append_keptEdit (names_append_keptEdit
    (names_append_keptEdit fixed_names _ _ _ _) _ _ _ _) _ _ _ _

theorem nodup_edits
    (testnet : ℕ)
    (words : List Text)
    (choices : Choices)
    (conf : List Setting) :
    ((edits testnet words choices conf).map Prod.fst).Nodup := by
  have once : patchedNames.Nodup := by decide
  exact once.sublist (names_edits testnet words choices conf)

/-- The generated user name is valid. -/
theorem isValid_generated (random : ℕ → ℕ × ℕ) :
    UsernameComplexity.isValid (generated rpcUserPolicy random) = true := by
  have policy : rpcUserPolicy.requirements = requirements := rfl
  obtain ⟨-, length, belongs, covers⟩ := generated_spec policy random
  apply UsernameComplexity.isValid_of_letters length
  · intro char listed
    obtain ⟨requirement, required, char_belongs⟩ := belongs char listed
    exact letters_of_belongs required char_belongs
  · obtain ⟨char, listed, charset, found, member⟩ :=
      covers "uppercase" (by decide)
    cases found
    have capital : (PasswordComplexity.uppercase.all fun char =>
        !char.isDigit) = true := by
      decide
    refine ⟨char, listed, ?_⟩
    simpa using List.all_eq_true.mp capital char member

/-- The generated password is valid. -/
theorem passwordValid_generated (words : List Text) (random : ℕ → ℕ × ℕ) :
    passwordValid words (generated rpcPasswordPolicy random) = true := by
  have policy : rpcPasswordPolicy.requirements = requirements := rfl
  obtain ⟨-, length, -, covers⟩ := generated_spec policy random
  have checked : rpcPasswordPolicy.checkComplexity words
      (generated rpcPasswordPolicy random) = .ok [] := by
    rw [PasswordComplexity.checkComplexity_eq_nil_iff words length covers]
    exact fun both => absurd both.1 (by decide)
  unfold passwordValid PasswordComplexity.isValid
  rw [checked]
  rfl

/-! ## When nothing is edited -/

/-- The loaded fields that a patch leaves alone. -/
structure Settled
    (testnet : ℕ)
    (words : List Text)
    (conf : List Setting) : Prop where
  fixed : ∀ field ∈ fixedFields testnet, ∀ value,
    (field.1, value) ∈ conf → value = field.2
  user : ∀ value, getField conf "rpcuser".toList = some value →
    UsernameComplexity.isValid value = true
  password : ∀ value, getField conf "rpcpassword".toList = some value →
    passwordValid words value = true

/-- Every field of a patch is there. -/
def AllPresent (conf : List Setting) : Prop :=
  ∀ name ∈ patchedNames, name ∈ conf.map Prod.fst

instance (conf : List Setting) : Decidable (AllPresent conf) :=
  inferInstanceAs (Decidable (∀ name ∈ patchedNames, _))

section

variable
  {conf : List Setting}
  {name : Text}
  {valid : Text → Bool}
  {value : Text}

theorem present_of_keptEdit
    (present : ∀ edit ∈ keptEdit conf name valid value,
      edit.1 ∈ conf.map Prod.fst) :
    name ∈ conf.map Prod.fst := by
  by_contra missing
  have nothing := (Fields.get?_eq_none_iff conf name).mpr missing
  refine missing (present (name, value) ((mem_keptEdit_iff _).mpr ⟨rfl, ?_⟩))
  intro old found
  rw [getField, nothing] at found
  cases found

/-- A valid field is not edited. -/
theorem keptEdit_eq_nil_of_valid
    {old : Text}
    (found : getField conf name = some old)
    (old_valid : valid old = true) :
    keptEdit conf name valid value = [] := by
  rw [keptEdit, found]
  exact if_pos old_valid

/-- A field is edited to what it is already only if it is not edited. -/
theorem valid_of_keptEdit
    (value_valid : valid value = true)
    (same : ∀ edit ∈ keptEdit conf name valid value,
      ∀ found, (edit.1, found) ∈ conf → found = edit.2)
    {old : Text}
    (found : getField conf name = some old) :
    valid old = true := by
  by_contra invalid
  have edited : (name, value) ∈ keptEdit conf name valid value := by
    refine (mem_keptEdit_iff _).mpr ⟨rfl, fun other other_found => ?_⟩
    rw [found, Option.some_inj] at other_found
    rw [← other_found]
    exact Bool.eq_false_iff.mpr invalid
  rw [same (name, value) edited old (Fields.mem_of_get? found)] at invalid
  exact invalid value_valid

/-- After its edit a field is valid. -/
theorem exists_valid_after
    {changes : List Setting}
    (once : (changes.map Prod.fst).Nodup)
    (included : keptEdit conf name valid value ⊆ changes)
    (own : ∀ edit ∈ changes, edit.1 = name → edit.2 = value)
    (value_valid : valid value = true) :
    ∃ after, getField (Fields.setAll conf changes) name = some after ∧
      valid after = true := by
  by_cases edited : name ∈ changes.map Prod.fst
  · obtain ⟨edit, listed, rfl⟩ := List.mem_map.mp edited
    refine ⟨value, ?_, value_valid⟩
    rw [getField, Fields.get?_setAll once listed, own edit listed rfl]
  · rw [getField_setAll_of_notMem edited]
    have unedited : (name, value) ∉ keptEdit conf name valid value :=
      fun listed => edited (List.mem_map_of_mem (included listed))
    rw [mem_keptEdit_iff, not_and] at unedited
    have kept := unedited rfl
    simp only [not_forall, exists_prop] at kept
    obtain ⟨old, found, old_valid⟩ := kept
    exact ⟨old, found, Bool.ne_false_iff.mp old_valid⟩

end

section

variable
  (testnet : ℕ)
  (words : List Text)
  (choices : Choices)
  (conf : List Setting)

theorem mem_edits_iff (edit : Setting) :
    edit ∈ edits testnet words choices conf ↔
      edit ∈ fixedFields testnet ∨
      edit ∈ keptEdit conf "rpcuser".toList UsernameComplexity.isValid
        (generated rpcUserPolicy choices.rpcUser) ∨
      edit ∈ keptEdit conf "rpcpassword".toList (passwordValid words)
        (generated rpcPasswordPolicy choices.rpcPassword) ∨
      edit ∈ keptEdit conf "rpcport".toList (fun _ => true)
        (Nat.toDigits 10 (1 + choices.rpcPort % 65534)) := by
  rw [edits, List.mem_append, List.mem_append, List.mem_append, or_assoc,
    or_assoc]

theorem mem_patchedNames
    {name : Text}
    (listed : name ∈ patchedNames) :
    name ∈ (fixedFields testnet).map Prod.fst ∨ name = "rpcuser".toList ∨
      name = "rpcpassword".toList ∨ name = "rpcport".toList := by
  change name ∈ (fixedFields testnet).map Prod.fst ++
    ["rpcuser".toList, "rpcpassword".toList, "rpcport".toList] at listed
  simpa only [List.mem_append, List.mem_cons, List.not_mem_nil, or_false]
    using listed

theorem present_edits_iff :
    (∀ edit ∈ edits testnet words choices conf,
        edit.1 ∈ conf.map Prod.fst) ↔
      AllPresent conf := by
  simp only [mem_edits_iff]
  constructor
  · intro present name listed
    rcases mem_patchedNames testnet listed with fixed | rfl | rfl | rfl
    · obtain ⟨field, field_listed, rfl⟩ := List.mem_map.mp fixed
      exact present field (Or.inl field_listed)
    · exact present_of_keptEdit fun edit edited =>
        present edit (Or.inr (Or.inl edited))
    · exact present_of_keptEdit fun edit edited =>
        present edit (Or.inr (Or.inr (Or.inl edited)))
    · exact present_of_keptEdit fun edit edited =>
        present edit (Or.inr (Or.inr (Or.inr edited)))
  · intro present edit edited
    rw [← mem_edits_iff] at edited
    exact present edit.1 ((names_edits testnet words choices conf).subset
      (List.mem_map_of_mem edited))

/-- A field that is there has a first value. -/
theorem exists_getField
    {conf : List Setting}
    {name : Text}
    (present : name ∈ conf.map Prod.fst) :
    ∃ value, getField conf name = some value := by
  rw [← Option.isSome_iff_exists, ← Option.ne_none_iff_isSome, getField, ne_eq,
    Fields.get?_eq_none_iff]
  exact not_not_intro present

/-- A patch that adds nothing changes nothing exactly when the fields are
settled. -/
theorem setAll_edits_eq_iff (present : AllPresent conf) :
    Fields.setAll conf (edits testnet words choices conf) = conf ↔
      Settled testnet words conf := by
  rw [Fields.setAll_eq_self_iff (nodup_edits testnet words choices conf)]
  simp only [mem_edits_iff]
  constructor
  · intro same
    refine ⟨?_, ?_, ?_⟩
    · intro field listed value
      exact (same field (Or.inl listed)).2 value
    · intro value
      apply valid_of_keptEdit (isValid_generated choices.rpcUser)
      intro edit edited
      exact (same edit (Or.inr (Or.inl edited))).2
    · intro value
      apply valid_of_keptEdit
        (passwordValid_generated words choices.rpcPassword)
      intro edit edited
      exact (same edit (Or.inr (Or.inr (Or.inl edited)))).2
  · intro settled edit edited
    obtain ⟨user, user_found⟩ :=
      exists_getField (present "rpcuser".toList (by decide))
    obtain ⟨password, password_found⟩ :=
      exists_getField (present "rpcpassword".toList (by decide))
    obtain ⟨port, port_found⟩ :=
      exists_getField (present "rpcport".toList (by decide))
    rw [keptEdit_eq_nil_of_valid user_found (settled.user user user_found),
      keptEdit_eq_nil_of_valid password_found
        (settled.password password password_found),
      keptEdit_eq_nil_of_valid port_found rfl] at edited
    simp only [List.not_mem_nil, or_false] at edited
    have name : edit.1 ∈ patchedNames :=
      (List.take_subset 5 patchedNames)
        (List.mem_map_of_mem (f := Prod.fst) edited)
    exact ⟨present edit.1 name, settled.fixed edit edited⟩

/-- The edit of a kept field is its own. -/
theorem own_edit
    (edit : Setting)
    (edited : edit ∈ edits testnet words choices conf) :
    (edit.1 = "rpcuser".toList →
        edit.2 = generated rpcUserPolicy choices.rpcUser) ∧
      (edit.1 = "rpcpassword".toList →
        edit.2 = generated rpcPasswordPolicy choices.rpcPassword) ∧
      (edit.1 = "rpcport".toList →
        edit.2 = Nat.toDigits 10 (1 + choices.rpcPort % 65534)) := by
  rw [mem_edits_iff] at edited
  rcases edited with fixed | user | password | port
  · have name : edit.1 ∈ patchedNames.take 5 :=
      List.mem_map_of_mem (f := Prod.fst) fixed
    refine ⟨fun same => ?_, fun same => ?_, fun same => ?_⟩ <;>
    · rw [same] at name
      exact absurd name (by decide)
  · obtain ⟨name, same⟩ := Prod.mk.inj ((mem_keptEdit_iff edit).mp user).1
    exact ⟨fun _ => same, fun other => absurd (name.symm.trans other) (by decide),
      fun other => absurd (name.symm.trans other) (by decide)⟩
  · obtain ⟨name, same⟩ := Prod.mk.inj ((mem_keptEdit_iff edit).mp password).1
    exact ⟨fun other => absurd (name.symm.trans other) (by decide),
      fun _ => same, fun other => absurd (name.symm.trans other) (by decide)⟩
  · obtain ⟨name, same⟩ := Prod.mk.inj ((mem_keptEdit_iff edit).mp port).1
    exact ⟨fun other => absurd (name.symm.trans other) (by decide),
      fun other => absurd (name.symm.trans other) (by decide), fun _ => same⟩

/-- A patched configuration is not changed by another patch. -/
theorem setAll_edits_again (again : Choices) :
    let patched := Fields.setAll conf (edits testnet words choices conf)
    Fields.setAll patched (edits testnet words again patched) = patched := by
  intro patched
  have once := nodup_edits testnet words choices conf
  have own := own_edit testnet words choices conf
  have included := fun edit =>
    (mem_edits_iff testnet words choices conf edit).mpr
  have user_after : ∃ user, getField patched "rpcuser".toList = some user ∧
      UsernameComplexity.isValid user = true :=
    exists_valid_after once
      (fun edit edited => included edit (Or.inr (Or.inl edited)))
      (fun edit edited => (own edit edited).1)
      (isValid_generated choices.rpcUser)
  have password_after : ∃ password,
      getField patched "rpcpassword".toList = some password ∧
        passwordValid words password = true :=
    exists_valid_after once
      (fun edit edited => included edit (Or.inr (Or.inr (Or.inl edited))))
      (fun edit edited => (own edit edited).2.1)
      (passwordValid_generated words choices.rpcPassword)
  have port_after : ∃ port, getField patched "rpcport".toList = some port ∧
      (fun _ : Text => true) port = true :=
    exists_valid_after once
      (fun edit edited => included edit (Or.inr (Or.inr (Or.inr edited))))
      (fun edit edited => (own edit edited).2.2) rfl
  obtain ⟨user, user_found, user_valid⟩ := user_after
  obtain ⟨password, password_found, password_valid⟩ := password_after
  obtain ⟨port, port_found, port_valid⟩ := port_after
  rw [Fields.setAll_eq_self_iff (nodup_edits testnet words again patched)]
  intro edit edited
  rw [mem_edits_iff, keptEdit_eq_nil_of_valid user_found user_valid,
    keptEdit_eq_nil_of_valid password_found password_valid,
    keptEdit_eq_nil_of_valid port_found port_valid] at edited
  simp only [List.not_mem_nil, or_false] at edited
  have first_edited := included edit (Or.inl edited)
  constructor
  · rw [Fields.mem_names_setAll]
    exact Or.inl (List.mem_map_of_mem first_edited)
  · intro found listed
    exact Fields.eq_of_mem_setAll once first_edited listed

end

/-! ## Clean edits -/

theorem name_alphanum :
    (patchedNames.all fun name => !name.isEmpty && name.all Char.isAlphanum) =
      true := by
  decide

/-- Letters, digits and points are saved as they are. -/
theorem clean_of_letters
    {field : Setting}
    (name : field.1 ∈ patchedNames)
    (value_ne : field.2 ≠ [])
    (letters : ∀ char ∈ field.2, char.isAlphanum = true ∨ char = '.') :
    Clean field := by
  have good := List.all_eq_true.mp name_alphanum field.1 name
  rw [Bool.and_eq_true, Bool.not_eq_true', List.isEmpty_eq_false_iff] at good
  refine ⟨good.1, List.all_eq_true.mp good.2, value_ne, ?_, ?_⟩
  · intro char member
    rcases letters char member with alphanum | rfl
    · refine ⟨?_, ?_, ?_⟩ <;>
      · rintro rfl
        cases alphanum
    · decide
  · intro last found
    rcases letters last (List.mem_of_getLast? found) with alphanum | rfl
    · exact isSpace_of_isAlphanum alphanum
    · rfl

theorem letters_of_all
    {value : Text}
    (value_ne : value ≠ [])
    (letters : (value.all fun char => char.isAlphanum || char == '.') = true) :
    value ≠ [] ∧
      ∀ char ∈ value, char.isAlphanum = true ∨ char = '.' := by
  refine ⟨value_ne, fun char member => ?_⟩
  simpa only [Bool.or_eq_true, beq_iff_eq] using
    List.all_eq_true.mp letters char member

theorem letters_toDigits (number : ℕ) :
    Nat.toDigits 10 number ≠ [] ∧
      ∀ char ∈ Nat.toDigits 10 number,
        char.isAlphanum = true ∨ char = '.' := by
  refine ⟨Nat.toDigits_ne_nil, fun char member => Or.inl ?_⟩
  rw [Char.isAlphanum, DigitText.digits_toDigits number char member,
    Bool.or_true]

theorem letters_generated
    {pc : PasswordComplexity}
    (policy : pc.requirements = requirements)
    (random : ℕ → ℕ × ℕ) :
    generated pc random ≠ [] ∧
      ∀ char ∈ generated pc random,
        char.isAlphanum = true ∨ char = '.' := by
  obtain ⟨-, length, belongs, -⟩ := generated_spec policy random
  have alphanumeric : (UsernameComplexity.letters.all Char.isAlphanum) =
      true := by
    decide
  constructor
  · intro empty
    rw [empty, List.length_nil] at length
    have long := pc.length_le
    rw [← length, policy] at long
    exact absurd long (by decide)
  · intro char listed
    obtain ⟨requirement, required, char_belongs⟩ := belongs char listed
    exact Or.inl (List.all_eq_true.mp alphanumeric char
      (letters_of_belongs required char_belongs))

theorem clean_edits
    (testnet : ℕ)
    (words : List Text)
    (choices : Choices)
    (conf : List Setting) :
    ∀ edit ∈ edits testnet words choices conf, Clean edit := by
  intro edit edited
  have name : edit.1 ∈ patchedNames :=
    (names_edits testnet words choices conf).subset
      (List.mem_map_of_mem edited)
  suffices value : edit.2 ≠ [] ∧
      ∀ char ∈ edit.2, char.isAlphanum = true ∨ char = '.' from
    clean_of_letters name value.1 value.2
  rw [mem_edits_iff] at edited
  rcases edited with fixed | user | password | port
  · simp only [fixedFields, List.mem_cons, List.not_mem_nil, or_false] at fixed
    rcases fixed with rfl | rfl | rfl | rfl | rfl
    · exact letters_toDigits testnet
    · exact letters_of_all (by decide) rfl
    · exact letters_of_all (by decide) rfl
    · exact letters_of_all (by decide) rfl
    · exact letters_of_all (by decide) rfl
  · rw [((mem_keptEdit_iff edit).mp user).1]
    exact letters_generated rfl choices.rpcUser
  · rw [((mem_keptEdit_iff edit).mp password).1]
    exact letters_generated rfl choices.rpcPassword
  · rw [((mem_keptEdit_iff edit).mp port).1]
    exact letters_toDigits _

/-! ## What the constructor does -/

section

variable
  (testnet : ℕ)
  (words : List Text)
  (choices : Choices)
  (content : Content)

/-- The patched settings of a file. -/
def patchedConf : List Setting :=
  Fields.setAll (load content) (edits testnet words choices (load content))

theorem init_of_present (present : AllPresent (load content)) :
    init testnet words choices (some content) =
      .ok ⟨some (patchedConf testnet words choices content), false,
        some content⟩ := by
  have same : (patchedConf testnet words choices content).length =
      (load content).length :=
    Fields.length_setAll_eq_iff.mpr
      ((present_edits_iff testnet words choices _).mpr present)
  unfold init
  simp only [patch_eq, Except.ok_bind]
  rw [← patchedConf, same, decide_eq_false (not_not_intro rfl)]
  rfl

theorem init_of_missing (missing : ¬AllPresent (load content)) :
    init testnet words choices (some content) =
      .ok ⟨some (patchedConf testnet words choices content), true,
        some (.text (save (patchedConf testnet words choices content)))⟩ := by
  have grown : (patchedConf testnet words choices content).length ≠
      (load content).length :=
    fun same => missing ((present_edits_iff testnet words choices _).mp
      (Fields.length_setAll_eq_iff.mp same))
  unfold init
  simp only [patch_eq, Except.ok_bind]
  rw [← patchedConf, decide_eq_true grown]
  rfl

/-- The patched settings are saved as they are. -/
theorem load_save_patchedConf :
    load (.text (save (patchedConf testnet words choices content))) =
      patchedConf testnet words choices content :=
  load_save (Fields.forall_mem_setAll clean_of_load
    (clean_edits testnet words choices _))

/-- Every setting that is not patched is loaded: the file is a text, and loading
keeps the line of the setting. -/
def OthersLoad : Prop :=
  ∀ entry ∈ settingLines content, entry.2.1 ∉ patchedNames →
    (∃ text, content = .text text) ∧ Loads entry

/-- The other settings are kept when all of them are loaded. -/
theorem values_patchedConf_iff :
    (∀ name, name ∉ patchedNames →
      Fields.values (patchedConf testnet words choices content) name =
        Fields.values (settings content) name) ↔
      OthersLoad content := by
  have untouched : ∀ name, name ∉ patchedNames →
      Fields.values (patchedConf testnet words choices content) name =
        Fields.values (load content) name := by
    intro name other
    exact Fields.values_setAll_of_notMem fun edited =>
      other ((names_edits testnet words choices _).subset edited)
  have loaded : ∀ name,
      Fields.values (load content) name =
          Fields.values (settings content) name ↔
        ∀ entry ∈ settingLines content, entry.2.1 = name →
          (∃ text, content = .text text) ∧ Loads entry := by
    intro name
    cases content with
    | text content =>
        rw [load, loadText_eq_filter, settings, Fields.values_filter_eq_iff]
        simp
    | bytes content =>
        have nothing : load (.bytes content) =
            ((settingLines (.bytes content)).filter fun _ => false).map
              Prod.snd := by
          rw [List.filter_false]
          rfl
        rw [nothing, settings, Fields.values_filter_eq_iff]
        simp
  constructor
  · intro kept entry listed other
    have same := kept entry.2.1 other
    rw [untouched entry.2.1 other] at same
    exact (loaded entry.2.1).mp same entry listed rfl
  · intro load name other
    rw [untouched name other]
    refine (loaded name).mpr ?_
    rintro entry listed rfl
    exact load entry listed other

/-- Another patch of a saved file adds nothing. -/
theorem init_again (again : Choices) :
    let conf := patchedConf testnet words choices content
    init testnet words again (some (.text (save conf))) =
      .ok ⟨some conf, false, some (.text (save conf))⟩ := by
  intro conf
  have loaded : load (.text (save conf)) = conf :=
    load_save_patchedConf testnet words choices content
  have same : Fields.setAll conf (edits testnet words again conf) = conf :=
    setAll_edits_again testnet words choices (load content) again
  have present : AllPresent (load (.text (save conf))) := by
    rw [loaded]
    apply (present_edits_iff testnet words again conf).mp
    exact Fields.length_setAll_eq_iff.mp (congrArg List.length same)
  rw [init_of_present testnet words again (.text (save conf)) present,
    patchedConf, loaded, same]

end

/-! ## The law of a patch -/

/-- What a patch of a file promises. -/
structure MeetsLaw
    (testnet : ℕ)
    (words : List Text)
    (choices : Choices)
    (content : Content)
    (config : CoinConfig) : Prop where
  /-- A change is reported. -/
  reported : config.updated = true ↔ config.conf ≠ some (load content)
  /-- The patched fields are saved. -/
  patched : config.updated = true → ∃ conf written,
    config.conf = some conf ∧ config.file = some written ∧
      ∀ name ∈ patchedNames, getField (load written) name = getField conf name
  /-- The other settings of the file are saved. -/
  others : config.updated = true → ∃ written, config.file = some written ∧
    ∀ name, name ∉ patchedNames →
      Fields.values (load written) name =
        Fields.values (settings content) name
  /-- The saved file is not changed by another patch. -/
  again : config.updated = true → ∃ written, config.file = some written ∧
    ∀ choices, ∃ config,
      init testnet words choices (some written) = .ok config ∧
        config.updated = false ∧ config.conf = some (load written)

/-- The constructor returns and its patch keeps its promise exactly when the
file lacks one of the patched fields and every other setting is loaded, or has
all of the patched fields as they are to be. -/
theorem patch_law_iff
    (testnet : ℕ)
    (words : List Text)
    (choices : Choices)
    (content : Content) :
    (∃ config, init testnet words choices (some content) = .ok config ∧
      MeetsLaw testnet words choices content config) ↔
      (¬AllPresent (load content) ∧ OthersLoad content) ∨
      (AllPresent (load content) ∧ Settled testnet words (load content)) := by
  by_cases present : AllPresent (load content)
  · have same_iff := setAll_edits_eq_iff testnet words choices _ present
    constructor
    · rintro ⟨config, started, law⟩
      rw [init_of_present testnet words choices content present] at started
      cases started
      refine Or.inr ⟨present, same_iff.mp ?_⟩
      by_contra changed
      have reported := law.reported.mpr fun same =>
        changed (Option.some_inj.mp same)
      cases reported
    · rintro (⟨missing, -⟩ | ⟨-, settled⟩)
      · exact absurd present missing
      · refine ⟨_, init_of_present testnet words choices content present, ?_⟩
        have same : patchedConf testnet words choices content = load content :=
          same_iff.mpr settled
        rw [same]
        refine ⟨⟨fun reported => ?_, fun changed => absurd rfl changed⟩,
          fun reported => ?_, fun reported => ?_, fun reported => ?_⟩
        all_goals cases reported
  · have loaded := load_save_patchedConf testnet words choices content
    have others_iff := values_patchedConf_iff testnet words choices content
    constructor
    · rintro ⟨config, started, law⟩
      rw [init_of_missing testnet words choices content present] at started
      cases started
      refine Or.inl ⟨present, others_iff.mp ?_⟩
      obtain ⟨written, saved, others⟩ := law.others rfl
      rw [← Option.some_inj.mp saved, loaded] at others
      exact others
    · rintro (⟨-, plain⟩ | ⟨all, -⟩)
      · refine ⟨_, init_of_missing testnet words choices content present,
          ⟨fun _ => ?_, fun _ => rfl⟩, fun _ => ⟨_, _, rfl, rfl, ?_⟩,
          fun _ => ⟨_, rfl, ?_⟩, fun _ => ⟨_, rfl, ?_⟩⟩
        · intro same
          apply present
          apply (present_edits_iff testnet words choices _).mp
          exact Fields.length_setAll_eq_iff.mp
            (congrArg List.length (Option.some_inj.mp same))
        · rw [loaded]
          exact fun _ _ => rfl
        · rw [loaded]
          exact others_iff.mpr plain
        · intro again
          refine ⟨_, init_again testnet words choices content again, rfl, ?_⟩
          rw [loaded]
      · exact absurd all present

namespace Sample

def choices : Choices where
  rpcUser := fun _ => (0, 0)
  rpcPassword := fun _ => (0, 0)
  rpcPort := 8331

/-- A file with all of the patched fields, on the test network. -/
def fullFile : Content :=
  .text ("testnet=1\nrpcssl=0\nrpcallowip=127.0.0.1\ngen=0\nserver=1\n" ++
    "rpcuser=Alice7\nrpcpassword=Aa0Aa0Aa0Aa0Aa0Aa0Aa0Aa0Aa0Aa0Aa0Aa0Aa0A\n" ++
    "rpcport=8332\n").toList

/-- A file with one other setting. -/
def aliasFile : Content := .text "alias=a#b\n".toList

end Sample

/-- A change of the network alone is not reported, and a setting with a '#' is
lost. -/
theorem patch_law_fails :
    (∃ config, init 0 [] Sample.choices (some Sample.fullFile) = .ok config ∧
        config.updated = false ∧
        (load Sample.fullFile).head? = some ("testnet".toList, "1".toList) ∧
        config.conf.bind List.head? = some ("testnet".toList, "0".toList)) ∧
      ∃ config written,
        init 0 [] Sample.choices (some Sample.aliasFile) = .ok config ∧
        config.updated = true ∧ config.file = some written ∧
        Fields.values (settings Sample.aliasFile) "alias".toList =
          ["a#b".toList] ∧
        Fields.values (load written) "alias".toList = [] := by
  constructor
  · exact ⟨_, init_of_present 0 [] Sample.choices Sample.fullFile
      (by decide +kernel), rfl, by decide +kernel, by decide +kernel⟩
  · refine ⟨_, _, init_of_missing 0 [] Sample.choices Sample.aliasFile
      (by decide +kernel), rfl, rfl, by decide +kernel, ?_⟩
    rw [load_save_patchedConf]
    decide +kernel

end ConfigFile
end Coinbend
