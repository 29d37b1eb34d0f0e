import Coinbend.Coins.UsernameComplexity
import Coinbend.Library.Fields
import Coinbend.Library.Numerals
import Coinbend.Library.Words

/-!
# The configuration of a coin

`CoinConfig` of `coin_config.py` loads the settings of a coin client, patches
them and saves the file again.  Whether anything changed is found by comparing
a list with a copy of it that shares its entries, and loading leaves out every
line with a '#'.
-/

namespace Coinbend
namespace ConfigFile

/-- The name and the value of a setting. -/
abbrev Setting := Text × Text

/-- What a file holds: a text in the encoding of the system, or bytes that are
none, each of them standing for a character. -/
inductive Content
  | text (content : Text)
  | bytes (content : Text)
  deriving DecidableEq

/-- The fields of a `CoinConfig`, and the file it leaves behind. -/
structure CoinConfig where
  conf : Option (List Setting)
  updated : Bool
  file : Option Content

/-! ## Loading and saving -/

/-- `re.match` of `([a-zA-Z0-9]+)=([\s\S]+)`. -/
def readSetting (line : Text) : Option Setting :=
  match line.dropWhile Char.isAlphanum with
  | '=' :: value =>
      let name := line.takeWhile Char.isAlphanum
      if name = [] ∨ value = [] then none else some (name, value)
  | _ => none

/-- The setting that is loaded from a line. -/
def readLine (line : Text) : Option Setting :=
  let line := Numerals.strip isSpace line
  if '#' ∈ line then none
  else if '=' ∉ line then none
  else readSetting line

/-- The text of a file opened in text mode. -/
def universalNewlines : Text → Text
  | '\r' :: '\n' :: text => '\n' :: universalNewlines text
  | '\r' :: text => '\n' :: universalNewlines text
  | char :: text => char :: universalNewlines text
  | [] => []

/-- `fp.readlines()`. -/
def lines (content : Text) : List Text :=
  (universalNewlines content).splitOn '\n'

def loadText (content : Text) : List Setting :=
  (lines content).filterMap readLine

/-- `load`.  Bytes that cannot be decoded are caught after the list was
emptied. -/
def load : Content → List Setting
  | .text content => loadText content
  | .bytes _ => []

/-! ## What a file sets -/

/-- A line without the white space around it and the setting in it, whatever
its characters are: a name before the first '=' and a value after it.  A '#' at
the start makes a line a comment. -/
def settingLine (line : Text) : Option (Text × Setting) :=
  let line := Numerals.strip isSpace line
  let name := Numerals.strip isSpace (line.takeWhile (· ≠ '='))
  match line.dropWhile (· ≠ '=') with
  | _ :: value =>
      if line.head? = some '#' ∨ name = [] then none
      else some (line, (name, value))
  | [] => none

/-- The lines of a file with a setting. -/
def settingLines : Content → List (Text × Setting)
  | .text content | .bytes content => (lines content).filterMap settingLine

/-- The settings of a file. -/
def settings (content : Content) : List Setting :=
  (settingLines content).map Prod.snd

/-- A line that loading keeps as it is: letters and digits before the '=', and
something without a '#' after it. -/
def Loads (entry : Text × Setting) : Prop :=
  entry.1 = entry.2.1 ++ '=' :: entry.2.2 ∧
    (∀ char ∈ entry.2.1, char.isAlphanum = true) ∧
    entry.2.2 ≠ [] ∧ '#' ∉ entry.2.2

instance (entry : Text × Setting) : Decidable (Loads entry) :=
  inferInstanceAs (Decidable (_ ∧ _))

/-- What `save_changes` writes. -/
def save (conf : List Setting) : Text :=
  conf.flatMap fun field => field.1 ++ '=' :: field.2 ++ ['\n', '\n']

/-! ## Patching -/

def setField
    (conf : List Setting)
    (name value : Text)
    (oldValue : Option Text) : List Setting :=
  let isSet := fun lookup : Setting =>
    decide (lookup.1 = name ∧ (oldValue = none ∨ oldValue = some lookup.2))
  if conf.any isSet then
    conf.map fun lookup => if isSet lookup then (name, value) else lookup
  else conf ++ [(name, value)]

def getField (conf : List Setting) (name : Text) : Option Text :=
  Fields.get? conf name

/-- The random choices of one patch. -/
structure Choices where
  rpcUser : ℕ → ℕ × ℕ
  rpcPassword : ℕ → ℕ × ℕ
  rpcPort : ℕ

def requirements : List String := ["uppercase", "lowercase", "numeric"]

def rpcUserPolicy : PasswordComplexity :=
  ⟨requirements, 15, by decide, by decide⟩

def rpcPasswordPolicy : PasswordComplexity :=
  ⟨requirements, 40, by decide, by decide⟩

/-- Set a field to a generated value. -/
def setGenerated
    (conf : List Setting)
    (name : Text)
    (pc : PasswordComplexity)
    (random : ℕ → ℕ × ℕ) : Except PyError (List Setting) := do
  let value ← pc.generatePassword random
  return setField conf name value none

/-- A field that is generated unless it has a valid value. -/
def patchSecret
    (conf : List Setting)
    (name : Text)
    (isValid : Text → Except PyError Bool)
    (pc : PasswordComplexity)
    (random : ℕ → ℕ × ℕ) : Except PyError (List Setting) :=
  match getField conf name with
  | none => setGenerated conf name pc random
  | some value => do
      let valid ← isValid value
      if valid then .ok conf else setGenerated conf name pc random

/-- `patch` of a loaded configuration.  The loop over the ports of the other
coins always ends after its first random port. -/
def patch
    (testnet : ℕ)
    (words : List Text)
    (choices : Choices)
    (conf : List Setting) : Except PyError (List Setting) := do
  let conf := setField conf "testnet".toList (Nat.toDigits 10 testnet) none
  let conf := setField conf "rpcssl".toList "0".toList none
  let conf := setField conf "rpcallowip".toList "127.0.0.1".toList none
  let conf := setField conf "gen".toList "0".toList none
  let conf := setField conf "server".toList "1".toList none
  let conf ← patchSecret conf "rpcuser".toList
    (fun rpcUser => .ok (UsernameComplexity.isValid rpcUser))
    rpcUserPolicy choices.rpcUser
  let conf ← patchSecret conf "rpcpassword".toList
    (rpcPasswordPolicy.isValid words) rpcPasswordPolicy choices.rpcPassword
  return if getField conf "rpcport".toList = none then
      setField conf "rpcport".toList
        (Nat.toDigits 10 (1 + choices.rpcPort % 65534)) none
    else conf

/-- The constructor.  The copy of the configuration that is compared with it
shares its entries, so only entries that were added make a difference. -/
def init
    (testnet : ℕ)
    (words : List Text)
    (choices : Choices)
    (file : Option Content) : Except PyError CoinConfig :=
  match file with
  | none => .ok ⟨none, false, none⟩
  | some content => do
      let conf ← patch testnet words choices (load content)
      let updated := decide (conf.length ≠ (load content).length)
      return ⟨some conf, updated,
        some (if updated then .text (save conf) else content)⟩

/-! ## A saved file is loaded again -/

theorem isSpace_of_isAlphanum
    {char : Char}
    (alphanumeric : char.isAlphanum = true) :
    isSpace char = false := by
  have bounds : 48 ≤ char.toNat ∧ char.toNat ≤ 122 := by
    unfold Char.isAlphanum Char.isAlpha Char.isUpper Char.isLower
      Char.isDigit at alphanumeric
    simp only [Bool.or_eq_true, Bool.and_eq_true, decide_eq_true_eq]
      at alphanumeric
    rcases alphanumeric with (⟨low, high⟩ | ⟨low, high⟩) | ⟨low, high⟩
    · have above : 65 ≤ char.toNat := UInt32.le_iff_toNat_le.mp low
      have below : char.toNat ≤ 90 := UInt32.le_iff_toNat_le.mp high
      omega
    · have above : 97 ≤ char.toNat := UInt32.le_iff_toNat_le.mp low
      have below : char.toNat ≤ 122 := UInt32.le_iff_toNat_le.mp high
      omega
    · have above : 48 ≤ char.toNat := UInt32.le_iff_toNat_le.mp low
      have below : char.toNat ≤ 57 := UInt32.le_iff_toNat_le.mp high
      omega
  unfold isSpace
  simp only [Bool.or_eq_false_iff, Bool.and_eq_false_iff,
    decide_eq_false_iff_not, beq_eq_false_iff_ne]
  omega

/-- A setting that is read as it is written. -/
structure Clean (field : Setting) : Prop where
  name_ne : field.1 ≠ []
  name_alphanum : ∀ char ∈ field.1, char.isAlphanum = true
  value_ne : field.2 ≠ []
  value_plain : ∀ char ∈ field.2, char ≠ '\n' ∧ char ≠ '\r' ∧ char ≠ '#'
  value_end : ∀ last ∈ field.2.getLast?, isSpace last = false

/-- The line of a setting. -/
def line (field : Setting) : Text :=
  field.1 ++ '=' :: field.2

theorem getLast?_line
    {field : Setting}
    (value_ne : field.2 ≠ []) :
    (line field).getLast? = field.2.getLast? := by
  rw [line, List.getLast?_append, List.getLast?_cons_of_ne_nil value_ne,
    List.getLast?_eq_some_getLast value_ne]
  rfl

theorem takeWhile_name
    {name : Text}
    (alphanum : ∀ char ∈ name, char.isAlphanum = true)
    (value : Text) :
    (name ++ '=' :: value).takeWhile Char.isAlphanum = name ∧
      (name ++ '=' :: value).dropWhile Char.isAlphanum = '=' :: value := by
  constructor
  · rw [List.takeWhile_append_of_pos alphanum, List.takeWhile_cons_of_neg
      (by decide), List.append_nil]
  · rw [List.dropWhile_append_of_pos alphanum, List.dropWhile_cons_of_neg
      (by decide)]

theorem readSetting_line
    {field : Setting}
    (name_ne : field.1 ≠ [])
    (name_alphanum : ∀ char ∈ field.1, char.isAlphanum = true)
    (value_ne : field.2 ≠ []) :
    readSetting (line field) = some field := by
  obtain ⟨name, rest⟩ := takeWhile_name name_alphanum field.2
  unfold readSetting line
  rw [rest]
  simp only [name, name_ne, value_ne, or_self, if_false]

/-- What a setting was read from. -/
theorem readSetting_eq_some
    {text : Text}
    {field : Setting}
    (read : readSetting text = some field) :
    text = line field ∧ field.1 ≠ [] ∧
      (∀ char ∈ field.1, char.isAlphanum = true) ∧ field.2 ≠ [] := by
  unfold readSetting at read
  split at read
  next value rest =>
    simp only [Option.ite_none_left_eq_some, not_or, Option.some_inj] at read
    obtain ⟨⟨name_ne, value_ne⟩, rfl⟩ := read
    refine ⟨?_, name_ne, fun _ => List.mem_takeWhile_imp, value_ne⟩
    rw [line, ← rest, List.takeWhile_append_dropWhile]
  next => cases read

theorem Clean.notMem_line
    {field : Setting}
    (clean : Clean field)
    {char : Char}
    (special : char = '\n' ∨ char = '\r' ∨ char = '#') :
    char ∉ line field := by
  intro listed
  rcases List.mem_append.mp listed with name | rest
  · have alphanum := clean.name_alphanum char name
    rcases special with rfl | rfl | rfl <;> cases alphanum
  · rcases List.mem_cons.mp rest with rfl | value
    · revert special
      decide
    · obtain ⟨newline, carriage, sharp⟩ := clean.value_plain char value
      rcases special with rfl | rfl | rfl
      · exact newline rfl
      · exact carriage rfl
      · exact sharp rfl

theorem Clean.readLine_line
    {field : Setting}
    (clean : Clean field) :
    readLine (line field) = some field := by
  have stripped : Numerals.strip isSpace (line field) = line field := by
    apply Numerals.strip_of_ends
    · intro first found
      rw [line, List.head?_append_of_ne_nil _ clean.name_ne] at found
      exact isSpace_of_isAlphanum
        (clean.name_alphanum first (List.mem_of_head? found))
    · intro last found
      rw [getLast?_line clean.value_ne] at found
      exact clean.value_end last found
  have equals : '=' ∈ line field :=
    List.mem_append_right _ List.mem_cons_self
  unfold readLine
  rw [stripped, if_neg (clean.notMem_line (Or.inr (Or.inr rfl))),
    if_neg (not_not_intro equals),
    readSetting_line clean.name_ne clean.name_alphanum clean.value_ne]

/-! ## Lines -/

theorem universalNewlines_of_plain
    {text : Text}
    (plain : '\r' ∉ text) :
    universalNewlines text = text := by
  induction text with
  | nil => rfl
  | cons char text hypothesis =>
      rw [List.mem_cons, not_or] at plain
      have same : universalNewlines (char :: text) =
          char :: universalNewlines text := by
        rw [universalNewlines]
        · rintro _ rfl
          exact absurd rfl plain.1
        · rintro rfl
          exact absurd rfl plain.1
      rw [same, hypothesis plain.2]

theorem notMem_universalNewlines (text : Text) :
    '\r' ∉ universalNewlines text := by
  induction text using universalNewlines.induct with
  | case1 text hypothesis =>
      rw [universalNewlines]
      exact List.not_mem_cons_of_ne_of_not_mem (by decide) hypothesis
  | case2 text other hypothesis =>
      rw [universalNewlines]
      · exact List.not_mem_cons_of_ne_of_not_mem (by decide) hypothesis
      · exact other
  | case3 char text other notCarriage hypothesis =>
      rw [universalNewlines]
      · refine List.not_mem_cons_of_ne_of_not_mem ?_ hypothesis
        rintro rfl
        exact notCarriage rfl
      · exact other
      · exact notCarriage
  | case4 => exact List.not_mem_nil

theorem save_cons (field : Setting) (conf : List Setting) :
    save (field :: conf) = line field ++ '\n' :: '\n' :: save conf := by
  simp [save, line]

theorem notMem_save
    {conf : List Setting}
    (clean : ∀ field ∈ conf, Clean field) :
    '\r' ∉ save conf := by
  induction conf with
  | nil => exact List.not_mem_nil
  | cons field conf hypothesis =>
      rw [List.forall_mem_cons] at clean
      rw [save_cons, List.mem_append, List.mem_cons, List.mem_cons]
      rintro (first | impossible | impossible | later)
      · exact clean.1.notMem_line (Or.inr (Or.inl rfl)) first
      · revert impossible
        decide
      · revert impossible
        decide
      · exact hypothesis clean.2 later

/-- What is saved is loaded again. -/
theorem load_save
    {conf : List Setting}
    (clean : ∀ field ∈ conf, Clean field) :
    loadText (save conf) = conf := by
  have plain := universalNewlines_of_plain (notMem_save clean)
  rw [loadText, lines, plain]
  clear plain
  induction conf with
  | nil => rfl
  | cons field conf hypothesis =>
      rw [List.forall_mem_cons] at clean
      rw [save_cons, List.splitOn_append_cons_self_of_not_mem
          (clean.1.notMem_line (Or.inl rfl)),
        List.filterMap_cons_some clean.1.readLine_line]
      have empty : ('\n' :: save conf).splitOn '\n' =
          [] :: (save conf).splitOn '\n' :=
        List.splitOn_append_cons_self_of_not_mem List.not_mem_nil (save conf)
      rw [empty, List.filterMap_cons_none rfl, hypothesis clean.2]

theorem plain_of_mem_lines
    {content text : Text}
    (listed : text ∈ lines content) :
    '\n' ∉ text ∧ '\r' ∉ text := by
  rw [lines, List.splitOn_eq_splitOnP] at listed
  obtain ⟨solid, subset⟩ := Words.solid_of_mem_splitOnP listed
  constructor
  · intro newline
    have impossible := solid _ newline
    cases impossible
  · intro carriage
    exact notMem_universalNewlines content (subset carriage)

/-- What a line is loaded from. -/
theorem readLine_eq_some_iff
    {text : Text}
    {field : Setting} :
    readLine text = some field ↔
      Numerals.strip isSpace text = line field ∧ field.1 ≠ [] ∧
        (∀ char ∈ field.1, char.isAlphanum = true) ∧ field.2 ≠ [] ∧
        '#' ∉ field.2 := by
  have sharp : (∀ char ∈ field.1, char.isAlphanum = true) →
      ('#' ∈ line field ↔ '#' ∈ field.2) := by
    intro alphanum
    rw [line, List.mem_append, List.mem_cons]
    constructor
    · rintro (name | impossible | value)
      · exact absurd (alphanum _ name) (by decide)
      · exact absurd impossible (by decide)
      · exact value
    · exact fun value => Or.inr (Or.inr value)
  unfold readLine
  simp only [Option.ite_none_left_eq_some, not_not]
  constructor
  · rintro ⟨uncommented, -, read⟩
    obtain ⟨stripped, name_ne, alphanum, value_ne⟩ := readSetting_eq_some read
    rw [stripped, sharp alphanum] at uncommented
    exact ⟨stripped, name_ne, alphanum, value_ne, uncommented⟩
  · rintro ⟨stripped, name_ne, alphanum, value_ne, uncommented⟩
    rw [stripped, sharp alphanum]
    exact ⟨uncommented, List.mem_append_right _ List.mem_cons_self,
      readSetting_line name_ne alphanum value_ne⟩

theorem clean_of_load
    {content : Content} :
    ∀ field ∈ load content, Clean field := by
  intro field listed
  cases content with
  | bytes _ => cases listed
  | text content =>
      obtain ⟨text, text_listed, read⟩ := List.mem_filterMap.mp listed
      obtain ⟨newline, carriage⟩ := plain_of_mem_lines text_listed
      obtain ⟨stripped, name_ne, alphanum, value_ne, uncommented⟩ :=
        readLine_eq_some_iff.mp read
      have subset : field.2 ⊆ text := by
        intro char member
        apply Numerals.strip_subset isSpace text
        rw [stripped]
        exact List.mem_append_right _ (List.mem_cons_of_mem _ member)
      refine ⟨name_ne, alphanum, value_ne, ?_, ?_⟩
      · intro char member
        refine ⟨?_, ?_, ?_⟩
        · rintro rfl
          exact newline (subset member)
        · rintro rfl
          exact carriage (subset member)
        · rintro rfl
          exact uncommented member
      · intro last found
        rw [← getLast?_line value_ne, ← stripped] at found
        exact Numerals.last_strip last found

/-- Letters and digits before the '=' are a name. -/
theorem settingLine_of_line
    {text : Text}
    {field : Setting}
    (stripped : Numerals.strip isSpace text = line field)
    (name_ne : field.1 ≠ [])
    (alphanum : ∀ char ∈ field.1, char.isAlphanum = true) :
    settingLine text = some (line field, field) := by
  have unequal : ∀ char ∈ field.1, decide (char ≠ '=') = true := by
    intro char member
    refine decide_eq_true ?_
    rintro rfl
    exact absurd (alphanum _ member) (by decide)
  have before : (line field).takeWhile (· ≠ '=') = field.1 := by
    rw [line, List.takeWhile_append_of_pos unequal,
      List.takeWhile_cons_of_neg (by decide), List.append_nil]
  have after : (line field).dropWhile (· ≠ '=') = '=' :: field.2 := by
    rw [line, List.dropWhile_append_of_pos unequal,
      List.dropWhile_cons_of_neg (by decide)]
  have name : Numerals.strip isSpace field.1 = field.1 :=
    Numerals.strip_of_all fun char member =>
      isSpace_of_isAlphanum (alphanum char member)
  have first : (line field).head? ≠ some '#' := by
    rw [line, List.head?_append_of_ne_nil _ name_ne]
    intro found
    exact absurd (alphanum _ (List.mem_of_head? found)) (by decide)
  unfold settingLine
  simp only [stripped, before, after, name]
  rw [if_neg (not_or.mpr ⟨first, name_ne⟩)]

/-- A setting has a name, and its line no white space around it. -/
theorem settingLine_eq_some
    {text : Text}
    {entry : Text × Setting}
    (set : settingLine text = some entry) :
    entry.1 = Numerals.strip isSpace text ∧ entry.2.1 ≠ [] := by
  unfold settingLine at set
  simp only at set
  split at set
  · simp only [Option.ite_none_left_eq_some, Option.some_inj] at set
    obtain ⟨both, rfl⟩ := set
    exact ⟨rfl, fun empty => both (Or.inr empty)⟩
  · cases set

/-- A line is loaded when loading keeps its setting. -/
theorem readLine_eq (text : Text) :
    readLine text =
      ((settingLine text).filter fun entry => Loads entry).map Prod.snd := by
  apply Option.ext
  intro field
  rw [readLine_eq_some_iff, Option.map_eq_some_iff]
  constructor
  · rintro ⟨stripped, name_ne, alphanum, value_ne, uncommented⟩
    refine ⟨(line field, field), Option.filter_eq_some_iff.mpr
      ⟨settingLine_of_line stripped name_ne alphanum, ?_⟩, rfl⟩
    exact decide_eq_true ⟨rfl, alphanum, value_ne, uncommented⟩
  · rintro ⟨entry, found, rfl⟩
    obtain ⟨set, loads⟩ := Option.filter_eq_some_iff.mp found
    obtain ⟨same, alphanum, value_ne, uncommented⟩ := of_decide_eq_true loads
    obtain ⟨stripped, name_ne⟩ := settingLine_eq_some set
    exact ⟨stripped.symm.trans same, name_ne, alphanum, value_ne, uncommented⟩

/-- The settings that loading keeps are loaded. -/
theorem loadText_eq_filter (content : Text) :
    loadText content =
      ((settingLines (.text content)).filter fun entry => Loads entry).map
        Prod.snd := by
  rw [loadText, settingLines, List.filter_filterMap, List.map_filterMap]
  apply List.filterMap_congr
  intro text _
  exact readLine_eq text

end ConfigFile
end Coinbend
