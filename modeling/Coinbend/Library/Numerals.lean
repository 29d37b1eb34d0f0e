import Coinbend.Library.DigitText

/-!
# Numerals in texts

What Python's `int` reads from a text of ASCII digits, what an interpreter
converts between integers and texts of any characters and length, and lists of
items that are written with a separator after each.
-/

namespace Numerals

/-- `text.strip()`, for a class of white space. -/
def strip (isSpace : Char → Bool) (text : List Char) : List Char :=
  (text.dropWhile isSpace).rdropWhile isSpace

/-- Digits, with single underscores between groups of them. -/
def digitGroups (text : List Char) : Option Nat :=
  let groups := text.splitOn '_'
  if ∀ group ∈ groups, group ≠ [] ∧ group.all Char.isDigit then
    some (Nat.ofDigitChars 10 groups.flatten 0)
  else none

/-- `int(text)`. -/
def readInt (isSpace : Char → Bool) (text : List Char) : Option Int :=
  match strip isSpace text with
  | '-' :: digits => (digitGroups digits).map fun number => -(number : Int)
  | '+' :: digits => (digitGroups digits).map Int.ofNat
  | digits => (digitGroups digits).map Int.ofNat

/-- A text without white space at its ends is not stripped. -/
theorem strip_of_ends
    {isSpace : Char → Bool}
    {text : List Char}
    (first_solid : ∀ first ∈ text.head?, isSpace first = false)
    (last_solid : ∀ last ∈ text.getLast?, isSpace last = false) :
    strip isSpace text = text := by
  have front : text.dropWhile isSpace = text := by
    cases text with
    | nil => rfl
    | cons first text =>
        rw [List.dropWhile_cons, first_solid first rfl]
        rfl
  rw [strip, front, List.rdropWhile_eq_self_iff]
  intro nonempty space
  rw [last_solid _ (List.getLast?_eq_some_getLast nonempty)] at space
  cases space

theorem strip_subset (isSpace : Char → Bool) (text : List Char) :
    strip isSpace text ⊆ text :=
  List.Subset.trans (List.rdropWhile_prefix _ _).subset
    (List.dropWhile_suffix _).subset

/-- The last character of a stripped text is no white space. -/
theorem last_strip
    {isSpace : Char → Bool}
    {text : List Char} :
    ∀ last ∈ (strip isSpace text).getLast?, isSpace last = false := by
  intro last found
  have nonempty : strip isSpace text ≠ [] := by
    rintro empty
    rw [empty] at found
    cases found
  rw [List.getLast?_eq_some_getLast nonempty, Option.mem_some_iff] at found
  rw [← found]
  exact Bool.eq_false_iff.mpr (List.rdropWhile_last_not _ _ nonempty)

theorem strip_of_all
    {isSpace : Char → Bool}
    {text : List Char}
    (solid : ∀ letter ∈ text, isSpace letter = false) :
    strip isSpace text = text := by
  have front : text.dropWhile isSpace = text := by
    cases text with
    | nil => rfl
    | cons first text =>
        rw [List.dropWhile_cons, solid first List.mem_cons_self]
        rfl
  rw [strip, front, List.rdropWhile_eq_self_iff]
  intro nonempty space
  rw [solid _ (List.getLast_mem nonempty)] at space
  cases space

theorem digitGroups_of_digits
    {digits : List Char}
    (nonempty : digits ≠ [])
    (all : DigitText.Digits digits) :
    digitGroups digits = some (DigitText.number digits) := by
  have single : digits.splitOn '_' = [digits] :=
    List.splitOn_eq_singleton (all.notMem rfl)
  have good : ∀ group ∈ [digits], group ≠ [] ∧ group.all Char.isDigit := by
    intro group mem
    rw [List.mem_singleton] at mem
    subst mem
    exact ⟨nonempty, List.all_eq_true.mpr all⟩
  simp only [digitGroups, single, if_pos good, List.flatten_singleton]

section Read

variable {isSpace : Char → Bool}
  (digits_solid : ∀ digit, digit.isDigit = true → isSpace digit = false)
  {digits : List Char} (nonempty : digits ≠ [])
  (all : DigitText.Digits digits)
include digits_solid nonempty all

/-- A text of digits is read as its number. -/
theorem readInt_digits :
    readInt isSpace digits = some (DigitText.number digits : Int) := by
  have solid : ∀ digit ∈ digits, isSpace digit = false :=
    fun digit mem => digits_solid digit (all digit mem)
  rw [readInt, strip_of_all solid]
  split
  next first => exact absurd List.mem_cons_self (all.notMem rfl)
  next first => exact absurd List.mem_cons_self (all.notMem rfl)
  · rw [digitGroups_of_digits nonempty all]
    rfl

/-- A minus sign makes the number negative. -/
theorem readInt_neg (minus_solid : isSpace '-' = false) :
    readInt isSpace ('-' :: digits) =
      some (-(DigitText.number digits : Int)) := by
  have solid : ∀ letter ∈ '-' :: digits, isSpace letter = false := by
    rw [List.forall_mem_cons]
    exact ⟨minus_solid, fun digit mem => digits_solid digit (all digit mem)⟩
  rw [readInt, strip_of_all solid]
  simp only
  rw [digitGroups_of_digits nonempty all]
  rfl

end Read

/-- A printed number is read back. -/
theorem readInt_toDigits
    {isSpace : Char → Bool}
    (digits_solid : ∀ digit, digit.isDigit = true → isSpace digit = false)
    (number : Nat) :
    readInt isSpace (Nat.toDigits 10 number) = some (number : Int) := by
  rw [readInt_digits digits_solid Nat.toDigits_ne_nil
    (DigitText.digits_toDigits number), DigitText.number_toDigits]

/-! ## Interpreters -/

/-- The digits of an integer, after a minus sign if it is negative. -/
def printInt : Int → List Char
  | .ofNat n => Nat.toDigits 10 n
  | .negSucc n => '-' :: Nat.toDigits 10 (n + 1)

/-- ASCII white space. -/
def isBlank (char : Char) : Bool :=
  (9 ≤ char.toNat && char.toNat ≤ 13) || char.toNat == 32

/-- How an interpreter goes between integers and texts. -/
structure Conversion where
  /-- The ASCII character that `int` takes a character for: a digit of any
  script is its digit, white space is a blank. -/
  ascii : Char → Char
  ascii_of_lt : ∀ char : Char, char.toNat < 128 → ascii char = char
  /-- The most digits that are converted, where there is a limit. -/
  maxDigits : Option Nat
  maxDigits_ge : ∀ most ∈ maxDigits, 640 ≤ most

namespace Conversion

/-- An interpreter that takes characters for themselves and has no limit. -/
def plain : Conversion where
  ascii := id
  ascii_of_lt := fun _ _ => rfl
  maxDigits := none
  maxDigits_ge := fun _ absent => absurd absent (Option.not_mem_none _)

variable (conversion : Conversion)

/-- Too many digits to be converted. -/
def tooLong (digits : Nat) : Bool :=
  conversion.maxDigits.any fun most => most < digits

/-- `int(text)`. -/
def readInt (text : List Char) : Option Int :=
  let text := text.map conversion.ascii
  if conversion.tooLong (text.countP Char.isDigit) then none
  else Numerals.readInt isBlank text

/-- An integer has too many digits to be converted. -/
def TooLong (n : Int) : Prop :=
  conversion.tooLong (Nat.toDigits 10 n.natAbs).length = true

instance (n : Int) : Decidable (conversion.TooLong n) :=
  inferInstanceAs (Decidable (_ = _))

/-- `str(n)`. -/
def writeInt (n : Int) : Option (List Char) :=
  if conversion.TooLong n then none else some (printInt n)

variable {conversion}

/-- Up to 640 digits are converted by every interpreter. -/
theorem tooLong_of_le
    {digits : Nat}
    (few : digits ≤ 640) :
    conversion.tooLong digits = false := by
  rw [tooLong, Option.any_eq_false]
  intro most isMost
  have least := conversion.maxDigits_ge most isMost
  simpa using few.trans least

theorem isDigit_lt
    {digit : Char}
    (isDigit : digit.isDigit = true) :
    48 ≤ digit.toNat ∧ digit.toNat ≤ 57 := by
  simp only [Char.isDigit, Bool.and_eq_true, decide_eq_true_eq] at isDigit
  exact ⟨UInt32.le_iff_toNat_le.mp isDigit.1, UInt32.le_iff_toNat_le.mp isDigit.2⟩

theorem isBlank_of_isDigit
    (digit : Char)
    (isDigit : digit.isDigit = true) :
    isBlank digit = false := by
  obtain ⟨low, high⟩ := isDigit_lt isDigit
  unfold isBlank
  simp only [Bool.or_eq_false_iff, Bool.and_eq_false_iff,
    decide_eq_false_iff_not, beq_eq_false_iff_ne]
  omega

theorem map_ascii
    {text : List Char}
    (low : ∀ char ∈ text, char.toNat < 128) :
    text.map conversion.ascii = text := by
  conv_rhs => rw [← List.map_id text]
  exact List.map_congr_left fun char mem => conversion.ascii_of_lt char
    (low char mem)

section Read

variable {digits : List Char} (nonempty : digits ≠ [])
  (all : DigitText.Digits digits)
include all

theorem digits_low : ∀ char ∈ digits, char.toNat < 128 := by
  intro char mem
  have range := isDigit_lt (all char mem)
  omega

theorem countP_digits : digits.countP Char.isDigit = digits.length :=
  List.countP_eq_length.mpr all

include nonempty

/-- A text of digits is read as its number unless it is too long. -/
theorem readInt_digits :
    conversion.readInt digits =
      if conversion.tooLong digits.length then none
      else some (DigitText.number digits : Int) := by
  rw [readInt, map_ascii (digits_low all), countP_digits all,
    Numerals.readInt_digits isBlank_of_isDigit nonempty all]

/-- A minus sign makes the number negative. -/
theorem readInt_neg :
    conversion.readInt ('-' :: digits) =
      if conversion.tooLong digits.length then none
      else some (-(DigitText.number digits : Int)) := by
  have low : ∀ char ∈ '-' :: digits, char.toNat < 128 := by
    rw [List.forall_mem_cons]
    exact ⟨by decide, digits_low all⟩
  have minus : ('-' : Char).isDigit = false := rfl
  rw [readInt, map_ascii low, List.countP_cons_of_neg (by rw [minus]; exact
    Bool.false_ne_true), countP_digits all,
    Numerals.readInt_neg isBlank_of_isDigit nonempty all rfl]

end Read

end Conversion

/-- Items with a separator after each are the non-empty pieces between the
separators. -/
theorem filter_splitOn_flatMap
    {item : Type}
    (separator : Char)
    (print : item → List Char)
    (items : List item)
    (apart : ∀ member ∈ items, separator ∉ print member)
    (nonempty : ∀ member ∈ items, print member ≠ []) :
    ((items.flatMap fun member => print member ++ [separator]).splitOn
        separator).filter (· ≠ []) =
      items.map print := by
  induction items with
  | nil => rfl
  | cons first items inductionHypothesis =>
      rw [List.forall_mem_cons] at apart nonempty
      rw [List.flatMap_cons, List.append_assoc, List.singleton_append,
        List.splitOn_append_cons_self_of_not_mem apart.1, List.filter_cons,
        inductionHypothesis apart.2 nonempty.2, List.map_cons]
      rw [if_pos (by simpa using nonempty.1)]

end Numerals
