import Coinbend.Currency.Reading
import Coinbend.Library.Machine
import Coinbend.Library.Numerals
import Coinbend.Library.Outcome

/-!
# Amounts as mutable objects

A `C` object has attributes that item assignment writes before `update` checks
them.  An assignment that raises keeps what it wrote, and the single-integer
key writes texts, which `update` never accepts.  An integer with more digits
than the interpreter converts raises wherever its text is needed.  Objects stay
amounts exactly in the runs that never assign a value out of range or to the
single-integer key, unless its text is needed before anything is written.
-/

namespace Coinbend

open DigitText (number)
open Numerals (Conversion printInt)

/-- What the attributes `whole` and `dec` can be. -/
inductive Stored
  | int (n : Int)
  | str (text : Text)
  deriving DecidableEq

/-- The attributes of a `C` object. -/
structure CObject where
  whole : Stored
  dec : Stored
  asStr : Text
  asDecimal : ℚ
  limitPrecision : Nat
  deriving DecidableEq

/-- `decimal.Decimal(text)` of digits with a point. -/
def decimalOf (text : Text) : ℚ :=
  let parts := text.splitOn '.'
  C.written (parts.getD 0 [], parts.getD 1 [])

namespace CObject

/-- The attributes before a constructor reads its arguments. -/
def fresh (limitPrecision : Nat) : CObject where
  whole := .int 0
  dec := .int 0
  asStr := ['0', '.', '0']
  asDecimal := 0
  limitPrecision := limitPrecision

section

variable (conversion : Conversion)

/-- `str(n)`. -/
def strInt (n : Int) : Except PyError Text :=
  Except.ofOption .valueError (conversion.writeInt n)

/-- `int(text)`. -/
def intStr (text : Text) : Except PyError Int :=
  Except.ofOption .valueError (conversion.readInt text)

/-- `no_to_str`: the text of two integers, which has to be a number. -/
def noToStr : Stored → Stored → Except PyError Text
  | .str _, _ => .error (.exception "invalid whole number in no to str")
  | .int _, .str _ => .error (.exception "invalid dec number in no to str")
  | .int whole, .int dec => do
      let whole ← strInt conversion whole
      let dec ← strInt conversion dec
      let result := whole ++ '.' :: C.padLeft dec
      let _ ← C.parse result
      return result

/-- `truncate_decimal` with a precision. -/
def truncateDecimal (s : Text) (precision : Nat) : Text :=
  let parts := s.splitOn '.'
  parts.getD 0 [] ++ '.' :: (parts.getD 1 []).take precision

/-- `C.update`. -/
def update (c : CObject) : Outcome CObject PyError Unit :=
  Outcome.attempt c (noToStr conversion c.whole c.dec) fun text =>
    let asStr := truncateDecimal text c.limitPrecision
    Outcome.pure { c with asStr, asDecimal := decimalOf asStr } ()

/-- What a constructor is called with. -/
inductive Argument
  | none
  | str (text : Text)
  | int (n : Int)
  | decimal (q : ℚ)
  | list (items : List Int)
  | pair (whole dec : Int)

/-- The range checks of `number` on two integers. -/
def numberOfInts (whole dec : Int) : Except PyError (Stored × Stored) := do
  Except.raiseIf ((wholeNoLimit : Int) < whole)
    (.exception "Whole number overflow in number")
  Except.raiseIf ((C.decNoLimit : Int) < dec)
    (.exception "Dec number overflow in number")
  return (.int whole, .int dec)

/-- `int(pad_dec_with_zeros(str(n), "right"))`. -/
def paddedInt (n : Int) : Except PyError Int := do
  let text ← strInt conversion n
  intStr conversion (C.padRight text)

/-- The parts of a text have too many digits for `int`. -/
def PartsTooLong (text : Text) : Prop :=
  ∃ parts ∈ C.numberParts text,
    conversion.tooLong parts.1.length = true ∨
      conversion.tooLong parts.2.length = true

instance (text : Text) : Decidable (PartsTooLong conversion text) :=
  inferInstanceAs (Decidable (∃ parts ∈ C.numberParts text, _ ∨ _))

/-- The two numbers a constructor stores. -/
def numberOf : Argument → Except PyError (Stored × Stored)
  | .none => .ok (.int 0, .int 0)
  | .str text => do
      Except.raiseIf (PartsTooLong conversion text) .valueError
      let c ← C.parse text
      return (.int c.whole, .int c.dec)
  | .int n =>
      -- `from_single_int` makes texts, and a text is not compared with a
      -- number.
      if (C.decNoLimit : Int) < n then do
        let _ ← strInt conversion n
        .error .typeError
      else numberOfInts n 0
  | .decimal q => do
      let c ← C.ofDecimal q
      return (.int c.whole, .int c.dec)
  | .list (whole :: dec :: _) => numberOfInts whole dec
  | .list _ => .error (.exception "Invalid type for pieces")
  | .pair whole dec => do
      let dec ← paddedInt conversion dec
      numberOfInts whole dec

/-- `C(...)`. -/
def construct (limitPrecision : Nat) (argument : Argument) :
    Except PyError CObject := do
  let stored ← numberOf conversion argument
  let c := { fresh limitPrecision with whole := stored.1, dec := stored.2 }
  match argument with
  | .none => return fresh limitPrecision
  | _ =>
      let updated := c.update conversion
      let _ ← updated.result
      return updated.state

end

/-- The keys of item assignment. -/
inductive Key
  | whole
  | dec
  | int
  | zero
  | one
  | two
  deriving DecidableEq

/-- The values of item assignment. -/
inductive Value
  | int (n : Int)
  | str (text : Text)

section

variable (conversion : Conversion)

/-- `int(value)`. -/
def Value.toInt : Value → Except PyError Int
  | .int n => .ok n
  | .str text => intStr conversion text

/-- `from_single_int`. -/
def fromSingleInt (n : Int) : Except PyError (Stored × Stored) := do
  let text ← strInt conversion n
  let dec := text.drop (text.length - C.precision)
  if C.precision < text.length then
    return (.str (text.take (text.length - C.precision)), .str dec)
  else return (.int 0, .str dec)

/-- The attributes an assignment writes before `update`. -/
def write (c : CObject) (key : Key) (value : Int) : Except PyError CObject :=
  match key with
  | .whole | .zero => .ok { c with whole := .int value }
  | .dec | .one => do
      let dec ← paddedInt conversion value
      return { c with dec := .int dec }
  | .int | .two => do
      let stored ← fromSingleInt conversion value
      return { c with whole := stored.1, dec := stored.2 }

/-- `c[key] = value`. -/
def setItem (c : CObject) (key : Key) (value : Value) :
    Outcome CObject PyError Unit :=
  Outcome.attempt c (value.toInt conversion) fun value =>
  Outcome.attempt c (c.write conversion key value) fun c =>
    c.update conversion

end

/-- `c["int"]`. -/
def singleInt (c : CObject) : Option Int :=
  match c.whole, c.dec with
  | .int whole, .int dec => some (whole * decBase + dec)
  | _, _ => none

/-- The attributes hold an amount, and its cut text and decimal. -/
structure Holds (object : CObject) (c : C) : Prop where
  whole : object.whole = .int c.whole
  dec : object.dec = .int c.dec
  asStr : decimalOf object.asStr = C.cutTo object.limitPrecision c.toRat
  asDecimal : object.asDecimal = C.cutTo object.limitPrecision c.toRat

/-- The object is an amount: its parts are in range, and what it shows is the
amount cut to its precision. -/
def Valid (object : CObject) : Prop :=
  ∃ c, object.Holds c

end CObject

/-! ## Texts of integers -/

theorem isSpace_of_isDigit
    (digit : Char)
    (isDigit : digit.isDigit = true) :
    isSpace digit = false := by
  simp only [Char.isDigit, Bool.and_eq_true, decide_eq_true_eq] at isDigit
  have low : 48 ≤ digit.toNat := UInt32.le_iff_toNat_le.mp isDigit.1
  have high : digit.toNat ≤ 57 := UInt32.le_iff_toNat_le.mp isDigit.2
  unfold isSpace
  simp only [Bool.or_eq_false_iff, Bool.and_eq_false_iff, decide_eq_false_iff_not,
    beq_eq_false_iff_ne]
  omega

/-- Digits before and after a point are the parts of a number. -/
theorem numberParts_point
    {whole dec : Text}
    (whole_ne : whole ≠ [])
    (dec_ne : dec ≠ [])
    (whole_digits : DigitText.Digits whole)
    (dec_digits : DigitText.Digits dec) :
    C.numberParts (whole ++ '.' :: dec) = some (whole, dec) := by
  rw [C.numberParts]
  simp only [List.takeWhile_append_of_pos whole_digits,
    List.dropWhile_append_of_pos whole_digits]
  have point : ('.' : Char).isDigit = false := rfl
  simp [point, whole_ne, dec_ne, List.takeWhile_eq_self_iff.mpr dec_digits,
    List.dropWhile_eq_nil_iff.mpr dec_digits, C.currencySuffix, endOfText]

/-- A sign before the point is no part of a number. -/
theorem numberParts_minus (text : Text) :
    C.numberParts ('-' :: text) = none := by
  have minus : ('-' : Char).isDigit = false := rfl
  simp [C.numberParts, minus]

/-- A sign after the point is no part of a number. -/
theorem numberParts_point_minus
    {whole zeros : Text}
    (whole_digits : DigitText.Digits whole)
    (zeros_digits : DigitText.Digits zeros)
    (text : Text) :
    C.numberParts (whole ++ '.' :: (zeros ++ '-' :: text)) = none := by
  have point : ('.' : Char).isDigit = false := rfl
  have minus : ('-' : Char).isDigit = false := rfl
  have no_suffix : C.currencySuffix ('-' :: text) = false := by
    have no_space : isSpace '-' = false := by decide
    have no_letter : ('-' : Char).isAlpha = false := rfl
    simp [C.currencySuffix, endOfText, no_space, no_letter]
  rw [C.numberParts]
  simp only [List.takeWhile_append_of_pos whole_digits,
    List.dropWhile_append_of_pos whole_digits]
  simp [point, minus, List.takeWhile_append_of_pos zeros_digits,
    List.dropWhile_append_of_pos zeros_digits, no_suffix]

theorem parse_ne_ok
    {text : Text}
    (missing : C.numberParts text = none)
    (c : C) :
    C.parse text ≠ .ok c := by
  rw [C.parse, missing]
  exact Except.ok_ne_error.symm

variable {conversion : Conversion}

/-- The text of an integer, where it is converted. -/
theorem strInt_eq_ok_iff (n : Int) (text : Text) :
    CObject.strInt conversion n = .ok text ↔
      ¬conversion.TooLong n ∧ printInt n = text := by
  unfold CObject.strInt Conversion.writeInt
  split
  next long => simp [Except.ofOption, long]
  next short => simp [Except.ofOption, short]

/-- Integers of up to forty digits are converted. -/
theorem not_tooLong_of_lt
    {n : Nat}
    (lt : n < 10 ^ 40) :
    ¬conversion.TooLong (n : Int) := by
  have few : (Nat.toDigits 10 n).length ≤ 40 :=
    (Nat.length_toDigits_le_iff (by decide) (by decide)).mpr lt
  intro long
  rw [Conversion.TooLong, Int.natAbs_natCast,
    Conversion.tooLong_of_le (few.trans (by decide))] at long
  cases long

theorem strInt_natCast
    {n : Nat}
    (lt : n < 10 ^ 40) :
    CObject.strInt conversion (n : Int) = .ok (Nat.toDigits 10 n) :=
  (strInt_eq_ok_iff _ _).mpr ⟨not_tooLong_of_lt lt, rfl⟩

theorem padLeft_digits (n : Nat) :
    DigitText.Digits (C.padLeft (Nat.toDigits 10 n)) :=
  (DigitText.digits_replicate_zero _).append (DigitText.digits_toDigits n)

theorem padLeft_ne_nil (n : Nat) : C.padLeft (Nat.toDigits 10 n) ≠ [] := by
  unfold C.padLeft
  exact List.append_ne_nil_of_right_ne_nil _ Nat.toDigits_ne_nil

/-- Reading the text of two numbers checks their range. -/
theorem parse_noToStr_iff (whole dec : Nat) (c : C) :
    C.parse (C.noToStr whole dec) = .ok c ↔ c.whole = whole ∧ c.dec = dec := by
  have parts := numberParts_point Nat.toDigits_ne_nil (padLeft_ne_nil dec)
    (DigitText.digits_toDigits whole) (padLeft_digits dec)
  rw [C.noToStr, C.parse_eq_ok_iff parts]
  have long : C.precision ≤ (C.padLeft (Nat.toDigits 10 dec)).length := by
    simp only [C.padLeft, List.length_append, List.length_replicate]
    omega
  have value : number (C.padLeft (Nat.toDigits 10 dec)) = dec := by
    rw [C.padLeft, DigitText.number_zeros_append, DigitText.number_toDigits]
  simp only [DigitText.number_toDigits, value, Nat.sub_eq_zero_of_le long,
    Nat.pow_zero, Nat.mul_one]

/-- Sixteen decimals cut to fewer, or filled up to more, are the amount cut to
that many. -/
theorem decimalOf_truncateDecimal (c : C) (places : Nat) :
    decimalOf (CObject.truncateDecimal (C.noToStr c.whole c.dec) places) =
      C.cutTo places c.toRat := by
  obtain ⟨digits, length, value⟩ := c.decimals_spec
  have halves : (C.noToStr c.whole c.dec).splitOn '.' =
      [Nat.toDigits 10 c.whole, C.padLeft (Nat.toDigits 10 c.dec)] :=
    C.splitOn_point (DigitText.digits_toDigits _) digits
  have again : (CObject.truncateDecimal (C.noToStr c.whole c.dec)
      places).splitOn '.' =
        [Nat.toDigits 10 c.whole,
          (C.padLeft (Nat.toDigits 10 c.dec)).take places] := by
    simp only [CObject.truncateDecimal, halves]
    exact C.splitOn_point (DigitText.digits_toDigits _)
      (digits.of_subset (List.take_subset _ _))
  have units : c.toRat * 10 ^ places =
      (c.whole * 10 ^ places : ℕ) + (c.dec * 10 ^ places : ℕ) /
        (10 ^ C.precision : ℕ) := by
    rw [C.toRat]
    push_cast
    ring
  have floor : ⌊c.toRat * 10 ^ places⌋ =
      ((c.whole * 10 ^ places + c.dec * 10 ^ places / 10 ^ C.precision : ℕ)
        : ℤ) := by
    rw [units]
    have cut := Rat.floor_natCast_div_natCast (c.dec * 10 ^ places)
      (10 ^ C.precision)
    rw [← Int.cast_natCast (c.whole * 10 ^ places), Int.floor_intCast_add, cut]
    push_cast
    rfl
  have cut : number ((C.padLeft (Nat.toDigits 10 c.dec)).take places) *
        10 ^ places =
      c.dec * 10 ^ places / 10 ^ C.precision *
        10 ^ ((C.padLeft (Nat.toDigits 10 c.dec)).take places).length := by
    rw [List.length_take, length]
    rcases Nat.le_total places C.precision with fewer | more
    · have slices := (@DigitText.number_slices _ digits (C.precision - places)
        (by rw [length]; exact Nat.sub_le _ _)).1
      rw [length, Nat.sub_sub_self fewer, value] at slices
      have scale : 10 ^ C.precision =
          10 ^ (C.precision - places) * 10 ^ places := by
        rw [← Nat.pow_add, Nat.sub_add_cancel fewer]
      rw [slices, Nat.min_eq_left fewer, scale,
        Nat.mul_div_mul_right _ _ (Nat.pow_pos (by decide))]
    · have scale : 10 ^ places =
          10 ^ (places - C.precision) * 10 ^ C.precision := by
        rw [← Nat.pow_add, Nat.sub_add_cancel more]
      rw [List.take_of_length_le (by rw [length]; exact more), value,
        Nat.min_eq_right more, scale, ← Nat.mul_assoc,
        Nat.mul_div_cancel _ (Nat.pow_pos (by decide))]
  rw [decimalOf, again, C.cutTo, floor]
  simp only [C.written, List.getD_cons_zero, List.getD_cons_succ,
    DigitText.number_toDigits]
  rw [eq_div_iff (by positivity), add_mul, div_mul_eq_mul_div]
  have cutCast : (number ((C.padLeft (Nat.toDigits 10 c.dec)).take places) : ℚ) *
        10 ^ places =
      ((c.dec * 10 ^ places / 10 ^ C.precision : ℕ) : ℚ) *
        10 ^ ((C.padLeft (Nat.toDigits 10 c.dec)).take places).length := by
    exact_mod_cast cut
  rw [cutCast, mul_div_cancel_right₀ _ (by positivity), Int.cast_natCast]
  push_cast
  ring

/-- Digits filled up with zeros are converted when the digits are. -/
theorem not_tooLong_append_zeros
    {digits : Text}
    {zeros : Nat}
    (short : conversion.tooLong digits.length = false)
    (fills : zeros ≤ C.precision - digits.length) :
    ¬conversion.tooLong (digits ++ List.replicate zeros '0').length = true := by
  rw [Bool.not_eq_true, List.length_append, List.length_replicate]
  rcases Nat.le_total digits.length C.precision with few | many
  · refine Conversion.tooLong_of_le (Nat.le_trans ?_
      (by decide : C.precision ≤ 640))
    omega
  · rw [Nat.sub_eq_zero_of_le many, Nat.le_zero] at fills
    rw [fills]
    exact short

namespace CObject

/-- The digits of a natural number are filled up on the right. -/
theorem paddedInt_natCast
    {n : Nat}
    (short : ¬conversion.TooLong (n : Int)) :
    paddedInt conversion (n : Int) = .ok (C.paddedDec (Nat.toDigits 10 n) : Int) := by
  have text : strInt conversion n = .ok (Nat.toDigits 10 n) :=
    (strInt_eq_ok_iff _ _).mpr ⟨short, rfl⟩
  have digits : DigitText.Digits (C.padRight (Nat.toDigits 10 n)) :=
    (DigitText.digits_toDigits n).append (DigitText.digits_replicate_zero _)
  have nonempty : C.padRight (Nat.toDigits 10 n) ≠ [] :=
    List.append_ne_nil_of_left_ne_nil Nat.toDigits_ne_nil _
  have converted :
      ¬conversion.tooLong (C.padRight (Nat.toDigits 10 n)).length = true := by
    unfold Conversion.TooLong at short
    rw [Bool.not_eq_true, Int.natAbs_natCast] at short
    exact not_tooLong_append_zeros short le_rfl
  rw [paddedInt, Except.bind_of_eq_ok text, intStr,
    Conversion.readInt_digits nonempty digits, if_neg converted]
  rfl

/-! ## Updates -/

/-- Only the two parts of an amount have a text. -/
theorem noToStr_eq_ok_iff (whole dec : Stored) (text : Text) :
    noToStr conversion whole dec = .ok text ↔
      ∃ c : C, whole = .int c.whole ∧ dec = .int c.dec ∧
        text = C.noToStr c.whole c.dec := by
  constructor
  · intro found
    unfold noToStr at found
    split at found
    · cases found
    · cases found
    next whole dec =>
      simp only [Except.bind_eq_ok_iff, strInt_eq_ok_iff] at found
      obtain ⟨_, ⟨_, rfl⟩, _, ⟨_, rfl⟩, c, parsed, returned⟩ := found
      rw [Except.pure_eq_ok_iff] at returned
      subst returned
      cases whole with
      | negSucc n =>
          exact absurd parsed (parse_ne_ok (numberParts_minus _) c)
      | ofNat whole =>
          cases dec with
          | negSucc n =>
              exact absurd parsed (parse_ne_ok (numberParts_point_minus
                (DigitText.digits_toDigits whole)
                (DigitText.digits_replicate_zero _) _) c)
          | ofNat dec =>
              obtain ⟨rfl, rfl⟩ := (parse_noToStr_iff whole dec c).mp parsed
              exact ⟨c, rfl, rfl, rfl⟩
  · rintro ⟨c, rfl, rfl, rfl⟩
    have parsed := (parse_noToStr_iff c.whole c.dec c).mpr ⟨rfl, rfl⟩
    have whole_lt : c.whole < 10 ^ 40 :=
      Nat.lt_of_le_of_lt c.whole_le (by norm_num [wholeNoLimit])
    have dec_lt : c.dec < 10 ^ 40 :=
      Nat.lt_trans c.dec_lt (by norm_num [decBase])
    rw [noToStr, Except.bind_of_eq_ok (strInt_natCast whole_lt),
      Except.bind_of_eq_ok (strInt_natCast dec_lt)]
    exact Except.bind_of_eq_ok parsed _

/-- An update either shows the amount, or raises and leaves the object alone
because its parts are no amount. -/
theorem update_cases (object : CObject) :
    (∃ c : C, object.whole = .int c.whole ∧ object.dec = .int c.dec ∧
        (object.update conversion).result = .ok () ∧ (object.update conversion).state.Holds c ∧
        (object.update conversion).state.limitPrecision = object.limitPrecision) ∨
      (¬∃ c : C, object.whole = .int c.whole ∧ object.dec = .int c.dec) ∧
        (∃ error, (object.update conversion).result = .error error) ∧
        (object.update conversion).state = object := by
  cases found : noToStr conversion object.whole object.dec with
  | ok text =>
      left
      obtain ⟨c, whole, dec, rfl⟩ := (noToStr_eq_ok_iff _ _ _).mp found
      refine ⟨c, whole, dec, ?_, ?_, ?_⟩
      · rw [update, found]
        rfl
      · rw [update, found]
        have shown := decimalOf_truncateDecimal c object.limitPrecision
        exact ⟨whole, dec, shown, shown⟩
      · rw [update, found]
        rfl
  | error error =>
      right
      refine ⟨?_, ⟨error, ?_⟩, ?_⟩
      · rintro ⟨c, whole, dec⟩
        have succeeded := (@noToStr_eq_ok_iff conversion object.whole
          object.dec _).mpr ⟨c, whole, dec, rfl⟩
        rw [found] at succeeded
        cases succeeded
      · rw [update, found]
        rfl
      · rw [update, found]
        rfl

end CObject
end Coinbend
