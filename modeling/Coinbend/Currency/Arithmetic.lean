import Coinbend.Currency.Text
import Coinbend.Library.DigitText
import Coinbend.Library.Raising

/-!
# Arithmetic on digit strings

`C.math` computes on the two stored integers and, where digits move between
them, on their decimal texts: a carry is cut off the text of a sum, and a
product is taken of the operands' digits without their points.  The results
are exact, and a result that leaves the range raises.
-/

namespace Coinbend
namespace C

open DigitText (number)

/-- `C.dec_no_limit`. -/
def decNoLimit : Nat := 9999999999999999

/-- `pad_dec_with_zeros(digits, "left")`. -/
def padLeft (digits : Text) : Text :=
  List.replicate (precision - digits.length) '0' ++ digits

/-- `pad_dec_with_zeros(digits, "right")`. -/
def padRight (digits : Text) : Text :=
  digits ++ List.replicate (precision - digits.length) '0'

/-- `C.no_to_str`. -/
def noToStr (whole dec : Nat) : Text :=
  Nat.toDigits 10 whole ++ '.' :: padLeft (Nat.toDigits 10 dec)

/-- `C.truncate_decimal` without a precision. -/
def truncateDecimal (s : Text) : Text :=
  let parts := s.splitOn '.'
  let whole := parts.getD 0 []
  let dec := if parts.length = 1 then padLeft ['0'] else parts.getD 1 []
  let dec := if precision < dec.length then dec.take precision else dec
  noToStr (number whole) (number (padRight dec))

/-- `C.truncate_insignificant`. -/
def truncateInsignificant (s : Text) : Text :=
  let parts := s.splitOn '.'
  if parts.length = 1 then parts.getD 0 []
  else if number (parts.getD 1 []) = 0 then parts.getD 0 []
  else s.rdropWhile (· = '0')

/-- The result of `+` before the checks. -/
def addParts (a b : C) : Int × Int :=
  let addDec := a.dec + b.dec
  if decNoLimit < addDec then
    let carry := Nat.toDigits 10 addDec
    let cut := carry.length - precision
    let wholeCarry := number (carry.take cut)
    ((a.whole + b.whole + wholeCarry : Nat),
      (number (carry.drop cut) : Nat))
  else ((a.whole + b.whole : Nat), (addDec : Nat))

/-- The result of `-` before the checks. -/
def subParts (a b : C) : Int × Int :=
  let dec := (a.dec : Int) - b.dec
  if dec < 0 then
    let whole := (a.whole : Int) - b.whole - 1
    let dec := (decBase : Int) + dec
    (whole, if dec < 0 then -dec else dec)
  else ((a.whole : Int) - b.whole, dec)

/-- An operand of `*`: its text without insignificant zeros. -/
def operand (c : C) : Text :=
  truncateInsignificant (truncateDecimal (noToStr c.whole c.dec))

/-- The decimals of an operand. -/
def decimalPlaces (s : Text) : Nat :=
  let parts := s.splitOn '.'
  if parts.length = 2 then (parts.getD 1 []).length else 0

/-- `"".join(s.split("."))`. -/
def joined (s : Text) : Text :=
  (s.splitOn '.').flatten

/-- Put the point back into the digits of a product. -/
def splitPlaces (total : Text) (places : Nat) : Text × Text :=
  if places = 0 then (total, ['0'])
  else if total.length ≤ places then
    let total :=
      '0' :: '.' :: (List.replicate (places - total.length) '0' ++ total)
    (total.take (total.length - (places + 1)),
      total.drop (total.length - places))
  else
    (total.take (total.length - places), total.drop (total.length - places))

/-- The result of `*` before the checks. -/
def mulParts (a b : C) : Int × Int :=
  let s1 := operand a
  let s2 := operand b
  let places := decimalPlaces s1 + decimalPlaces s2
  let total := number (joined s1) *
    number (joined s2)
  let (whole, dec) := splitPlaces (Nat.toDigits 10 total) places
  let dec := if precision < dec.length then dec.take precision else padRight dec
  ((number whole : Nat), (number dec : Nat))

/-- The operators of `C.math` that return an amount. -/
inductive Operator
  | add
  | sub
  | mul
  deriving DecidableEq

/-- `result` of `C.math`. -/
def result : Operator → C → C → Int × Int
  | .add => addParts
  | .sub => subParts
  | .mul => mulParts

/-- The checks at the end of `C.math`. -/
def checkResult (parts : Int × Int) : Except PyError (Nat × Nat) := do
  Except.raiseIf ((wholeNoLimit : Int) < parts.1)
    (.exception "whole overflow in math bignum func")
  Except.raiseIf (parts.1 < 0)
    (.exception "whole cannot be negative in bignum func")
  -- An integer cannot be sliced.
  Except.raiseIf (precision < (toString parts.2).length) .typeError
  Except.raiseIf (parts.2 < 0)
    (.exception "dec cannot be negative in bignum func")
  return (parts.1.toNat, parts.2.toNat)

/-- `C(self.math(a, b, op))`. -/
def math (op : Operator) (a b : C) : Except PyError C := do
  let parts ← checkResult (result op a b)
  ofPieces parts.1 parts.2

/-- The operators of `C.math` that return a truth value. -/
inductive Comparison
  | lt
  | gt
  | eq
  | ne
  | ge
  | le
  deriving DecidableEq

/-- `math(a, b, "<")`. -/
def mathLt (a b : C) : Bool :=
  if a.whole < b.whole then true
  else if a.whole = b.whole then decide (a.dec < b.dec)
  else false

/-- `math(a, b, ">")`. -/
def mathGt (a b : C) : Bool :=
  if b.whole < a.whole then true
  else if a.whole = b.whole then decide (b.dec < a.dec)
  else false

/-- `math(a, b, "==")`. -/
def mathEq (a b : C) : Bool :=
  if a.whole = b.whole then decide (a.dec = b.dec) else false

/-- The comparisons of `C.math`. -/
def compare : Comparison → C → C → Bool
  | .lt, a, b => mathLt a b
  | .gt, a, b => mathGt a b
  | .eq, a, b => mathEq a b
  | .ne, a, b => !mathEq a b
  | .ge, a, b => mathGt a b || mathEq a b
  | .le, a, b => mathLt a b || mathEq a b

/-- The number a value stands for. -/
def toRat (c : C) : ℚ :=
  c.whole + c.dec / 10 ^ precision

/-! ## Sums and differences -/

/-- Checked parts of an amount in two parts are checked as an amount. -/
theorem checkResult_parts (x : FixedPoint decBase) :
    (checkResult ((x.whole : Int), (x.dec : Int)) >>= fun parts =>
        ofPieces parts.1 parts.2) =
      ofParts x := by
  have short : ¬precision < (toString (x.dec : Int)).length := by
    have same : (toString (x.dec : Int)) = Nat.repr x.dec := rfl
    rw [same, ← String.length_toList, Nat.toList_repr, Nat.not_lt]
    exact (Nat.length_toDigits_le_iff (by decide) (by decide)).mpr x.dec_lt
  unfold ofParts
  by_cases fits : x.whole ≤ wholeNoLimit
  · have checked : checkResult ((x.whole : Int), (x.dec : Int)) =
        .ok (x.whole, x.dec) := by
      unfold checkResult
      rw [Except.raiseIf_bind (by simpa using fits),
        Except.raiseIf_bind (by simp), Except.raiseIf_bind short,
        Except.raiseIf_bind (by simp)]
      rfl
    rw [Except.bind_of_eq_ok checked, dif_pos fits]
    exact (ofPieces_eq_ok_iff _ _ _).mpr ⟨rfl, rfl⟩
  · rw [dif_neg fits]
    unfold checkResult Except.raiseIf
    rw [if_pos (by simpa using fits)]
    rfl

/-- The carry is what exceeds the sixteen digits of a sum. -/
theorem addParts_eq (a b : C) :
    addParts a b =
      (((a.toFixedPoint.add b.toFixedPoint).whole : Int),
        ((a.toFixedPoint.add b.toFixedPoint).dec : Int)) := by
  have a_lt := a.dec_lt
  have b_lt := b.dec_lt
  unfold addParts FixedPoint.add
  by_cases carries : decNoLimit < a.dec + b.dec
  · have overflows : ¬a.dec + b.dec < decBase := by
      simp only [decNoLimit, decBase] at *
      omega
    have long : precision ≤ (Nat.toDigits 10 (a.dec + b.dec)).length := by
      by_contra short
      rw [Nat.not_le] at short
      have small := (Nat.length_toDigits_le_iff (b := 10) (by decide)
        (by decide : 0 < 15)).mp (Nat.le_of_lt_succ short)
      simp only [decBase] at overflows
      omega
    obtain ⟨carry, rest⟩ := DigitText.number_slices
      (DigitText.digits_toDigits (a.dec + b.dec)) long
    rw [DigitText.number_toDigits] at carry rest
    have one : (a.dec + b.dec) / 10 ^ precision = 1 := by
      simp only [precision, decBase] at *
      omega
    have remainder : (a.dec + b.dec) % 10 ^ precision =
        a.dec + b.dec - decBase := by
      simp only [precision, decBase] at *
      omega
    simp only [if_pos carries, dif_neg overflows]
    rw [carry, rest, one, remainder]
  · have fits : a.dec + b.dec < decBase := by
      simp only [decNoLimit, decBase] at *
      omega
    simp only [if_neg carries, dif_pos fits]

/-- The sum of the digits is the sum of the amounts. -/
theorem math_add (a b : C) : math .add a b = a.add b := by
  rw [math, result, addParts_eq, checkResult_parts]
  rfl

theorem checkResult_of_neg
    {parts : Int × Int}
    (negative : parts.1 < 0) :
    checkResult parts =
      .error (.exception "whole cannot be negative in bignum func") := by
  unfold checkResult
  rw [Except.raiseIf_bind (by simp only [wholeNoLimit]; omega)]
  unfold Except.raiseIf
  rw [if_pos negative]
  rfl

/-- Borrowing from the whole part is subtraction. -/
theorem math_sub (a b : C) : math .sub a b = a.sub b := by
  have a_lt := a.dec_lt
  have b_lt := b.dec_lt
  have parts : ∀ x : FixedPoint decBase,
      a.toFixedPoint.sub? b.toFixedPoint = some x →
      subParts a b = ((x.whole : Int), (x.dec : Int)) := by
    intro x found
    unfold FixedPoint.sub? at found
    unfold subParts
    split at found
    next no_borrow =>
      split at found
      next whole_le =>
        cases found
        rw [if_neg (by omega)]
        simp only [Nat.cast_sub whole_le, Nat.cast_sub no_borrow]
      · cases found
    next borrow =>
      split at found
      next whole_le =>
        cases found
        have small : decBase + a.dec - b.dec < decBase := by omega
        rw [if_pos (by omega)]
        simp only [Nat.mod_eq_of_lt small]
        rw [if_neg (by omega)]
        refine Prod.ext ?_ ?_ <;> push_cast <;> omega
      · cases found
  unfold sub
  split
  next x found => rw [math, result, parts x found, checkResult_parts]
  next missing =>
    have negative : (subParts a b).1 < 0 := by
      unfold FixedPoint.sub? at missing
      unfold subParts
      split at missing
      next no_borrow =>
        split at missing
        · cases missing
        · rw [if_neg (by omega)]
          simp only
          omega
      next borrow =>
        split at missing
        · cases missing
        · rw [if_pos (by omega)]
          simp only
          omega
    rw [math, result, checkResult_of_neg negative]
    rfl

/-! ## Products -/

theorem length_padLeft
    {digits : Text}
    (fits : digits.length ≤ precision) :
    (padLeft digits).length = precision := by
  simp only [padLeft, List.length_append, List.length_replicate]
  omega

/-- The sixteen decimals of an amount. -/
theorem decimals_spec (c : C) :
    DigitText.Digits (padLeft (Nat.toDigits 10 c.dec)) ∧
      (padLeft (Nat.toDigits 10 c.dec)).length = precision ∧
      number (padLeft (Nat.toDigits 10 c.dec)) = c.dec := by
  have fits : (Nat.toDigits 10 c.dec).length ≤ precision :=
    (Nat.length_toDigits_le_iff (by decide) (by decide)).mpr c.dec_lt
  refine ⟨?_, length_padLeft fits, ?_⟩
  · exact (DigitText.digits_replicate_zero _).append
      (DigitText.digits_toDigits _)
  · rw [padLeft, DigitText.number_zeros_append, DigitText.number_toDigits]

/-- Two texts of digits with a point between them are split at the point. -/
theorem splitOn_point
    {whole dec : Text}
    (whole_digits : DigitText.Digits whole)
    (dec_digits : DigitText.Digits dec) :
    (whole ++ '.' :: dec).splitOn '.' = [whole, dec] := by
  rw [List.splitOn_append_cons_self_of_not_mem (whole_digits.notMem rfl),
    List.splitOn_eq_singleton (dec_digits.notMem rfl)]

/-- Cutting a text of sixteen decimals to sixteen decimals keeps it. -/
theorem truncateDecimal_noToStr (c : C) :
    truncateDecimal (noToStr c.whole c.dec) = noToStr c.whole c.dec := by
  obtain ⟨digits, length, value⟩ := c.decimals_spec
  unfold truncateDecimal
  have split : (noToStr c.whole c.dec).splitOn '.' =
      [Nat.toDigits 10 c.whole, padLeft (Nat.toDigits 10 c.dec)] :=
    splitOn_point (DigitText.digits_toDigits _) digits
  have full : padRight (padLeft (Nat.toDigits 10 c.dec)) =
      padLeft (Nat.toDigits 10 c.dec) := by
    rw [padRight, length, Nat.sub_self, List.replicate_zero, List.append_nil]
  simp [split, length, full, value]

/-- An operand without its point is the amount without its last zeros. -/
theorem operand_spec (c : C) :
    decimalPlaces c.operand ≤ precision ∧
      number (joined c.operand) *
        10 ^ (precision - decimalPlaces c.operand) = c.val := by
  obtain ⟨digits, length, value⟩ := c.decimals_spec
  have split : (noToStr c.whole c.dec).splitOn '.' =
      [Nat.toDigits 10 c.whole, padLeft (Nat.toDigits 10 c.dec)] :=
    splitOn_point (DigitText.digits_toDigits _) digits
  by_cases integral : c.dec = 0
  · have same : c.operand = Nat.toDigits 10 c.whole := by
      unfold operand
      rw [truncateDecimal_noToStr]
      unfold truncateInsignificant
      simp only [split]
      rw [if_neg (by simp), if_pos (by simpa [value] using integral)]
      rfl
    have single : c.operand.splitOn '.' = [Nat.toDigits 10 c.whole] := by
      rw [same]
      exact List.splitOn_eq_singleton
        ((DigitText.digits_toDigits _).notMem rfl)
    have none : decimalPlaces c.operand = 0 := by
      simp [decimalPlaces, single]
    have all : joined c.operand = Nat.toDigits 10 c.whole := by
      simp [joined, single]
    rw [none, all, DigitText.number_toDigits]
    refine ⟨Nat.zero_le _, ?_⟩
    rw [val, FixedPoint.value, integral, Nat.add_zero]
    rfl
  · obtain ⟨zeros, zeros_eq⟩ := DigitText.rdropWhile_zeros
      (padLeft (Nat.toDigits 10 c.dec))
    have same : c.operand = Nat.toDigits 10 c.whole ++
        '.' :: (padLeft (Nat.toDigits 10 c.dec)).rdropWhile (· = '0') := by
      unfold operand
      rw [truncateDecimal_noToStr]
      unfold truncateInsignificant
      simp only [split]
      rw [if_neg (by simp), if_neg (by simpa [value] using integral), noToStr,
        DigitText.rdropWhile_append_cons _ (by decide)]
    have stripped_digits : DigitText.Digits
        ((padLeft (Nat.toDigits 10 c.dec)).rdropWhile (· = '0')) :=
      digits.of_subset (List.rdropWhile_prefix _ _).subset
    generalize (padLeft (Nat.toDigits 10 c.dec)).rdropWhile (· = '0') =
      stripped at *
    have halves : c.operand.splitOn '.' =
        [Nat.toDigits 10 c.whole, stripped] := by
      rw [same]
      exact splitOn_point (DigitText.digits_toDigits _) stripped_digits
    have places : decimalPlaces c.operand = stripped.length := by
      simp [decimalPlaces, halves]
    have all : joined c.operand = Nat.toDigits 10 c.whole ++ stripped := by
      simp [joined, halves]
    rw [zeros_eq, List.length_append, List.length_replicate] at length
    rw [zeros_eq, DigitText.number_append_zeros] at value
    rw [places, all, DigitText.number_append, DigitText.number_toDigits]
    refine ⟨by omega, ?_⟩
    have rest : precision - stripped.length = zeros := by omega
    rw [rest, Nat.add_mul, Nat.mul_assoc, ← Nat.pow_add, length, value]
    rfl

/-- The point put back into a product divides its digits. -/
theorem splitPlaces_spec (total places : Nat) :
    number (splitPlaces (Nat.toDigits 10 total) places).1 =
        total / 10 ^ places ∧
      DigitText.Digits (splitPlaces (Nat.toDigits 10 total) places).2 ∧
      number (splitPlaces (Nat.toDigits 10 total) places).2 =
        total % 10 ^ places ∧
      (0 < places →
        (splitPlaces (Nat.toDigits 10 total) places).2.length = places) := by
  have digits := DigitText.digits_toDigits total
  have value := DigitText.number_toDigits total
  have total_lt := DigitText.number_lt digits
  rw [value] at total_lt
  generalize Nat.toDigits 10 total = text at *
  unfold splitPlaces
  by_cases none : places = 0
  · subst none
    rw [if_pos rfl]
    refine ⟨by simpa using value, ?_, by rw [Nat.pow_zero, Nat.mod_one]; rfl,
      fun impossible => absurd impossible (Nat.lt_irrefl 0)⟩
    exact DigitText.digits_replicate_zero 1
  · rw [if_neg none]
    split
    next short =>
      have small : total < 10 ^ places :=
        Nat.lt_of_lt_of_le total_lt
          (Nat.pow_le_pow_right (by decide) short)
      have length : ('0' :: '.' ::
          (List.replicate (places - text.length) '0' ++ text)).length =
            places + 2 := by
        simp only [List.length_cons, List.length_append, List.length_replicate]
        omega
      simp only [length]
      have first : places + 2 - (places + 1) = 1 := by omega
      have second : places + 2 - places = 2 := by omega
      rw [first, second]
      simp only [List.take_succ_cons, List.take_zero, List.drop_succ_cons,
        List.drop_zero]
      refine ⟨?_, (DigitText.digits_replicate_zero _).append digits, ?_, ?_⟩
      · rw [Nat.div_eq_of_lt small]
        rfl
      · rw [DigitText.number_zeros_append, value, Nat.mod_eq_of_lt small]
      · intro _
        simp only [List.length_append, List.length_replicate]
        omega
    next long =>
      obtain ⟨quotient, remainder⟩ := DigitText.number_slices digits
        (Nat.le_of_lt (Nat.lt_of_not_le long))
      rw [value] at quotient remainder
      refine ⟨quotient, digits.of_subset (List.drop_subset _ _), remainder, ?_⟩
      intro _
      simp only [List.length_drop]
      omega

/-- The decimals of a product, cut or filled up to sixteen. -/
theorem number_cut
    {digits : Text}
    (all : DigitText.Digits digits) :
    number (if precision < digits.length then digits.take precision
        else padRight digits) =
      number digits * 10 ^ precision / 10 ^ digits.length := by
  split
  next long =>
    have slices := (@DigitText.number_slices _ all (digits.length - precision)
      (Nat.sub_le _ _)).1
    rw [Nat.sub_sub_self long.le] at slices
    have split : digits.length - precision + precision = digits.length := by
      omega
    rw [slices, ← split, Nat.pow_add, split,
      Nat.mul_div_mul_right _ _ (Nat.pow_pos (by decide))]
  next short =>
    have split : digits.length + (precision - digits.length) = precision := by
      omega
    rw [padRight, DigitText.number_append_zeros, ← split, Nat.pow_add,
      ← Nat.mul_assoc, Nat.mul_right_comm, split,
      Nat.mul_div_cancel _ (Nat.pow_pos (by decide))]

/-- What a product of digits with `places` decimals is in units of the
sixteenth decimal. -/
theorem units_of_places
    {product places units : Nat}
    (fits : places ≤ precision + precision)
    (scaled : units = product * 10 ^ (precision + precision - places)) :
    units / decBase / decBase = product / 10 ^ places ∧
      units / decBase % decBase =
        product % 10 ^ places * 10 ^ precision / 10 ^ places := by
  have base : decBase = 10 ^ precision := rfl
  have scale : 10 ^ places * 10 ^ (precision + precision - places) =
      10 ^ precision * 10 ^ precision := by
    rw [← Nat.pow_add, ← Nat.pow_add, Nat.add_sub_cancel' fits]
  have cut : units / decBase = product * 10 ^ precision / 10 ^ places := by
    rw [scaled, base, ← Nat.mul_div_mul_right _ (10 ^ places)
      (Nat.pow_pos (n := precision + precision - places)
        (by decide : 0 < 10)), scale, Nat.mul_right_comm,
      Nat.mul_div_mul_right _ _ (Nat.pow_pos (by decide))]
  have parts : product * 10 ^ precision / 10 ^ places =
      product / 10 ^ places * 10 ^ precision +
        product % 10 ^ places * 10 ^ precision / 10 ^ places := by
    conv_lhs => rw [← Nat.div_add_mod product (10 ^ places)]
    rw [Nat.add_mul, Nat.mul_assoc, Nat.mul_add_div (Nat.pow_pos (by decide))]
  have small : product % 10 ^ places * 10 ^ precision / 10 ^ places <
      10 ^ precision := by
    rw [Nat.div_lt_iff_lt_mul (Nat.pow_pos (by decide)), Nat.mul_comm]
    exact Nat.mul_lt_mul_of_pos_left (Nat.mod_lt _ (Nat.pow_pos (by decide)))
      (Nat.pow_pos (by decide))
  rw [cut, parts, base]
  constructor
  · rw [Nat.mul_comm (product / 10 ^ places),
      Nat.mul_add_div (Nat.pow_pos (by decide)), Nat.div_eq_of_lt small,
      Nat.add_zero]
  · rw [Nat.mul_add_mod_self_right, Nat.mod_eq_of_lt small]

/-- The product of the digits is the product of the amounts, cut to sixteen
decimals. -/
theorem mulParts_eq (a b : C) :
    mulParts a b =
      (((FixedPoint.ofValue decBase_pos (a.val * b.val / decBase)).whole : Int),
        ((FixedPoint.ofValue decBase_pos
          (a.val * b.val / decBase)).dec : Int)) := by
  obtain ⟨a_places, a_value⟩ := a.operand_spec
  obtain ⟨b_places, b_value⟩ := b.operand_spec
  unfold mulParts
  simp only
  generalize number (joined a.operand) = x at *
  generalize number (joined b.operand) = y at *
  generalize decimalPlaces a.operand = i at *
  generalize decimalPlaces b.operand = j at *
  obtain ⟨whole, dec_digits, dec, length⟩ := splitPlaces_spec (x * y) (i + j)
  have scaled : a.val * b.val =
      x * y * 10 ^ (precision + precision - (i + j)) := by
    rw [← a_value, ← b_value, show precision + precision - (i + j) =
      (precision - i) + (precision - j) by omega, Nat.pow_add]
    ring
  obtain ⟨units_div, units_mod⟩ := units_of_places (by omega) scaled
  refine Prod.ext ?_ ?_
  · simp only [whole, FixedPoint.ofValue]
    rw [units_div]
  · simp only [FixedPoint.ofValue]
    rw [number_cut dec_digits, dec, units_mod]
    rcases Nat.eq_zero_or_pos (i + j) with none | some_places
    · simp [none, Nat.mod_one]
    · rw [length some_places]

theorem math_mul (a b : C) : math .mul a b = a.mul b := by
  rw [math, result, mulParts_eq, checkResult_parts]
  rfl

/-! ## Values -/

theorem toRat_eq (c : C) : c.toRat = (c.val : ℚ) / decBase := by
  have base : (10 : ℚ) ^ precision = decBase := by
    norm_num [precision, decBase]
  have base_ne : (decBase : ℚ) ≠ 0 := by norm_num [decBase]
  rw [toRat, base, val, FixedPoint.value]
  push_cast
  field_simp

theorem toRat_lt_iff (a b : C) : a.toRat < b.toRat ↔ a.val < b.val := by
  rw [toRat_eq, toRat_eq,
    div_lt_div_iff_of_pos_right (by norm_num [decBase] : (0 : ℚ) < decBase)]
  exact Nat.cast_lt

theorem toRat_inj (a b : C) : a.toRat = b.toRat ↔ a = b := by
  constructor
  · intro same
    rw [eq_iff]
    apply Nat.le_antisymm
    · exact Nat.le_of_not_lt fun less =>
        absurd same (ne_of_gt ((toRat_lt_iff b a).mpr less))
    · exact Nat.le_of_not_lt fun less =>
        absurd same (ne_of_lt ((toRat_lt_iff a b).mpr less))
  · rintro rfl
    rfl

/-- The whole part of a number counted in sixteenth decimals. -/
theorem floor_units (units : Nat) :
    ⌊(units : ℚ) / decBase⌋ = (units / decBase : Nat) := by
  exact_mod_cast Rat.floor_natCast_div_natCast units decBase

/-- The parts of an amount are in range. -/
def InRange (c : C) : Prop :=
  c.whole ≤ wholeNoLimit ∧ c.dec < 10 ^ precision

/-- A computation returns an amount of a value. -/
def Returns (outcome : Except PyError C) (value : ℚ) : Prop :=
  ∃ c, outcome = .ok c ∧ c.toRat = value ∧ c.InRange

/-- A computation raises. -/
def Raises (outcome : Except PyError C) : Prop :=
  ∃ error, outcome = .error error

/-- Parts in range are an amount of their value, and others raise. -/
theorem ofParts_returns (x : FixedPoint decBase) :
    (x.value / decBase ≤ wholeNoLimit →
        Returns (ofParts x) ((x.value : ℚ) / decBase)) ∧
      (wholeNoLimit < x.value / decBase → Raises (ofParts x)) := by
  rw [x.value_div]
  unfold ofParts
  constructor
  · intro fits
    rw [dif_pos fits]
    exact ⟨_, rfl, toRat_eq _, fits, x.dec_lt⟩
  · intro overflows
    rw [dif_neg (Nat.not_le_of_lt overflows)]
    exact ⟨_, rfl⟩

/-- What a comparison means. -/
def Comparison.Holds : Comparison → ℚ → ℚ → Prop
  | .lt, x, y => x < y
  | .gt, x, y => y < x
  | .eq, x, y => x = y
  | .ne, x, y => x ≠ y
  | .ge, x, y => y ≤ x
  | .le, x, y => x ≤ y

theorem mathLt_iff (a b : C) : mathLt a b = true ↔ a.toRat < b.toRat := by
  rw [toRat_lt_iff, ← FixedPoint.less_iff, FixedPoint.Less, mathLt]
  split
  · simp_all
  · split <;> simp_all

theorem mathGt_iff (a b : C) : mathGt a b = true ↔ b.toRat < a.toRat := by
  rw [toRat_lt_iff, ← FixedPoint.less_iff, FixedPoint.Less, mathGt]
  split
  · simp_all
  next not_more =>
    split
    · simp_all
    next different => simp [not_more, Ne.symm different]

theorem mathEq_iff (a b : C) : mathEq a b = true ↔ a.toRat = b.toRat := by
  rw [toRat_inj, mathEq]
  constructor
  · intro equal
    split at equal
    next wholes =>
      rw [eq_iff, val, val, FixedPoint.value, FixedPoint.value, wholes,
        of_decide_eq_true equal]
    · cases equal
  · rintro rfl
    simp

/-- The six comparisons agree with the order of the values. -/
theorem compare_iff (comparison : Comparison) (a b : C) :
    compare comparison a b = true ↔ comparison.Holds a.toRat b.toRat := by
  cases comparison with
  | lt => exact mathLt_iff a b
  | gt => exact mathGt_iff a b
  | eq => exact mathEq_iff a b
  | ne =>
      rw [compare, Bool.not_eq_true', ← Bool.not_eq_true, mathEq_iff]
      exact Iff.rfl
  | ge =>
      rw [compare, Bool.or_eq_true, mathGt_iff, mathEq_iff, Comparison.Holds,
        le_iff_lt_or_eq, eq_comm (a := a.toRat)]
  | le =>
      rw [compare, Bool.or_eq_true, mathLt_iff, mathEq_iff, Comparison.Holds,
        le_iff_lt_or_eq]

/-- Arithmetic is exact or raises: a sum, a difference and a product cut to
sixteen decimals have the value they should when it is in range, and the
comparisons are those of the values. -/
theorem math_exact (a b : C) :
    (⌊a.toRat + b.toRat⌋ ≤ wholeNoLimit →
        Returns (math .add a b) (a.toRat + b.toRat)) ∧
      (wholeNoLimit < ⌊a.toRat + b.toRat⌋ → Raises (math .add a b)) ∧
      (b.toRat ≤ a.toRat → Returns (math .sub a b) (a.toRat - b.toRat)) ∧
      (a.toRat < b.toRat → Raises (math .sub a b)) ∧
      (⌊a.toRat * b.toRat⌋ ≤ wholeNoLimit →
        Returns (math .mul a b)
          (⌊a.toRat * b.toRat * 10 ^ precision⌋ / 10 ^ precision)) ∧
      (wholeNoLimit < ⌊a.toRat * b.toRat⌋ → Raises (math .mul a b)) ∧
      ∀ comparison, compare comparison a b = true ↔
        comparison.Holds a.toRat b.toRat := by
  have base_ne : (decBase : ℚ) ≠ 0 := by norm_num [decBase]
  have base : (10 : ℚ) ^ precision = decBase := by
    norm_num [precision, decBase]
  have sum : a.toRat + b.toRat = ((a.val + b.val : Nat) : ℚ) / decBase := by
    rw [toRat_eq, toRat_eq]
    push_cast
    field_simp
  have product : a.toRat * b.toRat * 10 ^ precision =
      ((a.val * b.val : Nat) : ℚ) / decBase := by
    rw [toRat_eq, toRat_eq, base]
    push_cast
    field_simp
  have cut : (⌊a.toRat * b.toRat * 10 ^ precision⌋ : ℚ) / 10 ^ precision =
      ((a.val * b.val / decBase : Nat) : ℚ) / decBase := by
    rw [product, floor_units, base]
    rfl
  have floor_product : ⌊a.toRat * b.toRat⌋ =
      (a.val * b.val / decBase / decBase : Nat) := by
    have value : a.toRat * b.toRat =
        ((a.val * b.val : Nat) : ℚ) / ((decBase * decBase : Nat) : ℚ) := by
      rw [toRat_eq, toRat_eq]
      push_cast
      field_simp
    rw [value, Nat.div_div_eq_div_mul]
    exact_mod_cast Rat.floor_natCast_div_natCast _ (decBase * decBase)
  have add_parts := ofParts_returns (a.toFixedPoint.add b.toFixedPoint)
  have mul_parts :=
    ofParts_returns (FixedPoint.ofValue decBase_pos (a.val * b.val / decBase))
  rw [FixedPoint.value_add] at add_parts
  rw [FixedPoint.value_ofValue] at mul_parts
  rw [sum, floor_units, math_add, math_sub, math_mul, cut, floor_product]
  refine ⟨?_, ?_, ?_, ?_, ?_, ?_, fun comparison => compare_iff comparison a b⟩
  · intro fits
    exact add_parts.1 (by exact_mod_cast fits)
  · intro overflows
    exact add_parts.2 (by exact_mod_cast overflows)
  · intro le
    rw [← not_lt, toRat_lt_iff, Nat.not_lt] at le
    obtain ⟨difference, found, value⟩ := sub_of_le le
    refine ⟨difference, found, ?_, difference.whole_le, difference.dec_lt⟩
    rw [toRat_eq, toRat_eq, toRat_eq, value, Nat.cast_sub le, sub_div]
  · intro less
    rw [toRat_lt_iff] at less
    exact ⟨_, sub_of_lt less⟩
  · intro fits
    exact mul_parts.1 (by exact_mod_cast fits)
  · intro overflows
    exact mul_parts.2 (by exact_mod_cast overflows)

end C
end Coinbend
