import Coinbend.Currency.Arithmetic

/-!
# The value of a written number

`C.pieces` fills the digits after the point up to sixteen places and reads them
as an integer.  With more than sixteen digits nothing is filled up or cut, so
that digits behind leading zeros count for more than they stand for.
-/

namespace Coinbend
namespace C

open DigitText (number)

/-- The rational number two texts of digits with a point between them are. -/
def written (parts : Text × Text) : ℚ :=
  number parts.1 + number parts.2 / 10 ^ parts.2.length

/-- A number cut to some decimals. -/
def cutTo (places : Nat) (value : ℚ) : ℚ :=
  ⌊value * 10 ^ places⌋ / 10 ^ places

/-- `C(text)` is the number written, cut to sixteen decimals; or it raises,
because the whole part is above the limit or there are too many decimals. -/
def ReadsRight (text : Text) (parts : Text × Text) : Prop :=
  match parse text with
  | .ok c => c.toRat = cutTo precision (written parts)
  | .error _ => wholeNoLimit < number parts.1 ∨
      precision < parts.2.length

/-- The text of an amount is read as the amount cut to eight decimals, which
has the same text again. -/
def ReadsBack (c : C) : Prop :=
  ∃ again, parse c.str.toList = .ok again ∧
    again.toRat = cutTo 8 c.toRat ∧ again.str = c.str

theorem readsBack (c : C) : c.ReadsBack := by
  refine ⟨c.printed, c.parse_str, ?_, (str_eq_iff _ _).mpr c.satoshi_printed⟩
  have eighth : c.toRat * 10 ^ 8 = (c.val : ℚ) / (satoshiUnit : Nat) := by
    rw [toRat_eq]
    simp only [decBase, satoshiUnit]
    push_cast
    ring
  have floor : ⌊(c.val : ℚ) / (satoshiUnit : Nat)⌋ = (c.satoshi : ℤ) := by
    rw [satoshi]
    exact_mod_cast Rat.floor_natCast_div_natCast c.val satoshiUnit
  rw [cutTo, eighth, floor, toRat_eq, val_printed]
  simp only [decBase, satoshiUnit]
  push_cast
  ring

/-- The grammar yields digits. -/
theorem digits_of_numberParts
    {text : Text}
    {parts : Text × Text}
    (found : numberParts text = some parts) :
    DigitText.Digits parts.1 ∧ DigitText.Digits parts.2 := by
  have all (text : Text) : DigitText.Digits (text.takeWhile Char.isDigit) :=
    fun digit mem => List.mem_takeWhile_imp mem
  unfold numberParts at found
  simp only at found
  split at found
  · cases found
  · split at found
    · split at found
      · cases found
        exact ⟨all _, all _⟩
      · cases found
    · split at found
      · cases found
        exact ⟨all _, fun digit mem => nomatch mem⟩
      · cases found

/-- The decimals in units of the sixteenth place. -/
theorem parse_eq_ok_iff
    {text : Text}
    {parts : Text × Text}
    (found : numberParts text = some parts)
    (c : C) :
    parse text = .ok c ↔
      c.whole = number parts.1 ∧
        c.dec = number parts.2 * 10 ^ (precision - parts.2.length) := by
  have padded : (if parts.2 = [] then 0 else paddedDec parts.2) =
      number parts.2 * 10 ^ (precision - parts.2.length) := by
    split
    next empty => rw [empty]; rfl
    · exact paddedDec_eq _
  unfold parse
  rw [found]
  simp only [padded]
  exact ofPieces_eq_ok_iff _ _ _

/-- The written number in units of the sixteenth place. -/
theorem floor_written (parts : Text × Text) :
    ⌊written parts * 10 ^ precision⌋ =
      (number parts.1 * decBase +
        number parts.2 * decBase / 10 ^ parts.2.length : Nat) := by
  have base : (10 : ℚ) ^ precision = decBase := by
    norm_num [precision, decBase]
  have units : written parts * 10 ^ precision =
      ((number parts.1 * decBase : Nat) : ℤ) +
        ((number parts.2 * decBase : Nat) : ℚ) /
          ((10 ^ parts.2.length : Nat) : ℚ) := by
    rw [written, base]
    push_cast
    ring
  rw [units, Int.floor_intCast_add, Rat.floor_natCast_div_natCast]
  push_cast
  ring

/-- An amount is a written number cut to sixteen decimals when its decimals
are. -/
theorem toRat_eq_cutTo_iff
    {c : C}
    {parts : Text × Text}
    (whole : c.whole = number parts.1) :
    c.toRat = cutTo precision (written parts) ↔
      c.dec = number parts.2 * decBase / 10 ^ parts.2.length := by
  have base : (10 : ℚ) ^ precision = decBase := by
    norm_num [precision, decBase]
  rw [cutTo, floor_written, base, toRat_eq,
    div_left_inj' (by norm_num [decBase] : (decBase : ℚ) ≠ 0), val,
    FixedPoint.value, whole]
  constructor
  · intro same
    have sum : number parts.1 * decBase + c.dec =
        number parts.1 * decBase +
          number parts.2 * decBase / 10 ^ parts.2.length := by
      exact_mod_cast same
    exact Nat.add_left_cancel sum
  · intro same
    rw [same]
    push_cast
    rfl

/-- Up to sixteen decimals are filled up to what they stand for. -/
theorem filled_of_le
    {digits : Text}
    (fits : digits.length ≤ precision) :
    number digits * 10 ^ (precision - digits.length) =
      number digits * decBase / 10 ^ digits.length := by
  have base : decBase = 10 ^ (precision - digits.length) *
      10 ^ digits.length := by
    rw [← Nat.pow_add, Nat.sub_add_cancel fits]
    rfl
  rw [base, ← Nat.mul_assoc, Nat.mul_div_cancel _ (Nat.pow_pos (by decide))]

/-- More than sixteen decimals count for what they stand for only when they
are zeros. -/
theorem filled_eq_iff_of_gt
    {digits : Text}
    (long : precision < digits.length) :
    number digits * 10 ^ (precision - digits.length) =
        number digits * decBase / 10 ^ digits.length ↔
      number digits = 0 := by
  obtain ⟨more, more_pos, length⟩ :
      ∃ more, 0 < more ∧ digits.length = more + precision :=
    ⟨digits.length - precision, by omega, by omega⟩
  have base : decBase = 10 ^ precision := rfl
  rw [length, base, Nat.pow_add, Nat.mul_div_mul_right _ _
    (Nat.pow_pos (by decide)), Nat.sub_eq_zero_of_le (Nat.le_add_left _ _),
    Nat.pow_zero, Nat.mul_one]
  constructor
  · intro same
    by_contra positive
    have less := Nat.div_lt_self (Nat.pos_of_ne_zero positive)
      (Nat.one_lt_pow (Nat.pos_iff_ne_zero.mp more_pos) (by decide : 1 < 10))
    omega
  · intro zero
    rw [zero, Nat.zero_div]

theorem readsRight_iff
    {text : Text}
    {parts : Text × Text}
    (found : numberParts text = some parts) :
    ReadsRight text parts ↔
      parts.2.length ≤ precision ∨ number parts.2 = 0 ∨
        wholeNoLimit < number parts.1 ∨ decBase ≤ number parts.2 := by
  obtain ⟨_, digits⟩ := digits_of_numberParts found
  have iff := parse_eq_ok_iff found
  unfold ReadsRight
  cases parsed : parse text with
  | ok c =>
      obtain ⟨whole, dec⟩ := (iff c).mp parsed
      have whole_le := c.whole_le
      have dec_lt := c.dec_lt
      rw [whole] at whole_le
      simp only [toRat_eq_cutTo_iff whole]
      rcases Nat.lt_or_ge precision parts.2.length with long | short
      · rw [dec, filled_eq_iff_of_gt long]
        rw [dec, Nat.sub_eq_zero_of_le long.le, Nat.pow_zero, Nat.mul_one]
          at dec_lt
        omega
      · rw [dec]
        exact ⟨fun _ => Or.inl short, fun _ => filled_of_le short⟩
  | error error =>
      have missing (c : C) : ¬(c.whole = number parts.1 ∧
          c.dec = number parts.2 * 10 ^ (precision - parts.2.length)) := by
        intro same
        rw [(iff c).mpr same] at parsed
        cases parsed
      have out : wholeNoLimit < number parts.1 ∨ decBase ≤
          number parts.2 * 10 ^ (precision - parts.2.length) := by
        by_contra within
        rw [not_or, Nat.not_lt, Nat.not_le] at within
        exact missing
          { whole := _, dec := _, dec_lt := within.2, whole_le := within.1 }
          ⟨rfl, rfl⟩
      have short_out : parts.2.length ≤ precision →
          wholeNoLimit < number parts.1 := by
        intro short
        rcases out with overflows | overflows
        · exact overflows
        · have bound := DigitText.number_lt digits
          have scaled := Nat.mul_lt_mul_of_pos_right bound
            (Nat.pow_pos (n := precision - parts.2.length)
              (by decide : 0 < 10))
          rw [← Nat.pow_add, Nat.add_sub_cancel' short] at scaled
          exact absurd overflows (Nat.not_le_of_lt scaled)
      have long_out : precision < parts.2.length →
          wholeNoLimit < number parts.1 ∨ decBase ≤ number parts.2 := by
        intro long
        rw [Nat.sub_eq_zero_of_le long.le, Nat.pow_zero, Nat.mul_one] at out
        exact out
      rcases Nat.lt_or_ge precision parts.2.length with long | short
      · exact ⟨fun _ => Or.inr (Or.inr (long_out long)), fun _ => Or.inr long⟩
      · exact ⟨fun _ => Or.inl short, fun _ => Or.inl (short_out short)⟩

/-- A number is read as it is written exactly when it has at most sixteen
decimals, its decimals are all zeros, or a part of it is too large; and every
amount reads back from its text cut to eight decimals. -/
theorem readsRight_iff_and_readsBack
    {text : Text}
    {parts : Text × Text}
    (found : numberParts text = some parts) :
    (ReadsRight text parts ↔
        parts.2.length ≤ precision ∨ number parts.2 = 0 ∨
          wholeNoLimit < number parts.1 ∨ decBase ≤ number parts.2) ∧
      ∀ c : C, c.ReadsBack :=
  ⟨readsRight_iff found, readsBack⟩

end C

/-- Seventeen decimals with one digit behind sixteen zeros. -/
def Sample.seventeenDecimals : Text :=
  "0.00000000000000001".toList

/-- The digit counts ten times what it stands for. -/
theorem seventeenDecimals_misread :
    ∃ parts c, C.numberParts Sample.seventeenDecimals = some parts ∧
      C.parse Sample.seventeenDecimals = .ok c ∧ c.val = 1 ∧
      C.written parts = 1 / 10 ^ 17 ∧
      ¬C.ReadsRight Sample.seventeenDecimals parts := by
  refine ⟨(['0'], "00000000000000001".toList), C.ofVal 1 (by decide),
    by decide +kernel, by decide +kernel, by decide +kernel, ?_, ?_⟩
  · have digits : DigitText.number "00000000000000001".toList = 1 := by
      decide +kernel
    have length : "00000000000000001".toList.length = 17 := by decide +kernel
    have zero : DigitText.number ['0'] = 0 := rfl
    rw [C.written, digits, length, zero]
    norm_num
  · rw [C.readsRight_iff (by decide +kernel)]
    decide +kernel

/-- Three halves are read as they are written. -/
theorem threeHalves_readsRight :
    (C.ReadsRight "1.5".toList (['1'], ['5']) ↔
        ['5'].length ≤ C.precision ∨ DigitText.number ['5'] = 0 ∨
          wholeNoLimit < DigitText.number ['1'] ∨
          decBase ≤ DigitText.number ['5']) ∧
      ∀ c : C, c.ReadsBack :=
  C.readsRight_iff_and_readsBack (by decide +kernel)

end Coinbend
