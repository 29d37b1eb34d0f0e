import Coinbend.Currency.Defs
import Mathlib.Data.List.DropRight

/-!
# Amounts as text

How `C` reads an amount from its two stored integers and from a text, and what
it prints.  A printed amount reads back as the amount cut to eight decimals.
The stored decimals are an integer: the constructor pads its digits on the
right, where the zeros were lost on the left.
-/

namespace Coinbend

/-- A Python `str`. -/
abbrev Text := List Char

/-- The characters `\s` stands for in a regular expression. -/
def isSpace (c : Char) : Bool :=
  let n := c.toNat
  (9 ≤ n && n ≤ 13) || (28 ≤ n && n ≤ 32) || n == 133 || n == 160 ||
    n == 5760 || (8192 ≤ n && n ≤ 8202) || n == 8232 || n == 8233 ||
    n == 8239 || n == 8287 || n == 12288

/-- The position `$` stands for: the end, or a line feed before it. -/
def endOfText (text : Text) : Bool :=
  text = [] ∨ text = ['\n']

namespace C

/-- `C.precision`. -/
def precision : Nat := 16

/-- `int(pad_dec_with_zeros(digits, "right"))`. -/
def paddedDec (digits : Text) : Nat :=
  Nat.ofDigitChars 10
    (digits ++ List.replicate (precision - digits.length) '0') 0

/-- The range checks of `C.number` on two pieces. -/
def ofPieces (whole dec : Nat) : Except PyError C :=
  if whole_le : whole ≤ wholeNoLimit then
    if dec_lt : dec < decBase then .ok { whole, dec, dec_lt, whole_le }
    else .error (.exception "Dec number overflow in number")
  else .error (.exception "Whole number overflow in number")

/-- `C(whole, dec)` with two integers. -/
def ofInts (whole dec : Nat) : Except PyError C :=
  ofPieces whole (paddedDec (Nat.toDigits 10 dec))

/-- `(?:(?:\s+)?([a-zA-Z]+))?$`. -/
def currencySuffix (text : Text) : Bool :=
  endOfText text ||
    let code := text.dropWhile isSpace
    code.takeWhile Char.isAlpha ≠ [] ∧ endOfText (code.dropWhile Char.isAlpha)

/-- The digits before and after the point in the grammar of `C.pieces`. -/
def numberParts (text : Text) : Option (Text × Text) :=
  let whole := text.takeWhile Char.isDigit
  if whole = [] then none
  else
    match text.dropWhile Char.isDigit with
    | '.' :: rest =>
        let dec := rest.takeWhile Char.isDigit
        if dec ≠ [] ∧ currencySuffix (rest.dropWhile Char.isDigit) then
          some (whole, dec)
        else none
    | rest => if currencySuffix rest then some (whole, []) else none

/-- `C(text)`. -/
def parse (text : Text) : Except PyError C :=
  match numberParts text with
  | none => .error (.exception "Invalid number format for pieces.")
  | some (whole, dec) =>
      ofPieces (Nat.ofDigitChars 10 whole 0)
        (if dec = [] then 0 else paddedDec dec)

/-- `C(str(c))`: the amount cut to its eight printed decimals. -/
def printed (c : C) : C :=
  C.ofVal (c.satoshi * satoshiUnit) (by
    have le : c.satoshi * satoshiUnit ≤ c.val := Nat.div_mul_le_self _ _
    refine Nat.le_trans (Nat.div_le_div_right le) ?_
    rw [c.toFixedPoint.value_div]
    exact c.whole_le)

@[simp] theorem val_printed (c : C) :
    c.printed.val = c.satoshi * satoshiUnit :=
  C.val_ofVal _ _

@[simp] theorem satoshi_printed (c : C) : c.printed.satoshi = c.satoshi := by
  rw [C.satoshi, C.val_printed, Nat.mul_div_cancel _ satoshiUnit_pos]

/-! ## The stored integers -/

theorem ofPieces_eq_ok_iff (whole dec : Nat) (c : C) :
    ofPieces whole dec = .ok c ↔ c.whole = whole ∧ c.dec = dec := by
  unfold ofPieces
  split
  · split
    · rw [Except.ok.injEq]
      constructor
      · rintro rfl
        exact ⟨rfl, rfl⟩
      · rintro ⟨rfl, rfl⟩
        rfl
    next too_long =>
      simp only [reduceCtorEq, false_iff, not_and]
      rintro _ rfl
      exact too_long c.dec_lt
  next too_large =>
    simp only [reduceCtorEq, false_iff, not_and]
    rintro rfl
    exact absurd c.whole_le too_large

/-- Digits that fit are moved to the left end of the sixteen places. -/
theorem paddedDec_eq (digits : Text) :
    paddedDec digits =
      Nat.ofDigitChars 10 digits 0 * 10 ^ (precision - digits.length) := by
  rw [paddedDec, Nat.ofDigitChars_append, Nat.ofDigitChars_replicate_zero,
    Nat.mul_comm]

/-- The stored digits of the fraction fill the sixteen places, or there is no
fraction. -/
def Reloads (c : C) : Prop :=
  c.dec = 0 ∨ 1000000000000000 ≤ c.dec

instance (c : C) : Decidable c.Reloads :=
  inferInstanceAs (Decidable (_ ∨ _))

/-- The constructor moves the digits of a stored fraction up to the point. -/
theorem paddedDec_toDigits {dec : Nat} (dec_lt : dec < decBase) :
    paddedDec (Nat.toDigits 10 dec) < decBase ∧
      (dec ≠ 0 → 1000000000000000 ≤ paddedDec (Nat.toDigits 10 dec)) := by
  have length_pos := Nat.length_toDigits_pos (b := 10) (n := dec)
  have fits := (Nat.length_toDigits_le_iff (b := 10) (by decide)
    (by decide : 0 < precision)).mpr dec_lt
  have below := (Nat.length_toDigits_le_iff (b := 10) (by decide)
    length_pos).mp (Nat.le_refl _)
  rw [paddedDec_eq, Nat.ofDigitChars_ten_toDigits]
  have above : (Nat.toDigits 10 dec).length = 1 ∨
      10 ^ ((Nat.toDigits 10 dec).length - 1) ≤ dec := by
    rcases Nat.eq_or_lt_of_le length_pos with single | more
    · exact Or.inl single.symm
    · right
      by_contra less
      have short := (Nat.length_toDigits_le_iff (b := 10) (by decide)
        (Nat.sub_pos_of_lt more)).mpr (Nat.lt_of_not_le less)
      omega
  generalize (Nat.toDigits 10 dec).length = length at *
  have scale : 10 ^ length * 10 ^ (precision - length) = decBase := by
    rw [← Nat.pow_add, Nat.add_sub_cancel' fits]
    rfl
  constructor
  · rw [← scale]
    exact Nat.mul_lt_mul_of_pos_right below (by positivity)
  · intro nonzero
    have first : 10 ^ (length - 1) ≤ dec := by
      rcases above with rfl | first
      · exact Nat.pos_of_ne_zero nonzero
      · exact first
    calc 1000000000000000
        = 10 ^ (length - 1 + (precision - length)) := by
          rw [show length - 1 + (precision - length) = 15 by
            unfold precision at *; omega]
      _ = 10 ^ (length - 1) * 10 ^ (precision - length) := Nat.pow_add _ _ _
      _ ≤ dec * 10 ^ (precision - length) := Nat.mul_le_mul_right _ first

theorem paddedDec_toDigits_eq_iff {dec : Nat} (dec_lt : dec < decBase) :
    paddedDec (Nat.toDigits 10 dec) = dec ↔
      dec = 0 ∨ 1000000000000000 ≤ dec := by
  constructor
  · intro same
    by_cases zero : dec = 0
    · exact Or.inl zero
    · have high := (paddedDec_toDigits dec_lt).2 zero
      rw [same] at high
      exact Or.inr high
  · rintro (rfl | high)
    · rfl
    · have full : precision ≤ (Nat.toDigits 10 dec).length := by
        by_contra short
        have low := (Nat.length_toDigits_le_iff (b := 10) (k := 15) (by decide)
          (by decide)).mp (Nat.le_of_lt_succ (Nat.lt_of_not_le short))
        omega
      rw [paddedDec_eq, Nat.ofDigitChars_ten_toDigits,
        Nat.sub_eq_zero_of_le full, Nat.pow_zero, Nat.mul_one]

/-- The amount the two stored integers make. -/
def reloaded (c : C) : C where
  whole := c.whole
  dec := paddedDec (Nat.toDigits 10 c.dec)
  dec_lt := (paddedDec_toDigits c.dec_lt).1
  whole_le := c.whole_le

theorem ofInts_eq_reloaded (c : C) :
    ofInts c.whole c.dec = .ok c.reloaded :=
  (ofPieces_eq_ok_iff _ _ _).mpr ⟨rfl, rfl⟩

theorem reloaded_eq_iff (c : C) : c.reloaded = c ↔ c.Reloads := by
  rw [Reloads, ← paddedDec_toDigits_eq_iff c.dec_lt]
  constructor
  · intro same
    exact congrArg (fun c : C => c.dec) same
  · intro same
    rw [eq_iff, val, val, FixedPoint.value, FixedPoint.value]
    exact congrArg _ same

/-- An amount is rebuilt from its two integers exactly when its fraction does
not begin with a zero, or is zero. -/
theorem ofInts_eq_ok_iff (c : C) :
    ofInts c.whole c.dec = .ok c ↔ c.Reloads := by
  rw [ofInts_eq_reloaded, Except.ok.injEq, reloaded_eq_iff]

/-! ## Printed amounts -/

/-- The eight printed decimals of an amount. -/
def decimals (c : C) : Text :=
  let dec := Nat.toDigits 10 (c.satoshi % COIN)
  List.replicate (8 - dec.length) '0' ++ dec

/-- The printed decimals without their last zeros. -/
def significant (c : C) : Text :=
  c.decimals.rdropWhile (· = '0')

/-- The text `str(c)` has after the point. -/
def fraction (c : C) : Text :=
  if c.significant = [] then ['0', '0'] else c.significant

theorem toList_str (c : C) :
    c.str.toList = Nat.toDigits 10 c.whole ++ '.' :: c.fraction := by
  have digits :
      (List.replicate (8 - (toString (c.satoshi % COIN)).length) '0' ++
          (toString (c.satoshi % COIN)).toList).reverse.dropWhile (· = '0') =
        c.significant.reverse := by
    simp [significant, decimals, List.rdropWhile, ← String.length_toList]
  unfold str fraction
  simp only [digits, List.reverse_reverse]
  split <;> simp

theorem satoshi_mod_lt (c : C) : c.satoshi % COIN < 10 ^ 8 :=
  Nat.mod_lt _ (by decide)

theorem length_decimals (c : C) : c.decimals.length = 8 := by
  have fits := (Nat.length_toDigits_le_iff (b := 10) (k := 8) (by decide)
    (by decide)).mpr c.satoshi_mod_lt
  simp only [decimals, List.length_append, List.length_replicate]
  omega

theorem ofDigitChars_decimals (c : C) :
    Nat.ofDigitChars 10 c.decimals 0 = c.satoshi % COIN := by
  rw [decimals, Nat.ofDigitChars_append, Nat.ofDigitChars_replicate_zero,
    Nat.mul_zero, Nat.ofDigitChars_ten_toDigits]

theorem isDigit_of_mem_decimals
    {c : C}
    {digit : Char}
    (mem : digit ∈ c.decimals) :
    digit.isDigit = true := by
  rcases List.mem_append.mp mem with zero | later
  · rw [List.eq_of_mem_replicate zero]
    rfl
  · exact Nat.isDigit_of_mem_toDigits (by decide) (by decide) later

/-- What is cut from the printed decimals are zeros. -/
theorem decimals_eq (c : C) :
    ∃ zeros, c.decimals = c.significant ++ List.replicate zeros '0' := by
  refine ⟨(c.decimals.rtakeWhile (· = '0')).length, ?_⟩
  have zeros : c.decimals.rtakeWhile (· = '0') =
      List.replicate (c.decimals.rtakeWhile (· = '0')).length '0' := by
    rw [List.eq_replicate_iff]
    exact ⟨rfl, fun digit mem => by
      simpa using List.mem_rtakeWhile_imp mem⟩
  rw [← zeros, significant, List.rdropWhile_append_rtakeWhile]

theorem isDigit_of_mem_fraction
    {c : C}
    {digit : Char}
    (mem : digit ∈ c.fraction) :
    digit.isDigit = true := by
  unfold fraction at mem
  split at mem
  · have zero : digit = '0' := by simpa using mem
    rw [zero]
    rfl
  · obtain ⟨zeros, split⟩ := c.decimals_eq
    apply isDigit_of_mem_decimals (c := c)
    rw [split]
    exact List.mem_append_left _ mem

theorem fraction_ne_nil (c : C) : c.fraction ≠ [] := by
  unfold fraction
  split
  · simp
  · assumption

/-- The text after the point is the fraction cut to eight decimals. -/
theorem paddedDec_fraction (c : C) :
    paddedDec c.fraction = c.satoshi % COIN * satoshiUnit := by
  obtain ⟨zeros, split⟩ := c.decimals_eq
  have length := c.length_decimals
  have value := c.ofDigitChars_decimals
  rw [split, List.length_append, List.length_replicate] at length
  rw [split, Nat.ofDigitChars_append, Nat.ofDigitChars_replicate_zero] at value
  unfold fraction
  split
  next none_left =>
    rw [none_left, Nat.ofDigitChars_nil, Nat.mul_zero] at value
    rw [← value]
    rfl
  · have places : precision - c.significant.length = zeros + 8 := by
      unfold precision
      omega
    rw [paddedDec_eq, places, Nat.pow_add, ← value]
    simp only [satoshiUnit]
    ring

theorem numberParts_str (c : C) :
    numberParts c.str.toList = some (Nat.toDigits 10 c.whole, c.fraction) := by
  have whole_digits :
      ∀ digit ∈ Nat.toDigits 10 c.whole, digit.isDigit = true :=
    fun digit mem => Nat.isDigit_of_mem_toDigits (by decide) (by decide) mem
  have fraction_digits : ∀ digit ∈ c.fraction, digit.isDigit = true :=
    fun digit mem => isDigit_of_mem_fraction mem
  rw [toList_str, numberParts]
  simp only [List.takeWhile_append_of_pos whole_digits,
    List.dropWhile_append_of_pos whole_digits]
  have point : ('.' : Char).isDigit = false := rfl
  simp [point, Nat.toDigits_ne_nil, List.takeWhile_eq_self_iff.mpr fraction_digits,
    List.dropWhile_eq_nil_iff.mpr fraction_digits, c.fraction_ne_nil,
    currencySuffix, endOfText]

theorem whole_eq (c : C) : c.whole = c.satoshi / COIN := by
  rw [satoshi, ← c.toFixedPoint.value_div, Nat.div_div_eq_div_mul]
  rfl

/-- A printed amount reads back cut to eight decimals. -/
theorem parse_str (c : C) : parse c.str.toList = .ok c.printed := by
  rw [parse, numberParts_str]
  simp only [if_neg c.fraction_ne_nil, Nat.ofDigitChars_ten_toDigits,
    paddedDec_fraction]
  rw [ofPieces_eq_ok_iff]
  have parts : c.satoshi * satoshiUnit =
      c.satoshi / COIN * decBase + c.satoshi % COIN * satoshiUnit := by
    have split := Nat.div_add_mod c.satoshi COIN
    simp only [COIN, satoshiUnit, decBase] at *
    omega
  have small := c.satoshi_mod_lt
  constructor
  · rw [← c.printed.toFixedPoint.value_div, ← val, val_printed, c.whole_eq]
    simp only [COIN, satoshiUnit, decBase] at *
    omega
  · rw [← c.printed.toFixedPoint.value_mod, ← val, val_printed]
    simp only [COIN, satoshiUnit, decBase] at *
    omega

/-- Amounts that print the same agree on eight decimals. -/
theorem str_eq_iff (a b : C) : a.str = b.str ↔ a.satoshi = b.satoshi := by
  constructor
  · intro same
    have parsed := a.parse_str
    rw [same, b.parse_str, Except.ok.injEq] at parsed
    rw [← satoshi_printed, ← parsed, satoshi_printed]
  · intro same
    rw [str, str, a.whole_eq, b.whole_eq, same]

/-- A fraction whose digits move is printed differently. -/
theorem str_reloaded_eq_iff (c : C) : c.reloaded.str = c.str ↔ c.Reloads := by
  constructor
  · intro same
    rw [str_eq_iff] at same
    by_contra moved
    rw [Reloads, not_or, Nat.not_le] at moved
    have high := (paddedDec_toDigits c.dec_lt).2 moved.1
    have reloaded_lt := c.reloaded.dec_lt
    have high : 1000000000000000 ≤ c.reloaded.dec := high
    have low := moved.2
    have whole_eq : c.reloaded.whole = c.whole := rfl
    simp only [satoshi, val, FixedPoint.value, whole_eq, decBase, satoshiUnit]
      at *
    omega
  · intro kept
    rw [(reloaded_eq_iff c).mpr kept]

end C
end Coinbend
