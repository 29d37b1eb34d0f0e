import Mathlib.Data.Nat.Digits.Lemmas

/-!
# Base 58

Numerals that keep their leading zeros can be taken from one base to another
and back.  Base 58 writes bytes this way, with an alphabet of letters and
digits that are not easily confused.
-/

namespace Radix

/-- The number of zeros in front of a numeral. -/
def leadingZeros (digits : List ℕ) : ℕ :=
  (digits.takeWhile (· == 0)).length

/-- A numeral in another base, most significant digit first, with as many
leading zeros. -/
def convert (base newBase : ℕ) (digits : List ℕ) : List ℕ :=
  List.replicate (leadingZeros digits) 0 ++
    (Nat.digits newBase (Nat.ofDigits base digits.reverse)).reverse

/-- Zeros in front of a numeral that has none. -/
theorem exists_replicate_append (digits : List ℕ) :
    ∃ zeros rest,
      digits = List.replicate zeros 0 ++ rest ∧ rest.head? ≠ some 0 := by
  induction digits with
  | nil => exact ⟨0, [], rfl, by simp⟩
  | cons digit digits hypothesis =>
      rcases Nat.eq_zero_or_pos digit with rfl | positive
      · obtain ⟨zeros, rest, same, significant⟩ := hypothesis
        exact ⟨zeros + 1, rest, by rw [same]; rfl, significant⟩
      · refine ⟨0, digit :: digits, rfl, ?_⟩
        rw [List.head?_cons, ne_eq, Option.some_inj]
        exact positive.ne'

theorem leadingZeros_replicate_append
    (zeros : ℕ)
    {rest : List ℕ}
    (significant : rest.head? ≠ some 0) :
    leadingZeros (List.replicate zeros 0 ++ rest) = zeros := by
  induction zeros with
  | zero =>
      cases rest with
      | nil => rfl
      | cons digit rest =>
          have nonzero : digit ≠ 0 := by simpa using significant
          simp [leadingZeros, nonzero]
  | succ zeros hypothesis =>
      rw [List.replicate_succ, List.cons_append, leadingZeros,
        List.takeWhile_cons_of_pos rfl, List.length_cons]
      exact congrArg Nat.succ hypothesis

theorem convert_replicate_append
    (base newBase zeros : ℕ)
    {rest : List ℕ}
    (significant : rest.head? ≠ some 0) :
    convert base newBase (List.replicate zeros 0 ++ rest) =
      List.replicate zeros 0 ++
        (Nat.digits newBase (Nat.ofDigits base rest.reverse)).reverse := by
  rw [convert, leadingZeros_replicate_append zeros significant,
    List.reverse_append, List.reverse_replicate,
    Nat.ofDigits_append_replicate_zero]

theorem head?_reverse_digits_ne (base number : ℕ) :
    (Nat.digits base number).reverse.head? ≠ some 0 := by
  rw [List.head?_reverse]
  rcases Nat.eq_zero_or_pos number with rfl | positive
  · simp
  · rw [List.getLast?_eq_some_getLast
      (Nat.digits_ne_nil_iff_ne_zero.mpr positive.ne'), ne_eq,
      Option.some_inj]
    exact Nat.getLast_digit_ne_zero base positive.ne'

/-- The digits of a number that has no leading zeros. -/
theorem digits_ofDigits_reverse
    {base : ℕ}
    (base_gt : 1 < base)
    {digits : List ℕ}
    (valid : ∀ digit ∈ digits, digit < base)
    (significant : digits.head? ≠ some 0) :
    Nat.digits base (Nat.ofDigits base digits.reverse) = digits.reverse := by
  apply Nat.digits_ofDigits base base_gt
  · intro digit member
    exact valid digit (List.mem_reverse.mp member)
  · intro nonempty zero
    apply significant
    rw [← List.getLast?_reverse, List.getLast?_eq_some_getLast nonempty, zero]

/-- A numeral taken to another base and back is itself. -/
theorem convert_convert
    {base newBase : ℕ}
    (base_gt : 1 < base)
    {digits : List ℕ}
    (valid : ∀ digit ∈ digits, digit < base) :
    convert newBase base (convert base newBase digits) = digits := by
  obtain ⟨zeros, rest, rfl, significant⟩ := exists_replicate_append digits
  have valid_rest : ∀ digit ∈ rest, digit < base := by
    intro digit member
    exact valid digit (List.mem_append_right _ member)
  rw [convert_replicate_append base newBase zeros significant,
    convert_replicate_append newBase base zeros
      (head?_reverse_digits_ne newBase _),
    List.reverse_reverse, Nat.ofDigits_digits,
    digits_ofDigits_reverse base_gt valid_rest significant,
    List.reverse_reverse]

theorem convert_lt
    {base newBase : ℕ}
    (newBase_gt : 1 < newBase)
    {digits : List ℕ} :
    ∀ digit ∈ convert base newBase digits, digit < newBase := by
  intro digit member
  rw [convert, List.mem_append, List.mem_reverse] at member
  rcases member with zero | written
  · rw [List.eq_of_mem_replicate zero]
    omega
  · exact Nat.digits_lt_base newBase_gt written

end Radix

namespace Base58

def alphabet : List Char :=
  "123456789ABCDEFGHJKLMNPQRSTUVWXYZabcdefghijkmnopqrstuvwxyz".toList

/-- The letter of a digit. -/
def letter (digit : ℕ) : Char :=
  alphabet.getD digit '1'

def encode (bytes : List UInt8) : List Char :=
  (Radix.convert 256 58 (bytes.map UInt8.toNat)).map letter

/-- The bytes of a text of letters of the alphabet. -/
def decode (text : List Char) : Option (List UInt8) :=
  (text.mapM fun char => alphabet.idxOf? char).map fun digits =>
    (Radix.convert 58 256 digits).map UInt8.ofNat

theorem idxOf?_letter {digit : ℕ} (valid : digit < 58) :
    alphabet.idxOf? (letter digit) = some digit := by
  revert digit
  decide

theorem mapM_idxOf?_letter
    {digits : List ℕ}
    (valid : ∀ digit ∈ digits, digit < 58) :
    (digits.map letter).mapM (fun char => alphabet.idxOf? char) =
      some digits := by
  induction digits with
  | nil => rfl
  | cons digit digits hypothesis =>
      rw [List.forall_mem_cons] at valid
      rw [List.map_cons, List.mapM_cons, idxOf?_letter valid.1,
        hypothesis valid.2]
      rfl

/-- Encoded bytes are decoded again. -/
theorem decode_encode (bytes : List UInt8) :
    decode (encode bytes) = some bytes := by
  have valid : ∀ digit ∈ bytes.map UInt8.toNat, digit < 256 := by
    intro digit member
    rw [List.mem_map] at member
    obtain ⟨byte, -, rfl⟩ := member
    exact byte.toNat_lt
  rw [decode, encode, mapM_idxOf?_letter (Radix.convert_lt (by norm_num)),
    Option.map_some, Radix.convert_convert (by norm_num) valid,
    List.map_map]
  congr 1
  rw [List.map_congr_left (g := id), List.map_id]
  intro byte _
  exact UInt8.ofNat_toNat

end Base58
