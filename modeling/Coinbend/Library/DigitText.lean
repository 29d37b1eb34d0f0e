import Mathlib.Data.List.DropRight
import Mathlib.Tactic.Ring

/-!
# Decimal digit strings

The number a text of decimal digits stands for, and what slicing, padding and
stripping the text does to it.
-/

namespace DigitText

/-- The text has digits only. -/
def Digits (text : List Char) : Prop :=
  ∀ digit ∈ text, digit.isDigit = true

/-- The number a text of digits stands for. -/
abbrev number (text : List Char) : Nat :=
  Nat.ofDigitChars 10 text 0

theorem digits_toDigits (n : Nat) : Digits (Nat.toDigits 10 n) := by
  intro digit mem
  exact Nat.isDigit_of_mem_toDigits (by decide) (by decide) mem

theorem digits_replicate_zero (n : Nat) : Digits (List.replicate n '0') := by
  intro digit mem
  rw [List.eq_of_mem_replicate mem]
  rfl

theorem Digits.append
    {first second : List Char}
    (first_digits : Digits first)
    (second_digits : Digits second) :
    Digits (first ++ second) := by
  intro digit mem
  rcases List.mem_append.mp mem with mem | mem
  · exact first_digits digit mem
  · exact second_digits digit mem

theorem Digits.of_subset
    {text part : List Char}
    (digits : Digits text)
    (subset : part ⊆ text) :
    Digits part :=
  fun digit mem => digits digit (subset mem)

/-- A character that is no digit is not in a text of digits. -/
theorem Digits.notMem
    {text : List Char}
    (digits : Digits text)
    {other : Char}
    (notDigit : other.isDigit = false) :
    other ∉ text := by
  intro mem
  have isDigit := digits other mem
  rw [notDigit] at isDigit
  cases isDigit

theorem number_append (first second : List Char) :
    number (first ++ second) =
      number first * 10 ^ second.length + number second := by
  rw [number, Nat.ofDigitChars_append, Nat.ofDigitChars_eq_ofDigitChars_zero,
    Nat.mul_comm]

theorem number_lt
    {text : List Char}
    (digits : Digits text) :
    number text < 10 ^ text.length := by
  induction text with
  | nil => decide
  | cons first text inductionHypothesis =>
      have first_digit := digits first List.mem_cons_self
      have first_lt : number [first] ≤ 9 := by
        rw [number, Nat.ofDigitChars_cons, Nat.ofDigitChars_nil]
        simp only [Char.isDigit, Bool.and_eq_true, decide_eq_true_eq]
          at first_digit
        have high : first.toNat ≤ 57 := by
          exact UInt32.le_iff_toNat_le.mp first_digit.2
        have zero : '0'.toNat = 48 := rfl
        omega
      have rest := inductionHypothesis (digits.of_subset (List.subset_cons_self _ _))
      rw [← List.singleton_append, number_append, List.length_append,
        List.length_singleton, Nat.add_comm 1, Nat.pow_succ]
      calc number [first] * 10 ^ text.length + number text
          < 9 * 10 ^ text.length + 10 ^ text.length :=
            Nat.add_lt_add_of_le_of_lt (Nat.mul_le_mul_right _ first_lt) rest
        _ = 10 ^ text.length * 10 := by ring

theorem number_toDigits (n : Nat) : number (Nat.toDigits 10 n) = n :=
  Nat.ofDigitChars_ten_toDigits

@[simp] theorem number_replicate_zero (n : Nat) :
    number (List.replicate n '0') = 0 := by
  rw [number, Nat.ofDigitChars_replicate_zero, Nat.mul_zero]

/-- Zeros on the left do not change a number. -/
theorem number_zeros_append (zeros : Nat) (text : List Char) :
    number (List.replicate zeros '0' ++ text) = number text := by
  rw [number_append, number_replicate_zero, Nat.zero_mul, Nat.zero_add]

/-- Zeros on the right multiply a number. -/
theorem number_append_zeros (text : List Char) (zeros : Nat) :
    number (text ++ List.replicate zeros '0') = number text * 10 ^ zeros := by
  rw [number_append, number_replicate_zero, List.length_replicate,
    Nat.add_zero]

section Slices

variable {text : List Char} (digits : Digits text) {places : Nat}
include digits

/-- The digits after the first ones are a remainder. -/
theorem number_slices (fits : places ≤ text.length) :
    number (text.take (text.length - places)) = number text / 10 ^ places ∧
      number (text.drop (text.length - places)) =
        number text % 10 ^ places := by
  have length : (text.drop (text.length - places)).length = places := by
    rw [List.length_drop]
    omega
  have small := number_lt
    (digits.of_subset (List.drop_subset (text.length - places) text))
  have split := number_append (text.take (text.length - places))
    (text.drop (text.length - places))
  rw [length] at small split
  rw [List.take_append_drop] at split
  constructor
  · rw [split, Nat.mul_comm, Nat.mul_add_div (Nat.pow_pos (by decide)),
      Nat.div_eq_of_lt small, Nat.add_zero]
  · rw [split, Nat.mul_comm, Nat.mul_add_mod, Nat.mod_eq_of_lt small]

end Slices

/-- What is stripped on the right are zeros. -/
theorem rdropWhile_zeros (text : List Char) :
    ∃ zeros, text = text.rdropWhile (· = '0') ++ List.replicate zeros '0' := by
  refine ⟨(text.rtakeWhile (· = '0')).length, ?_⟩
  have zeros : text.rtakeWhile (· = '0') =
      List.replicate (text.rtakeWhile (· = '0')).length '0' := by
    rw [List.eq_replicate_iff]
    exact ⟨rfl, fun digit mem => by simpa using List.mem_rtakeWhile_imp mem⟩
  rw [← zeros, List.rdropWhile_append_rtakeWhile]

/-- Stripping stops at a character that is no zero. -/
theorem rdropWhile_append_cons
    (front : List Char)
    {stop : Char}
    (notZero : stop ≠ '0')
    (back : List Char) :
    (front ++ stop :: back).rdropWhile (· = '0') =
      front ++ stop :: back.rdropWhile (· = '0') := by
  induction back using List.reverseRecOn with
  | nil => exact List.rdropWhile_concat_neg _ _ _ (by simpa using notZero)
  | append_singleton back last inductionHypothesis =>
      rw [← List.cons_append, ← List.append_assoc]
      by_cases zero : last = '0'
      · rw [List.rdropWhile_concat_pos _ _ _ (by simpa using zero),
          List.rdropWhile_concat_pos _ _ _ (by simpa using zero),
          inductionHypothesis]
      · rw [List.rdropWhile_concat_neg _ _ _ (by simpa using zero),
          List.rdropWhile_concat_neg _ _ _ (by simpa using zero)]
        simp

end DigitText
