import Mathlib.FieldTheory.Finite.Basic
import Mathlib.NumberTheory.LucasPrimality
import Mathlib.Tactic.Ring

/-!
# Powers modulo a prime

Powers by repeated squaring, which evaluate for large exponents; Lucas's test
for primes with a factored predecessor; and square roots modulo a prime that is
three above a multiple of four.
-/

namespace ModularPower

/-! ## Repeated squaring -/

/-- `base ^ exponent % modulus` for an exponent of at most `bits` bits. -/
def power (modulus : ℕ) : ℕ → ℕ → ℕ → ℕ
  | 0, _, _ => 1 % modulus
  | bits + 1, base, exponent =>
      let squares := power modulus bits (base * base % modulus) (exponent / 2)
      if exponent % 2 = 0 then squares else base * squares % modulus

/-- A power is a power of the square, times the base when the exponent is
odd. -/
theorem pow_eq_sq_pow {M : Type} [CommMonoid M] (base : M) (exponent : ℕ) :
    base ^ exponent = base ^ (exponent % 2) * (base * base) ^ (exponent / 2) := by
  rw [← pow_two, ← pow_mul, ← pow_add, Nat.mod_add_div]

theorem power_eq
    (modulus : ℕ)
    {bits exponent : ℕ}
    (short : exponent < 2 ^ bits)
    (base : ℕ) :
    power modulus bits base exponent = base ^ exponent % modulus := by
  induction bits generalizing base exponent with
  | zero =>
      have zero : exponent = 0 := by simpa using short
      rw [power, zero, pow_zero]
  | succ bits hypothesis =>
      have half : exponent / 2 < 2 ^ bits := by
        rw [pow_succ] at short
        omega
      rw [power, hypothesis half, ← Nat.pow_mod]
      rcases Nat.mod_two_eq_zero_or_one exponent with even | odd
      · rw [if_pos even, pow_eq_sq_pow base exponent, even, pow_zero, one_mul]
      · rw [if_neg (by omega), Nat.mul_mod_mod, pow_eq_sq_pow base exponent,
          odd, pow_one]

/-! ## Lucas's test -/

/-- A number, a base whose order is to be the number's predecessor, and the
prime factors of the predecessor. -/
structure Certificate where
  number : ℕ
  base : ℕ
  factors : List ℕ

namespace Certificate

/-- The predecessor of the number has the given factors, and the base has the
predecessor as its order. -/
def passesLucas (certificate : Certificate) : Bool :=
  decide (1 < certificate.number ∧ certificate.number < 2 ^ 256 ∧
    certificate.factors.prod = certificate.number - 1 ∧
    power certificate.number 256 certificate.base
      (certificate.number - 1) = 1) &&
  certificate.factors.all fun factor =>
    decide (power certificate.number 256 certificate.base
      ((certificate.number - 1) / factor) ≠ 1)

/-- The number of a certificate that passes the test is prime. -/
theorem prime_of_passesLucas
    (certificate : Certificate)
    (passes : certificate.passesLucas = true)
    (primes : ∀ factor ∈ certificate.factors, factor.Prime) :
    certificate.number.Prime := by
  obtain ⟨number, base, factors⟩ := certificate
  simp only [passesLucas, Bool.and_eq_true, decide_eq_true_eq,
    List.all_eq_true] at passes primes ⊢
  obtain ⟨⟨some_factor, bounded, product, whole⟩, parts⟩ := passes
  have evaluated {exponent : ℕ} (le : exponent ≤ number - 1) :
      ((base : ZMod number) ^ exponent = 1) ↔
        power number 256 base exponent = 1 := by
    rw [power_eq number (by omega) base, ← Nat.cast_pow, ← Nat.cast_one,
      ZMod.natCast_eq_natCast_iff', Nat.mod_eq_of_lt some_factor]
  refine lucas_primality number base ((evaluated le_rfl).mpr whole) ?_
  intro divisor divisor_prime divides
  rw [← product] at divides
  obtain ⟨factor, member, divides_factor⟩ :=
    (Prime.dvd_prod_iff divisor_prime.prime).mp divides
  have same : divisor = factor :=
    (Nat.prime_dvd_prime_iff_eq divisor_prime (primes factor member)).mp
      divides_factor
  rw [same, ne_eq, evaluated (Nat.div_le_self _ _)]
  exact parts factor member

end Certificate

/-! ## Square roots -/

section Root

variable {p : ℕ} (prime : p.Prime) (three_mod_four : p % 4 = 3)
include prime three_mod_four

/-- The power is a root of a square or its opposite. -/
theorem pow_quarter_eq_or
    {square root : ℤ}
    (same : square % p = root ^ 2 % p) :
    square ^ ((p + 1) / 4) % p = root % p ∨
      square ^ ((p + 1) / 4) % p = -root % p := by
  have : Fact p.Prime := ⟨prime⟩
  simp only [← ZMod.intCast_eq_intCast_iff'] at same ⊢
  push_cast at same ⊢
  have squared : ((square : ZMod p) ^ ((p + 1) / 4)) ^ 2 =
      (root : ZMod p) ^ 2 := by
    have exponent : 2 * ((p + 1) / 4 * 2) = p + 1 := by omega
    rw [same, ← pow_mul, ← pow_mul, exponent, pow_succ, ZMod.pow_card,
      pow_two]
  exact sq_eq_sq_iff_eq_or_eq_neg.mp squared

/-- Of the root found and its opposite, the one with the parity of a root is
that root. -/
theorem root_of_parity
    {square root : ℤ}
    (same : square % p = root ^ 2 % p)
    (nonneg : 0 ≤ root)
    (less : root < p) :
    (if square ^ ((p + 1) / 4) % p % 2 ≠ root % 2 then
        -(square ^ ((p + 1) / 4) % p) % p
      else square ^ ((p + 1) / 4) % p) = root := by
  have odd : (p : ℤ) % 2 = 1 := by omega
  have reduced : root % p = root := Int.emod_eq_of_lt nonneg less
  rcases pow_quarter_eq_or prime three_mod_four same with found | found
  · rw [found, reduced, if_neg (by simp)]
  · rcases nonneg.eq_or_lt with zero | positive
    · rw [found, ← zero]
      simp
    · have opposite : -root % p = p - root := by
        rw [Int.emod_eq_add_self_emod,
          Int.emod_eq_of_lt (by omega) (by omega)]
        ring
      rw [found, opposite, if_pos (by omega), neg_sub,
        Int.emod_eq_add_self_emod, sub_add_cancel, reduced]

end Root

end ModularPower
