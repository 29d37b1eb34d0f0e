import Coinbend.Library.ModularPower
import Mathlib.Tactic.NormNum.Prime

/-!
# The prime of secp256k1

The field of the curve secp256k1 has `p` elements.  That `p` is prime follows
from the factors of `p - 1` by Lucas's test, and so on down to small primes.
-/

namespace Secp256k1

open ModularPower

def p : ℕ :=
  0xfffffffffffffffffffffffffffffffffffffffffffffffffffffffefffffc2f

/-- The large factor of `p - 1`. -/
def largeFactor : ℕ :=
  205115282021455665897114700593932402728804164701536103180137503955397371

/-- A factor of a factor of a factor of `largeFactor - 1`. -/
def certificate₁ : Certificate :=
  ⟨173378833005251801, 6, [2, 2, 2, 5, 5, 2621, 24809, 13331831]⟩

def certificate₂ : Certificate :=
  ⟨22149492674086928081353, 5, [2, 2, 2, 3, 5323, 173378833005251801]⟩

def certificate₃ : Certificate :=
  ⟨132896956044521568488119, 6, [2, 3, 22149492674086928081353]⟩

def certificate₄ : Certificate :=
  ⟨255515944373312847190720520512484175977, 3,
    [2, 2, 2, 7, 7, 11, 1627, 2657, 4423, 41201, 96557, 7240687, 107590001]⟩

def certificate₅ : Certificate :=
  ⟨largeFactor, 10,
    [2, 3, 5, 29, 29, 31, 7723, 132896956044521568488119,
      255515944373312847190720520512484175977]⟩

def certificate₆ : Certificate :=
  ⟨p, 3, [2, 3, 7, 13441, largeFactor]⟩

theorem certificates_pass :
    ∀ certificate ∈ [certificate₁, certificate₂, certificate₃, certificate₄,
      certificate₅, certificate₆], certificate.passesLucas = true := by
  decide +kernel

theorem prime₁ : Nat.Prime 173378833005251801 := by
  apply certificate₁.prime_of_passesLucas (certificates_pass _ (by simp))
  simp only [certificate₁, List.forall_mem_cons]
  norm_num

theorem prime₂ : Nat.Prime 22149492674086928081353 := by
  apply certificate₂.prime_of_passesLucas (certificates_pass _ (by simp))
  simp only [certificate₂, List.forall_mem_cons, prime₁]
  norm_num

theorem prime₃ : Nat.Prime 132896956044521568488119 := by
  apply certificate₃.prime_of_passesLucas (certificates_pass _ (by simp))
  simp only [certificate₃, List.forall_mem_cons, prime₂]
  norm_num

theorem prime₄ : Nat.Prime 255515944373312847190720520512484175977 := by
  apply certificate₄.prime_of_passesLucas (certificates_pass _ (by simp))
  simp only [certificate₄, List.forall_mem_cons]
  norm_num

theorem prime_largeFactor : largeFactor.Prime := by
  apply certificate₅.prime_of_passesLucas (certificates_pass _ (by simp))
  simp only [certificate₅, List.forall_mem_cons, prime₃, prime₄]
  norm_num

theorem p_prime : p.Prime := by
  apply certificate₆.prime_of_passesLucas (certificates_pass _ (by simp))
  simp only [certificate₆, List.forall_mem_cons, prime_largeFactor]
  norm_num

theorem p_mod_four : p % 4 = 3 := by
  decide

end Secp256k1
