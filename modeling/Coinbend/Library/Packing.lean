import Mathlib.Data.List.Basic
import Mathlib.Tactic.NormNum

/-!
# Packed numbers

Numbers of fixed widths one after another, each in base 256 with its least
significant byte in front.
-/

namespace Packing

/-- The bytes of a number, least significant first. -/
def bytes : ℕ → ℕ → List UInt8
  | 0, _ => []
  | width + 1, number => UInt8.ofNat number :: bytes width (number / 256)

/-- The number whose bytes are given, least significant first. -/
def number : List UInt8 → ℕ
  | [] => 0
  | byte :: rest => byte.toNat + 256 * number rest

/-- Numbers with their widths in front; `none` when one is too large. -/
def pack : List (ℕ × ℕ) → Option (List UInt8)
  | [] => some []
  | (width, value) :: fields =>
      if value < 256 ^ width then
        (pack fields).map (bytes width value ++ ·)
      else none

/-- The numbers of some widths; `none` for another number of bytes. -/
def unpack : List ℕ → List UInt8 → Option (List ℕ)
  | [], [] => some []
  | [], _ :: _ => none
  | width :: widths, packed =>
      if packed.length < width then none
      else (unpack widths (packed.drop width)).map
        (number (packed.take width) :: ·)

-- The equations are made once here, before the proofs that use them.
attribute [local grind =] bytes number pack unpack

@[simp] theorem length_bytes (width value : ℕ) :
    (bytes width value).length = width := by
  induction width generalizing value with
  | zero => rfl
  | succ width hypothesis =>
      rw [bytes, List.length_cons, hypothesis]

/-- A number that fits is the number of its bytes. -/
theorem number_bytes
    {width value : ℕ}
    (fits : value < 256 ^ width) :
    number (bytes width value) = value := by
  induction width generalizing value with
  | zero =>
      rw [pow_zero, Nat.lt_one_iff] at fits
      exact fits.symm
  | succ width hypothesis =>
      have rest_fits : value / 256 < 256 ^ width := by
        rw [pow_succ] at fits
        exact Nat.div_lt_of_lt_mul (by rwa [Nat.mul_comm])
      rw [bytes, number, hypothesis rest_fits, UInt8.toNat_ofNat']
      exact Nat.mod_add_div value 256

/-- Bytes are the bytes of their number. -/
theorem bytes_number (packed : List UInt8) :
    bytes packed.length (number packed) = packed := by
  induction packed with
  | nil => rfl
  | cons byte packed hypothesis =>
      have byte_lt := byte.toNat_lt
      have rest : number (byte :: packed) / 256 = number packed := by
        rw [number]
        omega
      have first : UInt8.ofNat (number (byte :: packed)) = byte := by
        apply UInt8.toNat.inj
        rw [UInt8.toNat_ofNat', number]
        omega
      rw [List.length_cons, bytes, rest, hypothesis, first]

theorem number_lt (packed : List UInt8) :
    number packed < 256 ^ packed.length := by
  induction packed with
  | nil => exact Nat.one_pos
  | cons byte packed hypothesis =>
      have byte_lt := byte.toNat_lt
      rw [number, List.length_cons, pow_succ]
      omega

/-- Numbers that fit are packed one after another. -/
theorem pack_of_fits
    {fields : List (ℕ × ℕ)}
    (fits : ∀ field ∈ fields, field.2 < 256 ^ field.1) :
    pack fields = some (fields.flatMap fun field => bytes field.1 field.2) := by
  induction fields with
  | nil => rfl
  | cons field fields hypothesis =>
      rw [List.forall_mem_cons] at fits
      rw [pack, if_pos fits.1, hypothesis fits.2, Option.map_some,
        List.flatMap_cons]

/-- Packed numbers that fit are found again. -/
theorem unpack_flatMap_bytes
    {fields : List (ℕ × ℕ)}
    (fits : ∀ field ∈ fields, field.2 < 256 ^ field.1) :
    unpack (fields.map Prod.fst)
        (fields.flatMap fun field => bytes field.1 field.2) =
      some (fields.map Prod.snd) := by
  induction fields with
  | nil => rfl
  | cons field fields hypothesis =>
      rw [List.forall_mem_cons] at fits
      have length := length_bytes field.1 field.2
      have long : ¬(bytes field.1 field.2 ++
          fields.flatMap fun field => bytes field.1 field.2).length <
            field.1 := by
        rw [List.length_append, length]
        omega
      rw [List.map_cons, List.flatMap_cons, unpack, if_neg long,
        List.take_left' length, List.drop_left' length, number_bytes fits.1,
        hypothesis fits.2, Option.map_some, List.map_cons]

end Packing
