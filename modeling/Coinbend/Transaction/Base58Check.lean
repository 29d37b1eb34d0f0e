import Coinbend.Library.Base58
import Coinbend.Transaction.Defs

/-!
# Texts with a checksum

Addresses and exported private keys are written in base 58 with four bytes of
a double SHA-256 at their end.  Both `address.py` and `private_key.py` cut the
decoded bytes with Python slices.
-/

namespace Coinbend

/-- The library functions under addresses and exported keys. -/
structure Base58Lib where
  /-- `hashlib.sha256(data).digest()`. -/
  sha256 : Bytes → Bytes
  /-- `hashlib.new('ripemd160', data).digest()`. -/
  ripemd160 : Bytes → Bytes
  /-- `bitcoin.base58.encode`. -/
  base58encode : Bytes → String
  /-- `bitcoin.base58.decode`; `none` when it raises. -/
  base58decode : String → Option Bytes

/-- `raw[:-4]`. -/
def dropLastFour (raw : Bytes) : Bytes :=
  raw.take (raw.length - 4)

/-- `raw[-4:]`. -/
def lastFour (raw : Bytes) : Bytes :=
  raw.drop (raw.length - 4)

theorem dropLastFour_append (front : Bytes) {four : Bytes}
    (length : four.length = 4) :
    dropLastFour (front ++ four) = front := by
  rw [dropLastFour, List.length_append, length, Nat.add_sub_cancel,
    List.take_left]

theorem lastFour_append (front : Bytes) {four : Bytes}
    (length : four.length = 4) :
    lastFour (front ++ four) = four := by
  rw [lastFour, List.length_append, length, Nat.add_sub_cancel,
    List.drop_left]

theorem length_lastFour_le (raw : Bytes) : (lastFour raw).length ≤ 4 := by
  rw [lastFour, List.length_drop]
  omega

namespace Base58Lib

variable (lib : Base58Lib)

/-- The first four bytes of the double SHA-256. -/
def checksum (bytes : Bytes) : Bytes :=
  (lib.sha256 (lib.sha256 bytes)).take 4

/-- The last four bytes are the checksum of the bytes before them. -/
def Sealed (raw : Bytes) : Prop :=
  lastFour raw = lib.checksum (dropLastFour raw)

instance (raw : Bytes) : Decidable (lib.Sealed raw) :=
  inferInstanceAs (Decidable (_ = _))

/-- What the program relies on: digests have 32 bytes, and what is encoded can
be decoded. -/
structure Lawful : Prop where
  sha256_length : ∀ bytes, (lib.sha256 bytes).length = 32
  decode_encode : ∀ bytes,
    lib.base58decode (lib.base58encode bytes) = some bytes

variable {lib}

theorem Lawful.length_checksum (lawful : lib.Lawful) (bytes : Bytes) :
    (lib.checksum bytes).length = 4 := by
  rw [checksum, List.length_take, lawful.sha256_length]
  rfl

/-- Base 58 itself, with a table of digests. -/
def ofDigests (digests : List (Bytes × Bytes)) : Base58Lib where
  sha256 := fun bytes =>
    (digests.lookup bytes).getD (List.replicate 32 0)
  ripemd160 := fun _ => List.replicate 20 0
  base58encode := fun bytes => String.ofList (Base58.encode bytes)
  base58decode := fun text => Base58.decode text.toList

theorem lawful_ofDigests
    {digests : List (Bytes × Bytes)}
    (lengths : ∀ entry ∈ digests, entry.2.length = 32) :
    (ofDigests digests).Lawful where
  sha256_length := by
    intro bytes
    change ((digests.lookup bytes).getD _).length = 32
    cases found : digests.lookup bytes with
    | none => rfl
    | some digest =>
        obtain ⟨entry, member, -, rfl⟩ :
            ∃ entry ∈ digests, entry.1 = bytes ∧ entry.2 = digest := by
          induction digests with
          | nil => cases found
          | cons entry digests hypothesis =>
              rw [List.forall_mem_cons] at lengths
              rw [List.lookup_cons] at found
              split at found
              next same =>
                exact ⟨entry, List.mem_cons_self, (beq_iff_eq.mp same).symm,
                  Option.some_inj.mp found⟩
              next =>
                obtain ⟨other, member, same⟩ := hypothesis lengths.2 found
                exact ⟨other, List.mem_cons_of_mem _ member, same⟩
        exact lengths entry member
  decode_encode := by
    intro bytes
    change Base58.decode (String.ofList (Base58.encode bytes)).toList =
      some bytes
    rw [String.toList_ofList, Base58.decode_encode]

end Base58Lib

end Coinbend
