import Coinbend.Transaction.Base58Check

/-!
# Addresses

`deconstruct_address` and `construct_address` of `address.py`.  The checksum
an address should have is computed and then overwritten with the checksum it
has, so the comparison cannot fail: every text that decodes to at least one
byte is a valid address.
-/

namespace Coinbend

/-- The answer of `deconstruct_address`; `none` is the text `"unknown"`. -/
structure DeconstructedAddress where
  isValid : Bool
  address : Address
  version : Option Bytes
  hash : Option Bytes
  checksum : Option Bytes
  deriving DecidableEq

/-- The `Address` object: whether it makes script hash addresses, and the
version byte of its currency when it is known. -/
structure AddressFormat where
  isP2sh : Bool
  version : Option Bytes

section

variable (lib : Base58Lib)

/-- The answer after an exception. -/
def unknownAddress (addr : Address) : DeconstructedAddress where
  isValid := false
  address := addr
  version := none
  hash := none
  checksum := none

set_option linter.unusedVariables false in
/-- `deconstruct_address`.  With another checksum `is_valid` would stay
unbound. -/
def deconstructAddress (addr : Address) :
    Except PyError DeconstructedAddress :=
  match lib.base58decode addr with
  | none => .ok (unknownAddress addr)
  | some [] => .ok (unknownAddress addr)
  | some (versionByte :: rest) =>
      let rawAddr := versionByte :: rest
      let version := [versionByte]
      let addrHash := (dropLastFour rawAddr).drop 1
      let checksum := lastFour rawAddr
      let validChecksum := lib.sha256 (dropLastFour rawAddr)
      let validChecksum := lib.sha256 validChecksum
      let validChecksum := checksum.take 4
      if checksum = validChecksum then
        .ok ⟨true, addr, version, addrHash, checksum⟩
      else
        .error (.nameError "is_valid")

/-- `construct_address`. -/
def AddressFormat.constructAddress
    (self : AddressFormat)
    (plaintext : Bytes)
    (version : Option Bytes)
    (hashed : Bool) : Except PyError Address := do
  Except.raiseIf
    (self.isP2sh = false ∧ (plaintext.length = 32 ∨ plaintext.length = 64))
    (.exception "No prefix byte for pub key in construct addr")
  let hash2 :=
    if hashed then plaintext else lib.ripemd160 (lib.sha256 plaintext)
  let version ← Except.ofOption .typeError (version.or self.version)
  let addr := version ++ hash2
  let checksum := lib.sha256 addr
  let checksum := lib.sha256 checksum
  let checksum := checksum.take 4
  return lib.base58encode (addr ++ checksum)

/-- What a decoded address is taken apart into, whatever its checksum. -/
theorem deconstructAddress_of_decode
    {addr : Address}
    {versionByte : UInt8}
    {rest : Bytes}
    (decoded : lib.base58decode addr = some (versionByte :: rest)) :
    deconstructAddress lib addr = .ok
      { isValid := true
        address := addr
        version := some [versionByte]
        hash := some ((dropLastFour (versionByte :: rest)).drop 1)
        checksum := some (lastFour (versionByte :: rest)) } := by
  have whole : (lastFour (versionByte :: rest)).take 4 =
      lastFour (versionByte :: rest) :=
    List.take_of_length_le (length_lastFour_le _)
  simp only [deconstructAddress, decoded]
  rw [whole, if_pos rfl]

/-- `deconstruct_address` always returns, and it only tells whether there was
a byte to decode. -/
theorem deconstructAddress_eq_ok (addr : Address) :
    ∃ parts, deconstructAddress lib addr = .ok parts ∧
      (parts.isValid = true ↔
        ∃ raw, lib.base58decode addr = some raw ∧ raw ≠ []) := by
  cases decoded : lib.base58decode addr with
  | none =>
      exact ⟨unknownAddress addr, by simp only [deconstructAddress, decoded],
        by simp [unknownAddress]⟩
  | some raw =>
      cases raw with
      | nil =>
          exact ⟨unknownAddress addr,
            by simp only [deconstructAddress, decoded],
            by simp [unknownAddress]⟩
      | cons versionByte rest =>
          exact ⟨_, deconstructAddress_of_decode lib decoded, by simp⟩

/-- An address that was not corrupted. -/
def GoodAddress (addr : Address) : Prop :=
  ∃ raw, lib.base58decode addr = some raw ∧ 5 ≤ raw.length ∧ lib.Sealed raw

/-- A text that decodes to too few bytes, but some, or to bytes with another
checksum. -/
def CorruptAddress (addr : Address) : Prop :=
  ∃ raw, lib.base58decode addr = some raw ∧ raw ≠ [] ∧
    (raw.length < 5 ∨ ¬lib.Sealed raw)

/-- The verdict on a text is the one its checksum gives. -/
def JudgedByChecksum (addr : Address) : Prop :=
  ∃ parts, deconstructAddress lib addr = .ok parts ∧
    (parts.isValid = true ↔ GoodAddress lib addr)

theorem judgedByChecksum_iff (addr : Address) :
    JudgedByChecksum lib addr ↔ ¬CorruptAddress lib addr := by
  obtain ⟨parts, returned, verdict⟩ := deconstructAddress_eq_ok lib addr
  have judged : JudgedByChecksum lib addr ↔
      (parts.isValid = true ↔ GoodAddress lib addr) := by
    simp [JudgedByChecksum, returned]
  rw [judged, verdict, GoodAddress, CorruptAddress]
  cases lib.base58decode addr with
  | none => simp
  | some raw =>
      have nonempty : 5 ≤ raw.length → raw ≠ [] := by
        rintro long rfl
        simp at long
      simp only [Option.some_inj, exists_eq_left', ← not_lt]
        at nonempty ⊢
      tauto

variable {lib}

/-- A constructed address is taken apart into what it was made of. -/
theorem deconstruct_construct
    (lawful : lib.Lawful)
    (self : AddressFormat)
    (versionByte : UInt8)
    {hash : Bytes}
    (length : hash.length = 20) :
    ∃ addr parts,
      self.constructAddress lib hash (some [versionByte]) true = .ok addr ∧
      deconstructAddress lib addr = .ok parts ∧
      parts.isValid = true ∧
      parts.version = some [versionByte] ∧
      parts.hash = some hash := by
  have four := lawful.length_checksum (versionByte :: hash)
  have decoded := lawful.decode_encode
    (versionByte :: (hash ++ lib.checksum (versionByte :: hash)))
  have parts := deconstructAddress_of_decode lib decoded
  rw [← List.cons_append, dropLastFour_append _ four] at parts
  refine ⟨_, _, ?_, parts, rfl, rfl, rfl⟩
  have plain :
      ¬(self.isP2sh = false ∧ (hash.length = 32 ∨ hash.length = 64)) := by
    rw [length]
    omega
  simp only [AddressFormat.constructAddress, Except.raiseIf, if_neg plain]
  rfl

/-- Constructed addresses go round, and the verdict on a text is right unless
the text is corrupt. -/
theorem deconstructAddress_detects_iff (lawful : lib.Lawful) :
    (∀ (self : AddressFormat) (versionByte : UInt8) (hash : Bytes),
      hash.length = 20 →
      ∃ addr parts,
        self.constructAddress lib hash (some [versionByte]) true = .ok addr ∧
        deconstructAddress lib addr = .ok parts ∧
        parts.isValid = true ∧
        parts.version = some [versionByte] ∧
        parts.hash = some hash) ∧
    ∀ addr, JudgedByChecksum lib addr ↔ ¬CorruptAddress lib addr := by
  constructor
  · intro self versionByte hash length
    exact deconstruct_construct lawful self versionByte length
  · exact judgedByChecksum_iff lib

end

namespace Sample

def keyHash : Bytes :=
  [98, 233, 7, 177, 92, 191, 39, 213, 66, 83, 153, 235, 246, 240, 251, 80,
    235, 184, 143, 24]

def keyDigest : Bytes :=
  [155, 144, 241, 109, 231, 240, 229, 128, 192, 119, 53, 218, 193, 95, 254,
    35, 226, 248, 248, 225, 3, 145, 78, 80, 154, 169, 25, 19, 255, 219, 159,
    182]

def keyDoubleDigest : Bytes :=
  [194, 155, 125, 147, 126, 48, 73, 226, 121, 57, 30, 98, 253, 240, 12, 18,
    222, 247, 68, 64, 19, 221, 246, 33, 88, 8, 209, 14, 159, 45, 89, 150]

/-- The digests of one key hash with the version byte zero. -/
def keyHashLib : Base58Lib :=
  .ofDigests [(0 :: keyHash, keyDigest), (keyDigest, keyDoubleDigest)]

theorem keyHashLib_lawful : keyHashLib.Lawful := by
  apply Base58Lib.lawful_ofDigests
  decide

end Sample

/-- The address of the key hash, and the verdict on it. -/
theorem deconstructAddress_detects_of_keyHash :
    JudgedByChecksum Sample.keyHashLib
      "1A1zP1eP5QGefi2DMPTfTL5SLmv7DivfNa" := by
  have detects := deconstructAddress_detects_iff Sample.keyHashLib_lawful
  apply (detects.2 _).mpr
  rintro ⟨raw, decoded, -, corrupt⟩
  have whole : Base58.decode
      "1A1zP1eP5QGefi2DMPTfTL5SLmv7DivfNa".toList =
        some (0 :: Sample.keyHash ++ Sample.keyDoubleDigest.take 4) := by
    decide +kernel
  cases decoded.symm.trans whole
  revert corrupt
  decide +kernel

/-- One letter of that address changed: its checksum is wrong and it is still
valid. -/
theorem deconstructAddress_misses_corruption :
    (deconstructAddress Sample.keyHashLib
        "1A1zP1eP5QGefi2DMPTfTL5SLmv7DivfNb").map
          DeconstructedAddress.isValid = .ok true ∧
      ¬GoodAddress Sample.keyHashLib
        "1A1zP1eP5QGefi2DMPTfTL5SLmv7DivfNb" := by
  constructor
  · decide +kernel
  · rintro ⟨raw, decoded, -, good⟩
    have whole : Base58.decode
        "1A1zP1eP5QGefi2DMPTfTL5SLmv7DivfNb".toList =
          some (0 :: Sample.keyHash ++ [194, 155, 125, 148]) := by
      decide +kernel
    cases decoded.symm.trans whole
    revert good
    decide +kernel

end Coinbend
