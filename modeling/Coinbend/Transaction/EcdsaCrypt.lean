import Coinbend.Currency.Text
import Coinbend.Library.Numerals
import Coinbend.Library.Secp256k1
import Coinbend.Library.TextCodes
import Coinbend.Transaction.Defs
import Mathlib.Data.Int.ModEq

/-!
# Public keys

`auto_bytes` and `pow_mod` of `lib.py`, and the public half of `ECDSACrypt`.
A public key is a point of secp256k1.  Messages carry it compressed, that is,
as its first coordinate and the parity of the second one, in base 64.
-/

namespace Coinbend

open Hexadecimal

/-! ## Fast exponentiation -/

/-- The loop of `pow_mod`; the modulus is positive. -/
def powModLoop (z number x : ℤ) (y : ℕ) : ℤ :=
  if y = 0 then number
  else
    powModLoop z (if y % 2 = 1 then number * x % z else number)
      (x * x % z) (y / 2)
  termination_by y

/-- `pow_mod`. -/
def powMod (x : ℤ) (y : ℕ) (z : ℤ) : ℤ :=
  powModLoop z 1 x y

/-- The loop multiplies a reduced number by the power that is left. -/
theorem powModLoop_eq
    {z number : ℤ}
    (reduced : number % z = number)
    (x : ℤ)
    (y : ℕ) :
    powModLoop z number x y = number * x ^ y % z := by
  induction y using Nat.strong_induction_on generalizing number x with
  | _ y hypothesis =>
      rw [powModLoop]
      rcases Nat.eq_zero_or_pos y with rfl | positive
      · rw [if_pos rfl, pow_zero, mul_one, reduced]
      · have less : y / 2 < y := by omega
        have split := ModularPower.pow_eq_sq_pow x y
        have squares : (x * x % z) ^ (y / 2) ≡ (x * x) ^ (y / 2) [ZMOD z] :=
          (Int.mod_modEq _ _).pow _
        rw [if_neg positive.ne']
        split_ifs with odd
        · rw [odd, pow_one] at split
          rw [hypothesis (y / 2) less (Int.emod_emod_of_dvd _ dvd_rfl), split,
            ← mul_assoc]
          exact (Int.mod_modEq _ _).mul squares
        · rw [show y % 2 = 0 by omega, pow_zero, one_mul] at split
          rw [hypothesis (y / 2) less reduced, split]
          exact squares.mul_left number

/-- `pow_mod` is exponentiation modulo a number. -/
theorem powMod_eq (x : ℤ) (y : ℕ) {z : ℤ} (modulus : 1 < z) :
    powMod x y z = x ^ y % z := by
  rw [powMod, powModLoop_eq (Int.emod_eq_of_lt (by omega) modulus), one_mul]

/-! ## Texts and bytes -/

/-- A Python value that is a `str` or `bytes`. -/
inductive PyData
  | text (s : Text)
  | bytes (b : Bytes)

def isHexDigit (char : Char) : Bool :=
  (digitOf char).isSome

def isBase64Char (char : Char) : Bool :=
  char.isAlphanum || char == '+' || char == '=' || char == '/'

/-- `^[class]+$`. -/
def allInClass (inClass : Char → Bool) (text : Text) : Bool :=
  text.takeWhile inClass ≠ [] ∧ endOfText (text.dropWhile inClass)

/-- `^[#][0-9a-fA-F]+$`. -/
def isHexText : Text → Bool
  | '#' :: text => allInClass isHexDigit text
  | _ => false

/-- `auto_bytes`. -/
def autoBytes : PyData → Except PyError Bytes
  | .bytes b => .ok b
  | .text s =>
      if isHexText s ∧ (s.length - 1) % 2 = 0 then
        Except.ofOption .binasciiError (unhexlify (s.drop 1))
      else
        match if allInClass isBase64Char s then Base64.decode s else none with
        | some b => .ok b
        | none => encodeAscii s

/-! ## Compression -/

/-- `compress_public_key`. -/
def compressPublicKey (publicKey : PyData) : Except PyError Bytes := do
  let publicKey ← autoBytes publicKey
  let publicKey := hexlify publicKey
  let offset := if publicKey.length = 128 then 0 else 2
  let x ← Except.ofOption .valueError
    (readNumber ((publicKey.take (64 + offset)).drop offset))
  let y ← Except.ofOption .valueError
    (readNumber (publicKey.drop (65 + offset)))
  let keyPrefix := if y % 2 ≠ 0 then "03".toList else "02".toList
  Except.ofOption .binasciiError (unhexlify (keyPrefix ++ padded x 64))

/-- `decompress_public_key`. -/
def decompressPublicKey (publicKey : PyData) : Except PyError Bytes := do
  let publicKey ← autoBytes publicKey
  let publicKey := hexlify publicKey
  let p : ℤ := Secp256k1.p
  let parity ← Except.ofOption .valueError
    (Numerals.readInt isSpace (publicKey.take 2))
  let yParity := parity - 2
  let x ← Except.ofOption .valueError (readNumber (publicKey.drop 2))
  let a := (powMod x 3 p + 7) % p
  let y := powMod a ((Secp256k1.p + 1) / 4) p
  let y := if y % 2 ≠ yParity then -y % p else y
  Except.ofOption .binasciiError
    (unhexlify ("04".toList ++ padded x 64 ++ padded y.toNat 64))

/-- `parse_public_key`. -/
def parsePublicKey (publicKey : PyData) : Except PyError Bytes := do
  let publicKey ← autoBytes publicKey
  if publicKey.length = 64 then
    return publicKey
  else if publicKey.length = 65 then
    return publicKey.drop 1
  else if publicKey.length = 32 then
    throw (.exception "Prefix byte for compressed pub key not known.")
  else if publicKey.length = 33 then
    let decompressed ← decompressPublicKey (.bytes publicKey)
    return decompressed.drop 1
  else
    return publicKey

/-! ## The key object -/

/-- The public half of an `ECDSACrypt` object. -/
structure EcdsaPublic where
  publicKey : Bytes
  useCompression : Bool
  deriving DecidableEq

/-- `ECDSACrypt(public_key)`.  The parameter tells whether
`VerifyingKey.from_string(public_key, SECP256k1)` returns. -/
def EcdsaPublic.new
    (fromString : Bytes → Bool)
    (publicKey : PyData) : Except PyError EcdsaPublic := do
  let publicKey ← autoBytes publicKey
  let publicKey ← parsePublicKey (.bytes publicKey)
  Except.raiseIf (fromString publicKey = false) (.assertionError "")
  return { publicKey, useCompression := true }

/-- `get_public_key(f="bin")`. -/
def EcdsaPublic.getPublicKeyBin (self : EcdsaPublic) :
    Except PyError Bytes := do
  let publicKeyHex := "04".toList ++ hexlify self.publicKey
  let publicKey ← Except.ofOption .binasciiError (unhexlify publicKeyHex)
  if self.useCompression then compressPublicKey (.bytes publicKey)
  else return publicKey

/-- `get_public_key()`. -/
def EcdsaPublic.getPublicKey (self : EcdsaPublic) : Except PyError Text := do
  let publicKey ← self.getPublicKeyBin
  return Base64.encode publicKey

/-! ## Points -/

/-- Two coordinates of 32 bytes that are a point of the curve. -/
structure CurvePoint where
  x : Bytes
  y : Bytes
  length_x : x.length = 32
  length_y : y.length = 32
  x_lt : bytesNumber x < Secp256k1.p
  y_lt : bytesNumber y < Secp256k1.p
  onCurve : bytesNumber y ^ 2 % Secp256k1.p =
    (bytesNumber x ^ 3 + 7) % Secp256k1.p

namespace CurvePoint

variable (point : CurvePoint)

/-- `x || y`. -/
def raw : Bytes :=
  point.x ++ point.y

/-- `04 || x || y`. -/
def uncompressed : Bytes :=
  4 :: point.raw

/-- The first coordinate after a byte with the parity of the second one. -/
def compressed : Bytes :=
  (if bytesNumber point.y % 2 ≠ 0 then 3 else 2) :: point.x

theorem x_ne_nil : point.x ≠ [] := by
  rw [← List.length_pos_iff_ne_nil, point.length_x]
  norm_num

theorem y_ne_nil : point.y ≠ [] := by
  rw [← List.length_pos_iff_ne_nil, point.length_y]
  norm_num

/-- The slices of the text of two coordinates after a prefix. -/
theorem slices (front : Text) :
    ((front ++ hexlify point.raw).take (64 + front.length)).drop
        front.length = hexlify point.x ∧
      (front ++ hexlify point.raw).drop (65 + front.length) =
        (hexlify point.y).drop 1 := by
  have hex_x : (hexlify point.x).length = 64 := by
    rw [length_hexlify, point.length_x]
  rw [raw, hexlify_append]
  constructor
  · rw [Nat.add_comm, List.take_length_add_append, List.drop_left]
    exact List.take_left' hex_x
  · rw [Nat.add_comm, List.drop_length_add_append,
      show 65 = (hexlify point.x).length + 1 by rw [hex_x],
      List.drop_length_add_append]

/-- A prefix byte in front of a coordinate. -/
theorem hexlify_lead (bytes : Bytes) :
    hexlify (2 :: bytes) = "02".toList ++ hexlify bytes ∧
      hexlify (3 :: bytes) = "03".toList ++ hexlify bytes ∧
      hexlify (4 :: bytes) = "04".toList ++ hexlify bytes :=
  ⟨rfl, rfl, rfl⟩

theorem padded_x : padded (bytesNumber point.x) 64 = hexlify point.x := by
  rw [← padded_bytesNumber, point.length_x]

theorem padded_y : padded (bytesNumber point.y) 64 = hexlify point.y := by
  rw [← padded_bytesNumber, point.length_y]

/-- What the compression makes of the text of a key, with or without its
prefix byte. -/
theorem compressPublicKey_of_hexlify
    {key : Bytes}
    {front : Text}
    (text : hexlify key = front ++ hexlify point.raw)
    (offset : (if (hexlify key).length = 128 then 0 else 2) = front.length) :
    compressPublicKey (.bytes key) = .ok point.compressed := by
  obtain ⟨first, second⟩ := point.slices front
  obtain ⟨y, read, parity⟩ := exists_readNumber_drop_one point.y_ne_nil
  obtain ⟨two, three, -⟩ := hexlify_lead point.x
  have joined : (if y % 2 ≠ 0 then "03".toList else "02".toList) ++
      padded (bytesNumber point.x) 64 = hexlify point.compressed := by
    rw [padded_x, parity, compressed]
    split_ifs with odd
    · exact three.symm
    · exact two.symm
  unfold compressPublicKey
  simp only [autoBytes, Except.ok_bind]
  rw [offset, text, first, second, readNumber_hexlify point.x_ne_nil, read]
  simp only [Except.ofOption, Except.ok_bind, joined, unhexlify_hexlify]

theorem compressPublicKey_uncompressed :
    compressPublicKey (.bytes point.uncompressed) = .ok point.compressed := by
  apply point.compressPublicKey_of_hexlify (hexlify_lead point.raw).2.2
  rw [length_hexlify, List.length_cons, raw, List.length_append,
    point.length_x, point.length_y]
  rfl

theorem compressPublicKey_raw :
    compressPublicKey (.bytes point.raw) = .ok point.compressed := by
  apply point.compressPublicKey_of_hexlify (List.nil_append _).symm
  rw [length_hexlify, raw, List.length_append, point.length_x, point.length_y]
  rfl

/-! ## Decompression -/

/-- The root the code computes, with the parity it wants, is the second
coordinate. -/
theorem decompressed_y :
    (let p : ℤ := Secp256k1.p
      let a := (powMod (bytesNumber point.x) 3 p + 7) % p
      let y := powMod a ((Secp256k1.p + 1) / 4) p
      if y % 2 ≠ (bytesNumber point.y % 2 : ℕ) then -y % p else y) =
      bytesNumber point.y := by
  have large : (1 : ℤ) < Secp256k1.p := by decide
  have less : (bytesNumber point.y : ℤ) < Secp256k1.p := by
    exact_mod_cast point.y_lt
  have square :
      (((bytesNumber point.x : ℤ) ^ 3 % Secp256k1.p + 7) % Secp256k1.p) %
          Secp256k1.p =
        (bytesNumber point.y : ℤ) ^ 2 % Secp256k1.p := by
    rw [Int.emod_emod_of_dvd _ dvd_rfl, Int.emod_add_emod]
    exact_mod_cast point.onCurve.symm
  simp only [powMod_eq _ _ large]
  push_cast
  exact ModularPower.root_of_parity Secp256k1.p_prime Secp256k1.p_mod_four
    square (by omega) less

theorem readInt_parity :
    Numerals.readInt isSpace ((hexlify point.compressed).take 2) =
      some (2 + (bytesNumber point.y % 2 : ℕ) : ℤ) := by
  obtain ⟨two, three, -⟩ := hexlify_lead point.x
  rw [compressed]
  rcases Nat.mod_two_eq_zero_or_one (bytesNumber point.y) with even | odd
  · rw [even, if_neg (by simp), two]
    change Numerals.readInt isSpace "02".toList = some (2 + 0)
    decide +kernel
  · rw [odd, if_pos (by simp), three]
    change Numerals.readInt isSpace "03".toList = some (2 + 1)
    decide +kernel

theorem decompressPublicKey_compressed :
    decompressPublicKey (.bytes point.compressed) =
      .ok point.uncompressed := by
  have tail : (hexlify point.compressed).drop 2 = hexlify point.x := by
    rw [compressed]
    split_ifs <;> rfl
  have root := point.decompressed_y
  simp only at root
  have joined : "04".toList ++ padded (bytesNumber point.x) 64 ++
      padded (bytesNumber point.y) 64 = hexlify point.uncompressed := by
    rw [padded_x, padded_y, uncompressed, (hexlify_lead _).2.2, raw,
      hexlify_append, List.append_assoc]
  unfold decompressPublicKey
  simp only [autoBytes, Except.ok_bind, readInt_parity, tail,
    readNumber_hexlify point.x_ne_nil, Except.ofOption, add_sub_cancel_left,
    root, Int.toNat_natCast, joined, unhexlify_hexlify]

/-! ## Keys in messages -/

theorem length_compressed : point.compressed.length = 33 := by
  rw [compressed, List.length_cons, point.length_x]

/-- A compressed key in base 64 is read as its bytes. -/
theorem autoBytes_compressed :
    autoBytes (.text (Base64.encode point.compressed)) =
      .ok point.compressed := by
  have safe : (Base64.alphabet ++ ['=']).all (fun char =>
      isBase64Char char && char != '#') = true := by
    rfl
  have letters : ∀ char ∈ Base64.encode point.compressed,
      isBase64Char char = true ∧ char ≠ '#' := by
    intro char member
    rw [← bne_iff_ne, ← Bool.and_eq_true]
    apply List.all_eq_true.mp safe
    rw [List.mem_append, List.mem_singleton]
    exact Base64.mem_encode char member
  generalize text_eq : Base64.encode point.compressed = text at letters
  have decoded : Base64.decode text = some point.compressed := by
    rw [← text_eq, Base64.decode_encode]
  have nonempty : text ≠ [] := by
    rintro rfl
    have length := point.length_compressed
    cases decoded
  have not_hex : isHexText text = false := by
    cases text with
    | nil => rfl
    | cons first text =>
        have other := (letters first List.mem_cons_self).2
        unfold isHexText
        split
        · simp_all
        · rfl
  have in_class : allInClass isBase64Char text = true := by
    have all : ∀ char ∈ text, isBase64Char char = true :=
      fun char member => (letters char member).1
    rw [allInClass, List.takeWhile_eq_self_iff.mpr all,
      List.dropWhile_eq_nil_iff.mpr all]
    simp [nonempty, endOfText]
  simp only [autoBytes, not_hex, in_class, decoded]
  simp

/-- A compressed key is parsed into its coordinates. -/
theorem parsePublicKey_compressed :
    parsePublicKey (.bytes point.compressed) = .ok point.raw := by
  unfold parsePublicKey
  simp only [autoBytes, Except.ok_bind, point.length_compressed,
    point.decompressPublicKey_compressed]
  rfl

/-- A key with the coordinates of a point is shown compressed. -/
theorem getPublicKey_raw :
    EcdsaPublic.getPublicKey ⟨point.raw, true⟩ =
      .ok (Base64.encode point.compressed) := by
  have text : "04".toList ++ hexlify point.raw =
      hexlify point.uncompressed :=
    (hexlify_lead point.raw).2.2.symm
  simp only [EcdsaPublic.getPublicKey, EcdsaPublic.getPublicKeyBin, text,
    unhexlify_hexlify, Except.ofOption, Except.ok_bind, if_true,
    point.compressPublicKey_uncompressed]
  rfl

/-- The key that a shown key makes. -/
theorem new_compressed
    {fromString : Bytes → Bool}
    (accepted : fromString point.raw = true) :
    EcdsaPublic.new fromString (.text (Base64.encode point.compressed)) =
      .ok ⟨point.raw, true⟩ := by
  simp only [EcdsaPublic.new, point.autoBytes_compressed, Except.ok_bind,
    point.parsePublicKey_compressed]
  rw [Except.raiseIf_bind (by simp [accepted])]
  rfl

end CurvePoint

/-- Compression loses nothing: of points with or without the prefix byte, of
compressed keys and of keys shown in messages; and `pow_mod` is exponentiation
modulo a number. -/
theorem compression_lossless
    (fromString : Bytes → Bool)
    (accepts : ∀ point : CurvePoint, fromString point.raw = true) :
    (∀ point : CurvePoint,
      ∃ compressed,
        compressPublicKey (.bytes (4 :: (point.x ++ point.y))) =
          .ok compressed ∧
        compressPublicKey (.bytes (point.x ++ point.y)) = .ok compressed ∧
        decompressPublicKey (.bytes compressed) =
          .ok (4 :: (point.x ++ point.y))) ∧
    (∀ point : CurvePoint,
      ∃ decompressed,
        decompressPublicKey (.bytes point.compressed) = .ok decompressed ∧
        compressPublicKey (.bytes decompressed) = .ok point.compressed) ∧
    (∀ (key : EcdsaPublic) (point : CurvePoint),
      key.useCompression = true → key.publicKey = point.x ++ point.y →
      ∃ shown again,
        key.getPublicKey = .ok shown ∧
        EcdsaPublic.new fromString (.text shown) = .ok again ∧
        again.getPublicKey = .ok shown) ∧
    ∀ (x : ℤ) (y : ℕ) (z : ℤ), 1 < z → powMod x y z = x ^ y % z := by
  refine ⟨?_, ?_, ?_, ?_⟩
  · intro point
    exact ⟨point.compressed, point.compressPublicKey_uncompressed,
      point.compressPublicKey_raw, point.decompressPublicKey_compressed⟩
  · intro point
    exact ⟨point.uncompressed, point.decompressPublicKey_compressed,
      point.compressPublicKey_uncompressed⟩
  · rintro ⟨publicKey, useCompression⟩ point rfl rfl
    exact ⟨_, _, point.getPublicKey_raw,
      point.new_compressed (accepts point), point.getPublicKey_raw⟩
  · intro x y z modulus
    exact powMod_eq x y modulus

/-- The check of `VerifyingKey.from_string`: two coordinates of a point. -/
def isPointText (key : Bytes) : Bool :=
  let x := bytesNumber (key.take 32)
  let y := bytesNumber (key.drop 32)
  decide (key.length = 64 ∧ x < Secp256k1.p ∧ y < Secp256k1.p ∧
    y ^ 2 % Secp256k1.p = (x ^ 3 + 7) % Secp256k1.p)

theorem CurvePoint.isPointText_raw (point : CurvePoint) :
    isPointText point.raw = true := by
  have first : point.raw.take 32 = point.x := List.take_left' point.length_x
  have second : point.raw.drop 32 = point.y := List.drop_left' point.length_x
  simp only [isPointText, first, second, decide_eq_true_eq]
  refine ⟨?_, point.x_lt, point.y_lt, point.onCurve⟩
  rw [raw, List.length_append, point.length_x, point.length_y]

namespace Sample

/-- The base point of secp256k1. -/
def basePoint : CurvePoint where
  x := [121, 190, 102, 126, 249, 220, 187, 172, 85, 160, 98, 149, 206, 135, 11,
    7, 2, 155, 252, 219, 45, 206, 40, 217, 89, 242, 129, 91, 22, 248, 23, 152]
  y := [72, 58, 218, 119, 38, 163, 196, 101, 93, 164, 251, 252, 14, 17, 8, 168,
    253, 23, 180, 72, 166, 133, 84, 25, 156, 71, 208, 143, 251, 16, 212, 184]
  length_x := rfl
  length_y := rfl
  x_lt := by decide +kernel
  y_lt := by decide +kernel
  onCurve := by decide +kernel

end Sample

/-- The base point comes back from its compressed encoding. -/
theorem compression_lossless_of_basePoint :
    ∃ compressed,
      compressPublicKey (.bytes (4 :: (Sample.basePoint.x ++
        Sample.basePoint.y))) = .ok compressed ∧
      compressPublicKey (.bytes (Sample.basePoint.x ++
        Sample.basePoint.y)) = .ok compressed ∧
      decompressPublicKey (.bytes compressed) =
        .ok (4 :: (Sample.basePoint.x ++ Sample.basePoint.y)) :=
  (compression_lossless isPointText CurvePoint.isPointText_raw).1
    Sample.basePoint

end Coinbend
