import Coinbend.Transaction.Base58Check

/-!
# Exported private keys

`private_to_wif` and `wif_to_private` of `private_key.py`.  The decoder cuts
every text to 37 bytes to remove the compression flag.  The flag stands before
the checksum, so a compressed key loses the last byte of its checksum instead
and keeps the flag in its place.  The checksum is returned and never compared.
-/

namespace Coinbend

/-- The list `private_to_wif` returns: the text, and what it was made of. -/
structure WifExport where
  priv : String
  version : UInt8
  compressed : Bool
  checksum : Bytes
  deriving DecidableEq

/-- The list `wif_to_private` returns. -/
structure WifImport where
  priv : Bytes
  version : UInt8
  compressed : Bool
  checksum : Bytes
  deriving DecidableEq

section

variable (lib : Base58Lib)

/-- `private_to_wif`; `selfVersion` is the version of the currency. -/
def privateToWif
    (selfVersion : Option UInt8)
    (priv : Bytes)
    (version : Option UInt8)
    (compressed : Bool) : Except PyError WifExport := do
  let version ← Except.ofOption .typeError (version.or selfVersion)
  let priv := [version] ++ priv
  let priv := if compressed then priv ++ [1] else priv
  let checksum := lib.sha256 priv
  let checksum := lib.sha256 checksum
  let checksum := checksum.take 4
  let priv := priv ++ checksum
  return ⟨lib.base58encode priv, version, compressed, checksum⟩

/-- `wif_to_private`. -/
def wifToPrivate (text : String) : Except PyError WifImport := do
  let priv ← Except.ofOption .valueError (lib.base58decode text)
  let compressed := decide (priv.length = 38)
  let priv := priv.take 37
  let version ← Except.ofOption .indexError priv.head?
  let checksum := lastFour priv
  let priv := dropLastFour priv
  let priv := priv.drop 1
  return ⟨priv, version, compressed, checksum⟩

/-- The bytes under the checksum of an exported key. -/
def wifPayload (priv : Bytes) (version : UInt8) (compressed : Bool) : Bytes :=
  version :: priv ++ if compressed then [1] else []

theorem privateToWif_eq
    (selfVersion : Option UInt8)
    (priv : Bytes)
    (version : UInt8)
    (compressed : Bool) :
    privateToWif lib selfVersion priv (some version) compressed = .ok
      { priv := lib.base58encode (wifPayload priv version compressed ++
          lib.checksum (wifPayload priv version compressed))
        version
        compressed
        checksum := lib.checksum (wifPayload priv version compressed) } := by
  cases compressed with
  | false =>
      simp only [wifPayload, Bool.false_eq_true, if_false, List.append_nil]
      rfl
  | true => rfl

theorem wifToPrivate_of_decode
    {text : String}
    {version : UInt8}
    {rest : Bytes}
    (decoded : lib.base58decode text = some (version :: rest)) :
    wifToPrivate lib text = .ok
      { priv := (dropLastFour (version :: rest.take 36)).drop 1
        version
        compressed := decide (rest.length = 37)
        checksum := lastFour (version :: rest.take 36) } := by
  simp only [wifToPrivate, decoded]
  have flag : decide ((version :: rest).length = 38) =
      decide (rest.length = 37) := by
    rw [List.length_cons, decide_eq_decide]
    omega
  rw [← flag]
  rfl

/-- Only texts without a byte are refused. -/
theorem wifToPrivate_eq_error_iff (text : String) :
    (∃ error, wifToPrivate lib text = .error error) ↔
      ¬∃ raw, lib.base58decode text = some raw ∧ raw ≠ [] := by
  cases decoded : lib.base58decode text with
  | none =>
      simp only [wifToPrivate, decoded]
      exact iff_of_true ⟨_, rfl⟩ (by simp)
  | some raw =>
      cases raw with
      | nil =>
          simp only [wifToPrivate, decoded]
          exact iff_of_true ⟨_, rfl⟩ (by simp)
      | cons version rest =>
          rw [wifToPrivate_of_decode lib decoded]
          simp

/-- An exported key is imported with its version, its flag and its
checksum. -/
def RoundTrips
    (selfVersion : Option UInt8)
    (priv : Bytes)
    (version : UInt8)
    (compressed : Bool) : Prop :=
  ∃ exported,
    privateToWif lib selfVersion priv (some version) compressed =
      .ok exported ∧
    wifToPrivate lib exported.priv =
      .ok ⟨priv, version, compressed, exported.checksum⟩

/-- A text whose last four bytes are not the checksum of the rest is
refused. -/
def CorruptionRefused (text : String) : Prop :=
  ∀ raw, lib.base58decode text = some raw → ¬lib.Sealed raw →
    ∃ error, wifToPrivate lib text = .error error

theorem corruptionRefused_iff (text : String) :
    CorruptionRefused lib text ↔
      ¬∃ raw, lib.base58decode text = some raw ∧ raw ≠ [] ∧
        ¬lib.Sealed raw := by
  simp only [CorruptionRefused, wifToPrivate_eq_error_iff]
  cases lib.base58decode text with
  | none => simp
  | some raw =>
      simp only [Option.some_inj, exists_eq_left', forall_eq']
      tauto

variable {lib}

/-- What the import of an exported key returns. -/
theorem wifToPrivate_privateToWif
    (lawful : lib.Lawful)
    {priv : Bytes}
    (length : priv.length = 32)
    (version : UInt8)
    (compressed : Bool) :
    wifToPrivate lib (lib.base58encode
        (wifPayload priv version compressed ++
          lib.checksum (wifPayload priv version compressed))) =
      .ok
        { priv
          version
          compressed
          checksum :=
            if compressed then
              1 :: (lib.checksum (wifPayload priv version compressed)).take 3
            else
              lib.checksum (wifPayload priv version compressed) } := by
  have four := lawful.length_checksum (wifPayload priv version compressed)
  have decoded := lawful.decode_encode (wifPayload priv version compressed ++
    lib.checksum (wifPayload priv version compressed))
  generalize lib.checksum (wifPayload priv version compressed) = checksum
    at four decoded ⊢
  cases compressed with
  | false =>
      simp only [wifPayload, Bool.false_eq_true, if_false, List.append_nil,
        List.cons_append] at decoded ⊢
      have imported := wifToPrivate_of_decode lib decoded
      have cut : (priv ++ checksum).take 36 = priv ++ checksum := by
        apply List.take_of_length_le
        rw [List.length_append, length, four]
      have front := dropLastFour_append (version :: priv) four
      have back := lastFour_append (version :: priv) four
      rw [List.cons_append] at front back
      rw [imported, cut, front, back]
      simp [length, four]
  | true =>
      simp only [wifPayload, if_true, List.append_assoc, List.cons_append,
        List.nil_append] at decoded ⊢
      have imported := wifToPrivate_of_decode lib decoded
      -- The first 36 bytes after the version are the key, the flag and three
      -- bytes of the checksum.
      have cut : (priv ++ 1 :: checksum).take 36 =
          priv ++ 1 :: checksum.take 3 := by
        rw [List.take_append, length, List.take_of_length_le (by omega)]
        rfl
      have moved : (1 :: checksum.take 3).length = 4 := by
        rw [List.length_cons, List.length_take, four]
        rfl
      have front := dropLastFour_append (version :: priv) moved
      have back := lastFour_append (version :: priv) moved
      rw [List.cons_append] at front back
      rw [imported, cut, front, back]
      simp [length, four]

theorem eq_one_cons_take_iff
    {checksum : Bytes}
    (four : checksum.length = 4) :
    1 :: checksum.take 3 = checksum ↔ checksum = [1, 1, 1, 1] := by
  match checksum, four with
  | [first, second, third, fourth], _ =>
      simp only [List.take_succ_cons, List.take_zero, List.cons.injEq]
      constructor
      · rintro ⟨rfl, rfl, rfl, rfl, -⟩
        simp
      · rintro ⟨rfl, rfl, rfl, rfl, -⟩
        simp

theorem roundTrips_iff
    (lawful : lib.Lawful)
    (selfVersion : Option UInt8)
    {priv : Bytes}
    (length : priv.length = 32)
    (version : UInt8)
    (compressed : Bool) :
    RoundTrips lib selfVersion priv version compressed ↔
      compressed = false ∨
        lib.checksum (wifPayload priv version true) = [1, 1, 1, 1] := by
  have imported := wifToPrivate_privateToWif lawful length version compressed
  simp only [RoundTrips, privateToWif_eq, Except.ok.injEq, exists_eq_left',
    imported, WifImport.mk.injEq, true_and]
  cases compressed with
  | false => simp
  | true =>
      have four := lawful.length_checksum (wifPayload priv version true)
      simp [eq_one_cons_take_iff four]

/-- Exported keys come back whole unless they are compressed, and corrupt
texts are refused only when they have no byte. -/
theorem wif_faithful_iff (lawful : lib.Lawful) :
    (∀ (selfVersion : Option UInt8) (priv : Bytes) (version : UInt8)
        (compressed : Bool),
      priv.length = 32 →
      (RoundTrips lib selfVersion priv version compressed ↔
        compressed = false ∨
          lib.checksum (wifPayload priv version true) = [1, 1, 1, 1])) ∧
    ∀ text, CorruptionRefused lib text ↔
      ¬∃ raw, lib.base58decode text = some raw ∧ raw ≠ [] ∧
        ¬lib.Sealed raw := by
  constructor
  · intro selfVersion priv version compressed length
    exact roundTrips_iff lawful selfVersion length version compressed
  · exact corruptionRefused_iff lib

end

namespace Sample

def exportedKey : Bytes :=
  [12, 40, 252, 163, 134, 199, 162, 39, 96, 11, 47, 229, 11, 124, 174, 17,
    236, 134, 211, 191, 31, 190, 71, 27, 232, 152, 39, 225, 157, 114, 170, 29]

def exportedDigest : Bytes :=
  [181, 4, 168, 27, 102, 146, 68, 130, 162, 137, 206, 87, 26, 97, 76, 55, 177,
    34, 244, 12, 239, 176, 171, 186, 2, 39, 225, 67, 21, 76, 33, 83]

def exportedDoubleDigest : Bytes :=
  [166, 32, 25, 210, 3, 64, 161, 222, 27, 95, 37, 79, 7, 242, 246, 201, 106,
    213, 22, 82, 24, 69, 154, 180, 243, 200, 245, 167, 192, 225, 33, 131]

/-- The digests of one compressed key with the version byte of the Bitcoin
network. -/
def exportedKeyLib : Base58Lib :=
  .ofDigests [(128 :: exportedKey ++ [1], exportedDigest),
    (exportedDigest, exportedDoubleDigest)]

theorem exportedKeyLib_lawful : exportedKeyLib.Lawful := by
  apply Base58Lib.lawful_ofDigests
  decide

end Sample

/-- The uncompressed key comes back whole. -/
theorem wif_faithful_of_uncompressed :
    RoundTrips Sample.exportedKeyLib none Sample.exportedKey 128 false :=
  ((wif_faithful_iff Sample.exportedKeyLib_lawful).1 none Sample.exportedKey
    128 false rfl).mpr (.inl rfl)

/-- The compressed key comes back with another checksum, and a text with a
wrong last letter is imported. -/
theorem wif_not_faithful :
    ¬RoundTrips Sample.exportedKeyLib none Sample.exportedKey 128 true ∧
      ¬CorruptionRefused Sample.exportedKeyLib
        "KwdMAjGmerYanjeui5SHS7JkmpZvVipYvB2LJGU1ZxJwYvP98618" := by
  constructor
  · rw [roundTrips_iff Sample.exportedKeyLib_lawful none rfl]
    decide +kernel
  · rw [corruptionRefused_iff, not_not]
    refine ⟨128 :: Sample.exportedKey ++ [1, 166, 32, 25, 211], ?_, ?_, ?_⟩
    · change Base58.decode
          "KwdMAjGmerYanjeui5SHS7JkmpZvVipYvB2LJGU1ZxJwYvP98618".toList = _
      decide +kernel
    · exact List.cons_ne_nil _ _
    · decide +kernel

end Coinbend
