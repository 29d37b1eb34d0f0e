import Coinbend.Currency.Defs
import Coinbend.Library.Raising
import Mathlib.Data.List.Sublists

/-!
# Transactions

The part of python-bitcoinlib's data model the program reads and writes, and
the helpers of `coinlib.py`, `address.py` and `microtransfer_contract.py` over
it.  Hashing, signing, script evaluation and the wire format of transactions
are the library's; they enter as the fields of `BitcoinLib`.
-/

namespace Coinbend

abbrev Bytes := List UInt8

/-- Transaction id in display order (`b2lx` of the hash bytes). -/
abbrev Txid := String

/-- Base64 text of a compressed public key. -/
abbrev PubKey := String

/-- Bytes of an ECDSA signature. -/
abbrev Sig := String

abbrev Address := String

/-- A three-of-four multi-signature redeem script. -/
structure RedeemScript where
  keys : List PubKey
  deriving DecidableEq

inductive Script
  /-- `CScript([OP_DUP, OP_HASH160, hash, OP_EQUALVERIFY, OP_CHECKSIG])`. -/
  | p2pkh (hash : Bytes)
  /-- `CScript([OP_HASH160, hash, OP_EQUAL])`. -/
  | p2sh (hash : Bytes)
  /-- `CScript([OP_0, first, second, third, redeem_script["bin"]])`. -/
  | spend (first second third : Sig) (redeem : RedeemScript)
  | raw (bytes : Bytes)
  deriving DecidableEq

structure COutPoint where
  hash : Txid
  n : Nat
  deriving DecidableEq

structure CTxIn where
  prevout : COutPoint
  scriptSig : Script
  nSequence : Nat
  deriving DecidableEq

structure CTxOut where
  nValue : Int
  scriptPubKey : Script
  deriving DecidableEq

structure CTransaction where
  nVersion : Int
  vin : List CTxIn
  vout : List CTxOut
  nLockTime : Nat
  deriving DecidableEq

/-- The sequence number of a final input. -/
def finalSequence : Nat := 0xffffffff

/-- The amounts an output can hold. -/
def FitsInt64 (value : Int) : Prop :=
  -2 ^ 63 ≤ value ∧ value < 2 ^ 63

instance (value : Int) : Decidable (FitsInt64 value) :=
  inferInstanceAs (Decidable (_ ∧ _))

/-- Every number of the transaction fits its field of the wire format. -/
structure CTransaction.Packs (tx : CTransaction) : Prop where
  version : -2 ^ 31 ≤ tx.nVersion ∧ tx.nVersion < 2 ^ 31
  lockTime : tx.nLockTime < 2 ^ 32
  inputs : ∀ input ∈ tx.vin,
    input.prevout.n < 2 ^ 32 ∧ input.nSequence < 2 ^ 32
  outputs : ∀ output ∈ tx.vout, FitsInt64 output.nValue

/-- The library functions the program calls.  `Hex` is the type of serialised
transactions. -/
structure BitcoinLib (Hex : Type) where
  /-- `CTransaction.deserialize(unhexlify(tx_hex))`; `none` when it raises. -/
  deserialize : Hex → Option CTransaction
  /-- `b2x(tx.serialize())`; `none` when a field is out of range. -/
  serialize : CTransaction → Option Hex
  deserialize_of_serialize : ∀ {tx hex},
    serialize tx = some hex → deserialize hex = some tx
  /-- `calculate_txid`: double SHA-256 of the serialised bytes. -/
  calculateTxid : Hex → Txid
  /-- `Hash160` of a redeem script. -/
  hash160 : RedeemScript → Bytes
  /-- `Hash160` of a public key. -/
  keyHash : PubKey → Bytes
  /-- Whether `VerifyScript(script_sig, script_pub_key, tx, 0,
  (SCRIPT_VERIFY_P2SH,))` returns. -/
  verifyScript : Script → Script → CTransaction → Bool
  /-- Signature of input 0 with the private key of a public key. -/
  sign : PubKey → RedeemScript → CTransaction → Sig
  /-- `bitcoin.base58.decode`; `none` when it raises. -/
  base58decode : String → Option Bytes

namespace BitcoinLib

variable {Hex : Type} (lib : BitcoinLib Hex)

/-- `CTransaction.deserialize`, raising. -/
def parse (hex : Hex) : Except PyError CTransaction :=
  Except.ofOption .deserializationError (lib.deserialize hex)

/-- `tx.serialize()`, raising. -/
def print (tx : CTransaction) : Except PyError Hex :=
  Except.ofOption .structError (lib.serialize tx)

theorem parse_eq_ok_iff (hex : Hex) (tx : CTransaction) :
    lib.parse hex = .ok tx ↔ lib.deserialize hex = some tx :=
  Except.ofOption_eq_ok_iff _ _ _

theorem print_eq_ok_iff (tx : CTransaction) (hex : Hex) :
    lib.print tx = .ok hex ↔ lib.serialize tx = some hex :=
  Except.ofOption_eq_ok_iff _ _ _

/-- A printed transaction parses back. -/
theorem parse_print {tx : CTransaction} {hex : Hex}
    (printed : lib.print tx = .ok hex) :
    lib.parse hex = .ok tx := by
  rw [parse_eq_ok_iff]
  apply lib.deserialize_of_serialize
  exact (lib.print_eq_ok_iff tx hex).mp printed

end BitcoinLib

/-- `deconstruct_address(addr)["hash"]`; an address that does not decode has
the text `"unknown"` there, which no script accepts. -/
def addressHash {Hex : Type} (lib : BitcoinLib Hex) (addr : Address) :
    Except PyError Bytes := do
  let raw ← Except.ofOption .typeError (lib.base58decode addr)
  return (raw.drop 1).take (raw.length - 5)

/-- `deconstruct_address(addr)["is_valid"]`.  The stored checksum is compared
with itself, so only decoding and the version byte can fail. -/
def addressIsValid {Hex : Type} (lib : BitcoinLib Hex) (addr : Address) :
    Bool :=
  match lib.base58decode addr with
  | some raw => raw ≠ []
  | none => false

/-- `Decimal(str_money_value(value))`: the text is the floor of the coins, a
point and the remaining satoshi, so below zero it is not the value itself. -/
def strMoneyValue (value : Int) : ℚ :=
  let coins := value / COIN
  let rest := value % COIN
  if coins < 0 then coins - rest / COIN else coins + rest / COIN

theorem COIN_pos : 0 < COIN := by decide

/-- The text of an amount that is not negative is the amount. -/
theorem strMoneyValue_of_nonneg {value : Int} (nonneg : 0 ≤ value) :
    strMoneyValue value = value / COIN := by
  have coins_nonneg : ¬value / COIN < 0 := by
    rw [not_lt]
    exact Int.ediv_nonneg nonneg (by decide)
  have split : value = COIN * (value / COIN) + value % COIN :=
    (Int.mul_ediv_add_emod value COIN).symm
  have coin_ne : (COIN : ℚ) ≠ 0 := by
    exact_mod_cast COIN_pos.ne'
  simp only [strMoneyValue, if_neg coins_nonneg]
  rw [eq_div_iff coin_ne, add_mul, div_mul_cancel₀ _ coin_ne]
  conv_rhs => rw [split]
  push_cast
  ring

theorem strMoneyValue_of_neg {value : Int} (negative : value < 0) :
    strMoneyValue value < 0 := by
  have coins_neg : value / COIN < 0 := Int.ediv_neg_of_neg_of_pos negative (by decide)
  have rest_nonneg : (0 : ℚ) ≤ (value % COIN : ℤ) := by
    exact_mod_cast Int.emod_nonneg value (by decide)
  have coins_neg_cast : ((value / COIN : ℤ) : ℚ) < 0 := by
    exact_mod_cast coins_neg
  have coin_nonneg : (0 : ℚ) ≤ COIN := by
    exact_mod_cast COIN_pos.le
  simp only [strMoneyValue, if_pos coins_neg]
  have := div_nonneg rest_nonneg coin_nonneg
  linarith

/-- An output worth at least an amount holds its satoshi. -/
theorem satoshi_le_iff (amount : C) (value : Int) :
    ¬strMoneyValue value < amount.asDecimal ↔ (amount.satoshi : Int) ≤ value := by
  have coin_pos : (0 : ℚ) < COIN := by
    exact_mod_cast COIN_pos
  rcases lt_or_ge value 0 with negative | nonneg
  · have worthless := strMoneyValue_of_neg negative
    have amount_nonneg : 0 ≤ amount.asDecimal :=
      div_nonneg (Nat.cast_nonneg _) coin_pos.le
    constructor
    · intro enough
      exact absurd (lt_of_lt_of_le worthless amount_nonneg) enough
    · intro enough
      omega
  · rw [strMoneyValue_of_nonneg nonneg, C.asDecimal, not_lt,
      div_le_div_iff_of_pos_right coin_pos]
    exact_mod_cast Iff.rfl

/-- The bytes of a text. -/
def textBytes (text : String) : Bytes :=
  text.toList.map fun char => UInt8.ofNat char.toNat

/-- `text.encode("ascii")`. -/
def encodeAscii (text : List Char) : Except PyError Bytes :=
  if text.all fun char => char.toNat < 128 then
    .ok (text.map fun char => UInt8.ofNat char.toNat)
  else .error .valueError

/-- A library for small examples: a transaction is its own serialised form,
its id is a text of its first input, a key signs by its name, and a spending
script is accepted when three of the keys of the redeem script signed in
order. -/
def BitcoinLib.transparent : BitcoinLib CTransaction where
  deserialize := some
  serialize := some
  deserialize_of_serialize := Eq.symm
  calculateTxid := fun tx =>
    match tx.vin with
    | [] => "tx"
    | input :: _ => "tx:" ++ input.prevout.hash
  hash160 := fun redeem => redeem.keys.flatMap textBytes
  keyHash := textBytes
  verifyScript := fun scriptSig scriptPubKey _ =>
    match scriptSig, scriptPubKey with
    | .spend first second third redeem, .p2sh hash =>
        hash = redeem.keys.flatMap textBytes ∧
          [first, second, third] ∈
            (redeem.keys.map ("sig:" ++ ·)).sublistsLen 3
    | _, _ => false
  sign := fun key _ _ => "sig:" ++ key
  base58decode := fun text => some (0 :: textBytes text ++ [0, 0, 0, 0])

/-- The two scripts of one contract output: who is "us" and who is "them". -/
inductive Side
  | us
  | them
  deriving DecidableEq, Repr

/-- The keys of a contract: both of ours, both of theirs and the arbiter's. -/
structure ContractKeys where
  ecdsaUs : PubKey × PubKey
  ecdsaThem : PubKey × PubKey
  ecdsaArbiter : PubKey
  deriving DecidableEq

/-- `bond_redeem_script`. -/
def bondRedeemScript (keys : ContractKeys) : Side → RedeemScript
  | .us =>
      ⟨[keys.ecdsaUs.1, keys.ecdsaUs.2, keys.ecdsaThem.1, keys.ecdsaArbiter]⟩
  | .them =>
      ⟨[keys.ecdsaThem.1, keys.ecdsaThem.2, keys.ecdsaUs.1,
        keys.ecdsaArbiter]⟩

/-- The output script of a redeem script. -/
def p2shScript {Hex : Type} (lib : BitcoinLib Hex) (redeem : RedeemScript) :
    Script :=
  .p2sh (lib.hash160 redeem)

/-- `tx.vin[0].scriptSig = script`; `none` on a transaction without inputs. -/
def CTransaction.setScriptSig (tx : CTransaction) (script : Script) :
    Option CTransaction :=
  match tx.vin with
  | [] => none
  | input :: inputs =>
      some { tx with vin := { input with scriptSig := script } :: inputs }

theorem CTransaction.setScriptSig_vout
    {tx signed : CTransaction} {script : Script}
    (set : tx.setScriptSig script = some signed) :
    signed.vout = tx.vout := by
  unfold setScriptSig at set
  split at set
  · cases set
  · cases set
    rfl

end Coinbend
