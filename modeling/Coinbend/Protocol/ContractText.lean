import Coinbend.Library.Numerals
import Coinbend.Protocol.Chunks

/-!
# Contract messages as text

The text of a contract message is its 26 fields in one order with a space
between each two, and `parse_contract` takes it apart by position.  A side's
deposit outputs are numbers with an underscore after each, and may be none.
Reading a printed message is reading its fields; what is lost on the way is
the server key of the seller, which is never used.
-/

namespace Coinbend

/-- The texts between the spaces of a contract message. -/
structure ContractFields where
  version : Text
  ntp : Text
  orderHash : Text
  pair : Text
  amount : Text
  ppc : Text
  buyerAddress : Text
  sellerAddress : Text
  buyerPubKey1 : Text
  buyerPubKey2 : Text
  serverPubKey1 : Text
  sellerPubKey1 : Text
  sellerPubKey2 : Text
  serverPubKey2 : Text
  buyerDepositTxid : Text
  buyerVouts : Text
  sellerDepositTxid : Text
  sellerVouts : Text
  baseUsdWorth : Text
  quoteUsdWorth : Text
  amountChunk : Text
  totalChunk : Text
  buyerSig1 : Text
  buyerSig2 : Text
  sellerSig1 : Text
  sellerSig2 : Text

namespace ContractFields

def toList (fields : ContractFields) : List Text :=
  [fields.version, fields.ntp, fields.orderHash, fields.pair, fields.amount,
    fields.ppc, fields.buyerAddress, fields.sellerAddress, fields.buyerPubKey1,
    fields.buyerPubKey2, fields.serverPubKey1, fields.sellerPubKey1,
    fields.sellerPubKey2, fields.serverPubKey2, fields.buyerDepositTxid,
    fields.buyerVouts, fields.sellerDepositTxid, fields.sellerVouts,
    fields.baseUsdWorth, fields.quoteUsdWorth, fields.amountChunk,
    fields.totalChunk, fields.buyerSig1, fields.buyerSig2, fields.sellerSig1,
    fields.sellerSig2]

/-- Unpacking into 26 names; any other number of values raises. -/
def unpack : List Text → Except PyError ContractFields
  | [version, ntp, orderHash, pair, amount, ppc, buyerAddress, sellerAddress,
      buyerPubKey1, buyerPubKey2, serverPubKey1, sellerPubKey1, sellerPubKey2,
      serverPubKey2, buyerDepositTxid, buyerVouts, sellerDepositTxid,
      sellerVouts, baseUsdWorth, quoteUsdWorth, amountChunk, totalChunk,
      buyerSig1, buyerSig2, sellerSig1, sellerSig2] =>
      .ok {
        version, ntp, orderHash, pair, amount, ppc, buyerAddress, sellerAddress
        buyerPubKey1, buyerPubKey2, serverPubKey1, sellerPubKey1, sellerPubKey2
        serverPubKey2, buyerDepositTxid, buyerVouts, sellerDepositTxid
        sellerVouts, baseUsdWorth, quoteUsdWorth, amountChunk, totalChunk
        buyerSig1, buyerSig2, sellerSig1, sellerSig2 }
  | _ => .error .valueError

theorem unpack_toList (fields : ContractFields) :
    unpack fields.toList = .ok fields := rfl

end ContractFields

/-- `str(pair)`. -/
def CurrencyPair.text (pair : CurrencyPair) : Text :=
  pair.base.toList ++ '/' :: pair.quote.toList

/-- Each output with an underscore after it. -/
def voutsText (vouts : List Nat) : Text :=
  vouts.flatMap fun vout => Nat.toDigits 10 vout ++ ['_']

/-- The texts `format_contract` joins. -/
def ContractMsg.fields (msg : ContractMsg) : ContractFields where
  version := Nat.toDigits 10 msg.version
  ntp := Nat.toDigits 10 msg.timestamp
  orderHash := msg.orderHash.toList
  pair := msg.pair.text
  amount := msg.amount.str.toList
  ppc := msg.ppc.str.toList
  buyerAddress := msg.buyer.address.toList
  sellerAddress := msg.seller.address.toList
  buyerPubKey1 := msg.buyer.pubKey1.toList
  buyerPubKey2 := msg.buyer.pubKey2.toList
  serverPubKey1 := msg.buyer.serverPubKey.toList
  sellerPubKey1 := msg.seller.pubKey1.toList
  sellerPubKey2 := msg.seller.pubKey2.toList
  serverPubKey2 := msg.seller.serverPubKey.toList
  buyerDepositTxid := msg.buyer.depositTxid.toList
  buyerVouts := voutsText msg.buyer.vouts
  sellerDepositTxid := msg.seller.depositTxid.toList
  sellerVouts := voutsText msg.seller.vouts
  baseUsdWorth := msg.baseUsdWorth.str.toList
  quoteUsdWorth := msg.quoteUsdWorth.str.toList
  amountChunk := msg.amountChunk.str.toList
  totalChunk := msg.totalChunk.str.toList
  buyerSig1 := msg.buyer.sig1.toList
  buyerSig2 := msg.buyer.sig2.toList
  sellerSig1 := msg.seller.sig1.toList
  sellerSig2 := msg.seller.sig2.toList

/-- The text of a contract message. -/
def ContractMsg.text (msg : ContractMsg) : Text :=
  [' '].intercalate msg.fields.toList

/-- The text `format_contract` returns. -/
def formatContractText {Hex : Type} (version : Nat)
    (match1 match2 : MatchType Hex) : Except PyError Text :=
  (formatContract version match1 match2).map ContractMsg.text

/-- One side of the `dict` `parse_contract` returns. -/
structure PartyDetails where
  address : Address
  ecdsa : PubKey × PubKey × PubKey
  vouts : List Int
  depositTxid : Txid
  chunkSize : C

/-- The `dict` `parse_contract` returns. -/
structure ContractDetails where
  msg : Text
  hash : ContractHash
  trade : Trade
  version : Int
  ntp : Int
  orderHash : OrderHash
  buyer : PartyDetails
  seller : PartyDetails
  baseUsdWorth : C
  quoteUsdWorth : C

/-- `int(text)`. -/
def readInt (text : Text) : Except PyError Int :=
  Except.ofOption .valueError (Numerals.readInt isSpace text)

/-- `CurrencyPair(text)`: the first two names between the slashes. -/
def parsePair (text : Text) : Except PyError CurrencyPair :=
  match text.splitOn '/' with
  | base :: quote :: _ => .ok {
      base := (String.ofList base).toLower
      quote := (String.ofList quote).toLower }
  | _ => .error .indexError

/-- The numbers between the underscores. -/
def parseVouts (text : Text) : Except PyError (List Int) :=
  ((text.splitOn '_').filter (· ≠ [])).mapM readInt

-- The letters of the text are checked, not all characters.
instance (text : Text) : Decidable (∀ letter ∈ text, letter.toNat < 128) :=
  List.decidableBAll _ _

/-- `parse_contract` on the unpacked fields of a text. -/
def parseContractFields
    (context : TradeContext)
    (load : String → Option PubKey)
    (sha256 : Text → ContractHash)
    (contractMsg : Text)
    (fields : ContractFields) : Except PyError ContractDetails := do
  let baseUsdWorth ← C.parse fields.baseUsdWorth
  let quoteUsdWorth ← C.parse fields.quoteUsdWorth
  let amountChunk ← C.parse fields.amountChunk
  let totalChunk ← C.parse fields.totalChunk
  let version ← readInt fields.version
  let ntp ← readInt fields.ntp
  Except.raiseIf
    (context.isAddressValid (String.ofList fields.buyerAddress) = false)
    (.exception "Invalid buyer address for parse contract.")
  Except.raiseIf
    (context.isAddressValid (String.ofList fields.sellerAddress) = false)
    (.exception "Invalid seller address for parse contract.")
  let pair ← parsePair fields.pair
  let amount ← C.parse fields.amount
  let ppc ← C.parse fields.ppc
  let trade ← Trade.new context {
    action := .buy
    amount
    pair
    ppc
    orderHash := String.ofList fields.orderHash }
  let key (text : Text) : Except PyError PubKey :=
    Except.ofOption .valueError (load (String.ofList text))
  let buyer1 ← key fields.buyerPubKey1
  let buyer2 ← key fields.buyerPubKey2
  let buyer3 ← key fields.serverPubKey1
  let seller1 ← key fields.sellerPubKey1
  let seller2 ← key fields.sellerPubKey2
  -- The seller's third key is read from the buyer's field as well.
  let seller3 ← key fields.serverPubKey1
  let buyerVouts ← parseVouts fields.buyerVouts
  let sellerVouts ← parseVouts fields.sellerVouts
  -- `contract_msg.encode("ascii")`.
  Except.raiseIf (¬∀ letter ∈ contractMsg, letter.toNat < 128) .valueError
  return {
    msg := contractMsg
    hash := sha256 contractMsg
    trade, version, ntp
    orderHash := String.ofList fields.orderHash
    buyer := {
      address := String.ofList fields.buyerAddress
      ecdsa := (buyer1, buyer2, buyer3)
      vouts := buyerVouts
      depositTxid := String.ofList fields.buyerDepositTxid
      chunkSize := totalChunk }
    seller := {
      address := String.ofList fields.sellerAddress
      ecdsa := (seller1, seller2, seller3)
      vouts := sellerVouts
      depositTxid := String.ofList fields.sellerDepositTxid
      chunkSize := amountChunk }
    baseUsdWorth, quoteUsdWorth }

/-- `parse_contract`. -/
def parseContractText
    (context : TradeContext)
    (load : String → Option PubKey)
    (sha256 : Text → ContractHash)
    (contractMsg : Text) : Except PyError ContractDetails := do
  let fields ← ContractFields.unpack (contractMsg.splitOn ' ')
  parseContractFields context load sha256 contractMsg fields

end Coinbend
