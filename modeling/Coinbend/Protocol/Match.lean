import Coinbend.Currency.Text
import Coinbend.Microtransfer.Factory

/-!
# Matches and contract messages

`MatchType`, and the contract message two matched nodes sign: `format_contract`
and `parse_contract` of `hybrid_protocol.py`.  A contract message is kept as
its fields; an amount in it is the value its eight printed decimals parse to,
so that two messages are equal exactly when their texts are.
-/

namespace Coinbend

/-- `time.time()`, in milliseconds. -/
abbrev Time := Nat

abbrev OrderHash := String

/-- A match, sent or received. -/
structure MatchType (Hex : Type) where
  matchHash : String
  ntp : Nat
  orderHash : OrderHash
  trade : Trade
  greenAddress : GreenAddress Hex
  address : Address
  ecdsa1 : PubKey
  ecdsa2 : PubKey
  sig1 : String
  sig2 : String
  timestamp : Time
  deriving DecidableEq

/-- The fields of one side of a contract message. -/
structure PartyMsg where
  address : Address
  pubKey1 : PubKey
  pubKey2 : PubKey
  serverPubKey : PubKey
  depositTxid : Txid
  vouts : List Nat
  sig1 : String
  sig2 : String
  deriving DecidableEq

/-- A contract message. -/
structure ContractMsg where
  version : Nat
  timestamp : Nat
  orderHash : OrderHash
  pair : CurrencyPair
  amount : C
  ppc : C
  buyer : PartyMsg
  seller : PartyMsg
  baseUsdWorth : C
  quoteUsdWorth : C
  amountChunk : C
  totalChunk : C
  deriving DecidableEq

/-- One side of a parsed contract. -/
structure ContractParty where
  address : Address
  ecdsa : PubKey × PubKey × PubKey
  vouts : List Nat
  depositTxid : Txid
  chunkSize : C
  deriving DecidableEq

/-- The result of `parse_contract`. -/
structure ParsedContract where
  msg : ContractMsg
  hash : ContractHash
  trade : Trade
  ntp : Nat
  buyer : ContractParty
  seller : ContractParty
  deriving DecidableEq

namespace MatchType

variable {Hex : Type}

/-- `buy_sell`: a buying first match comes first, otherwise the second one
does. -/
def buySell (first second : MatchType Hex) : MatchType Hex × MatchType Hex :=
  match first.trade.action with
  | .buy => (first, second)
  | .sell => (second, first)

/-- The fields of a contract message that come from one side's match. -/
def party (matched : MatchType Hex) : PartyMsg where
  address := matched.address
  pubKey1 := matched.ecdsa1
  pubKey2 := matched.ecdsa2
  serverPubKey := matched.greenAddress.ecdsaEncrypted
  depositTxid := matched.greenAddress.depositTxid
  vouts := matched.greenAddress.inputs.map GreenInput.vout
  sig1 := matched.sig1
  sig2 := matched.sig2

end MatchType

/-- The precision `format_contract` sets. -/
def contractPrec : Nat := 8

/-- The mean of two timestamps in decimal arithmetic, cut to an integer. -/
def contractTimestamp (buyNtp sellNtp : Nat) : Nat :=
  let sum := DecimalRounding.roundDigits contractPrec ((buyNtp : ℚ) + sellNtp)
  ⌊DecimalRounding.roundDigits contractPrec (sum / 2)⌋.toNat

/-- "Create divisible chunks": the chunk `ca` of the smaller amount `a` and the
chunk `cb` of the larger amount `b` in the same proportion. -/
def divisibleChunks (a b : C) : Except PyError (C × C) := do
  let threshold ← C.ofDecimal (999 / 100000000)
  let ca :=
    if a ≤ threshold then 1 / 100000000
    else DecimalRounding.roundDigits contractPrec (a.asDecimal * (5 / 1000))
  let ratio ← Trade.divideDecimals contractPrec ca a.asDecimal
  let cb := DecimalRounding.roundDigits contractPrec (b.asDecimal * ratio)
  let ca ← C.ofDecimal ca
  let cb ← C.ofDecimal cb
  return (ca, cb)

/-- The chunks of the amount and of the total. -/
def chunkLookup (amount total : C) : Except PyError (C × C) := do
  if amount < total then
    let (ca, cb) ← divisibleChunks amount total
    return (ca, cb)
  else
    let (ca, cb) ← divisibleChunks total amount
    return (cb, ca)

/-- The match whose trade defines the contract: the one with the later
timestamp, the sell match when they are equal. -/
def templateMatch {Hex : Type} (buyMatch sellMatch : MatchType Hex) :
    MatchType Hex :=
  if sellMatch.timestamp < buyMatch.timestamp then buyMatch else sellMatch

/-- `format_contract`. -/
def formatContract {Hex : Type} (version : Nat) (match1 match2 : MatchType Hex) :
    Except PyError ContractMsg := do
  let (buyMatch, sellMatch) := match1.buySell match2
  let template := templateMatch buyMatch sellMatch
  let (amountChunk, totalChunk) ←
    chunkLookup template.trade.amount template.trade.total
  return {
    version
    timestamp := contractTimestamp buyMatch.ntp sellMatch.ntp
    orderHash := buyMatch.orderHash
    pair := buyMatch.trade.pair
    amount := template.trade.amount.printed
    ppc := template.trade.ppc.printed
    buyer := buyMatch.party
    seller := sellMatch.party
    baseUsdWorth := 0
    quoteUsdWorth := 0
    amountChunk := amountChunk.printed
    totalChunk := totalChunk.printed }

/-- `parse_contract`.  The seller's third key is read from the buyer's
server key. -/
def parseContract
    (context : TradeContext)
    (load : String → Option PubKey)
    (contractHash : ContractMsg → ContractHash)
    (msg : ContractMsg) : Except PyError ParsedContract := do
  Except.raiseIf (context.isAddressValid msg.buyer.address = false)
    (.exception "Invalid buyer address for parse contract.")
  Except.raiseIf (context.isAddressValid msg.seller.address = false)
    (.exception "Invalid seller address for parse contract.")
  let trade ← Trade.new context {
    action := .buy
    amount := msg.amount
    pair := msg.pair
    ppc := msg.ppc
    orderHash := msg.orderHash }
  let key (text : String) : Except PyError PubKey :=
    Except.ofOption .valueError (load text)
  let buyer1 ← key msg.buyer.pubKey1
  let buyer2 ← key msg.buyer.pubKey2
  let server ← key msg.buyer.serverPubKey
  let seller1 ← key msg.seller.pubKey1
  let seller2 ← key msg.seller.pubKey2
  return {
    msg
    hash := contractHash msg
    trade
    ntp := msg.timestamp
    buyer := {
      address := msg.buyer.address
      ecdsa := (buyer1, buyer2, server)
      vouts := msg.buyer.vouts
      depositTxid := msg.buyer.depositTxid
      chunkSize := msg.totalChunk }
    seller := {
      address := msg.seller.address
      ecdsa := (seller1, seller2, server)
      vouts := msg.seller.vouts
      depositTxid := msg.seller.depositTxid
      chunkSize := msg.amountChunk } }

end Coinbend
