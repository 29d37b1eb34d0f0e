import Coinbend.Currency.Objects
import Coinbend.Protocol.ChunkPlan
import Coinbend.Protocol.ContractText
import Coinbend.Trade.Canonical
import Coinbend.Trade.Rows

/-!
# The round trip of contract messages

What `parse_contract` reads from the text `format_contract` wrote: every field
comes back, but for the server key of the seller, which is read from the
buyer's.  A contract has a text when its amount and its total are worth a
satoshi.
-/

namespace Coinbend

/-! ## Amounts -/

namespace C

theorem printed_printed (c : C) : c.printed.printed = c.printed :=
  val_injective (by simp only [val_printed, satoshi_printed])

theorem val_printed_le (c : C) : c.printed.val ≤ c.val := by
  rw [val_printed]
  exact Nat.div_mul_le_self _ _

/-- The product of printed amounts is exact. -/
theorem exists_mul_printed
    {amount ppc total : C}
    (product : amount.mul ppc = .ok total) :
    ∃ printedTotal, amount.printed.mul ppc.printed = .ok printedTotal ∧
      printedTotal.val = amount.satoshi * ppc.satoshi := by
  have fits := (exists_mul_iff _ _).mp ⟨total, product⟩
  have less : amount.printed.val * ppc.printed.val ≤ amount.val * ppc.val :=
    Nat.mul_le_mul amount.val_printed_le ppc.val_printed_le
  obtain ⟨printedTotal, found⟩ := (exists_mul_iff _ _).mpr
    ((Nat.div_le_div_right (Nat.div_le_div_right less)).trans fits)
  refine ⟨printedTotal, found, ?_⟩
  have units : amount.satoshi * satoshiUnit * (ppc.satoshi * satoshiUnit) =
      amount.satoshi * ppc.satoshi * decBase := by
    have square : satoshiUnit * satoshiUnit = decBase := by decide
    rw [← square]
    ring
  rw [val_mul found, val_printed, val_printed, units,
    Nat.mul_div_cancel _ decBase_pos]

end C

/-! ## The trade of a contract -/

namespace Trade

/-- The trade `parse_contract` constructs from printed amounts. -/
def contractArgs
    (amount ppc : C)
    (pair : CurrencyPair)
    (orderHash : OrderHash) : TradeArgs where
  action := .buy
  amount := amount
  pair := pair
  ppc := ppc
  orderHash := orderHash

section
variable {context : TradeContext} {amount ppc total : C} {pair : CurrencyPair}
  {orderHash : OrderHash}

/-- Two different currencies keep the printed amount and price. -/
theorem new_contractArgs_of_lt
    (ordered : pair.base < pair.quote)
    (product : amount.mul ppc = .ok total) :
    ∃ trade, new context
        (contractArgs amount.printed ppc.printed pair orderHash) = .ok trade ∧
      trade.pair = pair ∧ trade.amount = amount.printed ∧
      trade.ppc = ppc.printed := by
  obtain ⟨printedTotal, found, -⟩ := C.exists_mul_printed product
  have straight := CurrencyPair.not_flips_of_lt ordered
  refine ⟨_, (new_eq ⟨Or.inl rfl, Or.inl rfl⟩).trans
    (analyzeTrade_of_straight context straight found
      (remainingOf_untouched _ _)), ?_, rfl, rfl⟩
  exact if_neg straight

theorem flips_of_eq (same : pair.base = pair.quote) : pair.Flips := by
  obtain ⟨base, quote⟩ := pair
  obtain rfl : base = quote := same
  rw [CurrencyPair.Flips, orderPair, if_pos (by exact String.le_refl _)]

theorem roundDigits_one
    {digits : Nat}
    (some_digit : 0 < digits) :
    DecimalRounding.roundDigits digits 1 = 1 := by
  have few : 1 < 10 ^ digits := Nat.one_lt_pow (by omega) (by omega)
  have rounded := @DecimalRounding.roundDigits_of_few_digits digits 1 0 few
  simpa using rounded

/-- An amount divided by itself is the price of one. -/
theorem flippedNumbers_self
    (some_digit : 0 < context.prec)
    (positive : amount.satoshi ≠ 0)
    (one : ppc.satoshi = COIN)
    (product : amount.mul ppc.printed = .ok amount) :
    flippedNumbers context amount amount =
      .ok (amount, ppc.printed, amount) := by
  have nonzero : amount.asDecimal ≠ 0 := by
    rw [C.asDecimal]
    have coin : (COIN : ℚ) ≠ 0 := by norm_num [COIN]
    exact div_ne_zero (Nat.cast_ne_zero.mpr positive) coin
  have quotient : divideDecimals context.prec amount.asDecimal
      amount.asDecimal = .ok 1 := by
    rw [divideDecimals, if_neg nonzero, div_self nonzero,
      roundDigits_one some_digit]
  have price : C.ofDecimal 1 = .ok ppc.printed := by
    rw [C.ofDecimal_eq_ok_iff]
    have units := C.unitsOf_satoshi COIN
    rw [div_self (by norm_num [COIN])] at units
    exact ⟨zero_le_one, by rw [units, C.val_printed, one]⟩
  rw [flippedNumbers, quotient, Except.ok_bind, price, Except.ok_bind, product,
    Except.ok_bind]
  rfl

/-- A pair of one currency is turned around: the amount is the total of the
printed amount and price, which is the amount at the price of one. -/
theorem new_contractArgs_of_eq
    (same : pair.base = pair.quote)
    (positive : amount.satoshi ≠ 0)
    (some_digit : 0 < context.prec)
    (product : amount.mul ppc = .ok total) :
    (∃ trade, new context
        (contractArgs amount.printed ppc.printed pair orderHash) = .ok trade ∧
      trade.pair = pair ∧ trade.amount = amount.printed ∧
      trade.ppc = ppc.printed) ↔ ppc.satoshi = COIN := by
  obtain ⟨printedTotal, found, total_val⟩ := C.exists_mul_printed product
  have flips : (contractArgs amount.printed ppc.printed pair
      orderHash).pair.Flips := flips_of_eq same
  have amount_eq_iff : printedTotal = amount.printed ↔ ppc.satoshi = COIN := by
    have unit : satoshiUnit = COIN := rfl
    rw [C.eq_iff, total_val, C.val_printed, unit,
      Nat.mul_right_inj positive]
  constructor
  · rintro ⟨trade, constructed, -, amount_eq, -⟩
    rw [new_eq ⟨Or.inl rfl, Or.inl rfl⟩, analyzeTrade_eq_ok_iff] at constructed
    obtain ⟨numbers, remaining, numbers_eq, -, rfl⟩ := constructed
    obtain ⟨other, other_eq, flipped⟩ :=
      (priceNumbers_eq_ok_iff_of_flips flips _).mp numbers_eq
    obtain rfl := Except.ok.inj (found.symm.trans other_eq)
    simp only [flippedNumbers, Except.bind_eq_ok_iff,
      Except.pure_eq_ok_iff] at flipped
    obtain ⟨_, -, _, -, rfl⟩ := flipped
    exact amount_eq_iff.mp amount_eq
  · intro one
    obtain rfl := amount_eq_iff.mpr one
    have numbers := flippedNumbers_self some_digit (by
      rwa [C.satoshi_printed]) one found
    have analysed := (analyzeTrade_eq_ok_iff context _ _).mpr
      ⟨_, amount.printed,
        (priceNumbers_eq_ok_iff_of_flips flips _).mpr ⟨_, found, numbers⟩,
        remainingOf_untouched _ _, rfl⟩
    refine ⟨_, (new_eq ⟨Or.inl rfl, Or.inl rfl⟩).trans analysed, ?_, rfl, rfl⟩
    obtain ⟨base, quote⟩ := pair
    obtain rfl : base = quote := same
    exact if_pos flips

end

end Trade

/-! ## The text -/

/-- A field that neither cuts the message nor fails to be ASCII. -/
def OneWord (text : Text) : Prop :=
  ∀ char ∈ text, char ≠ ' ' ∧ char.toNat < 128

instance (text : Text) : Decidable (OneWord text) :=
  List.decidableBAll _ _

theorem oneWord_of_digits
    {text : Text}
    (digits : ∀ char ∈ text, char.isDigit = true ∨ char = '.' ∨ char = '_') :
    OneWord text := by
  intro char member
  rcases digits char member with digit | rfl | rfl
  · simp only [Char.isDigit, Bool.and_eq_true, decide_eq_true_eq] at digit
    have low : 48 ≤ char.toNat := UInt32.le_iff_toNat_le.mp digit.1
    have high : char.toNat ≤ 57 := UInt32.le_iff_toNat_le.mp digit.2
    refine ⟨?_, by omega⟩
    rintro rfl
    exact absurd low (by decide)
  · exact ⟨by decide, by decide⟩
  · exact ⟨by decide, by decide⟩

theorem oneWord_toDigits (number : Nat) : OneWord (Nat.toDigits 10 number) :=
  oneWord_of_digits fun char member =>
    Or.inl (DigitText.digits_toDigits number char member)

theorem oneWord_str (c : C) : OneWord c.str.toList := by
  apply oneWord_of_digits
  intro char member
  rw [C.toList_str, List.mem_append, List.mem_cons] at member
  rcases member with digit | point | digit
  · exact Or.inl (DigitText.digits_toDigits c.whole char digit)
  · exact Or.inr (Or.inl point)
  · exact Or.inl (C.isDigit_of_mem_fraction digit)

theorem oneWord_vouts (vouts : List Nat) : OneWord (voutsText vouts) := by
  apply oneWord_of_digits
  intro char member
  obtain ⟨vout, -, inside⟩ := List.mem_flatMap.mp member
  rcases List.mem_append.mp inside with digit | underscore
  · exact Or.inl (DigitText.digits_toDigits vout char digit)
  · exact Or.inr (Or.inr (List.mem_singleton.mp underscore))

theorem OneWord.append
    {first second : Text}
    (first_word : OneWord first)
    (second_word : OneWord second) :
    OneWord (first ++ second) := by
  intro char member
  rcases List.mem_append.mp member with member | member
  · exact first_word char member
  · exact second_word char member

theorem oneWord_intercalate
    {fields : List Text}
    (words : ∀ field ∈ fields, OneWord field) :
    ∀ char ∈ [' '].intercalate fields, char.toNat < 128 := by
  induction fields with
  | nil => simp
  | cons first fields hypothesis =>
      obtain ⟨first_word, others⟩ := List.forall_mem_cons.mp words
      cases fields with
      | nil =>
          intro char member
          rw [List.intercalate_singleton] at member
          exact (first_word char member).2
      | cons second fields =>
          intro char member
          rw [List.intercalate_cons_cons, List.mem_append, List.mem_append,
            List.mem_singleton] at member
          rcases member with (member | rfl) | member
          · exact (first_word char member).2
          · decide
          · exact hypothesis others char member

/-- What one side of a contract is made from: an address and keys that are
read as they are printed, and texts without a space. -/
structure PartyMsg.Valid
    (context : TradeContext)
    (load : String → Option PubKey)
    (party : PartyMsg) : Prop where
  address : context.isAddressValid party.address = true
  pubKey1 : load party.pubKey1 = some party.pubKey1
  pubKey2 : load party.pubKey2 = some party.pubKey2
  serverPubKey : load party.serverPubKey = some party.serverPubKey
  words : ∀ text ∈ [party.address, party.pubKey1, party.pubKey2,
    party.serverPubKey, party.depositTxid, party.sig1, party.sig2],
    OneWord text.toList

/-- Two lower-case names without a slash. -/
structure CurrencyPair.Valid (pair : CurrencyPair) : Prop where
  lowerCase : pair.LowerCase
  words : OneWord pair.base.toList ∧ OneWord pair.quote.toList
  no_slash : '/' ∉ pair.base.toList ∧ '/' ∉ pair.quote.toList

structure ContractMsg.Valid
    (context : TradeContext)
    (load : String → Option PubKey)
    (msg : ContractMsg) : Prop where
  orderHash : OneWord msg.orderHash.toList
  pair : msg.pair.Valid
  buyer : msg.buyer.Valid context load
  seller : msg.seller.Valid context load

section Message

variable {context : TradeContext} {load : String → Option PubKey}
  {msg : ContractMsg} (valid : msg.Valid context load)
include valid

theorem oneWord_fields : ∀ field ∈ msg.fields.toList, OneWord field := by
  have pair_word : OneWord msg.pair.text := by
    rw [CurrencyPair.text]
    refine valid.pair.words.1.append ?_
    intro char member
    rcases List.mem_cons.mp member with rfl | member
    · exact ⟨by decide, by decide⟩
    · exact valid.pair.words.2 char member
  have buyer := valid.buyer.words
  have seller := valid.seller.words
  simp only [List.forall_mem_cons] at buyer seller
  obtain ⟨buyerAddress, buyer1, buyer2, server1, buyerTxid, buyerSig1,
    buyerSig2, -⟩ := buyer
  obtain ⟨sellerAddress, seller1, seller2, server2, sellerTxid, sellerSig1,
    sellerSig2, -⟩ := seller
  simp only [ContractFields.toList, ContractMsg.fields, List.forall_mem_cons]
  exact ⟨oneWord_toDigits _, oneWord_toDigits _, valid.orderHash, pair_word,
    oneWord_str _, oneWord_str _, buyerAddress, sellerAddress, buyer1, buyer2,
    server1, seller1, seller2, server2, buyerTxid, oneWord_vouts _, sellerTxid,
    oneWord_vouts _, oneWord_str _, oneWord_str _, oneWord_str _,
    oneWord_str _, buyerSig1, buyerSig2, sellerSig1, sellerSig2, by simp⟩

/-- The words of the text are the fields. -/
theorem splitOn_text : msg.text.splitOn ' ' = msg.fields.toList := by
  rw [ContractMsg.text, List.splitOn_intercalate]
  · intro field member inside
    exact (oneWord_fields valid field member ' ' inside).1 rfl
  · exact List.cons_ne_nil _ _

theorem ascii_text : ∀ letter ∈ msg.text, letter.toNat < 128 :=
  oneWord_intercalate (oneWord_fields valid)

theorem parsePair_text : parsePair msg.pair.text = .ok msg.pair := by
  obtain ⟨no_slash, no_other⟩ := valid.pair.no_slash
  obtain ⟨base_lower, quote_lower⟩ := valid.pair.lowerCase
  rw [parsePair, CurrencyPair.text,
    List.splitOn_append_cons_self_of_not_mem no_slash,
    List.splitOn_eq_singleton no_other]
  simp only [String.ofList_toList, base_lower, quote_lower]

end Message

theorem readInt_toDigits (number : Nat) :
    readInt (Nat.toDigits 10 number) = .ok (number : Int) := by
  rw [readInt, Numerals.readInt_toDigits isSpace_of_isDigit]
  rfl

theorem parseVouts_text (vouts : List Nat) :
    parseVouts (voutsText vouts) = .ok (vouts.map Int.ofNat) := by
  rw [parseVouts, voutsText, Numerals.filter_splitOn_flatMap]
  · induction vouts with
    | nil => rfl
    | cons vout vouts hypothesis =>
        rw [List.map_cons, List.mapM_cons, readInt_toDigits, Except.ok_bind,
          hypothesis, Except.ok_bind]
        rfl
  · intro vout _ inside
    have digit := DigitText.digits_toDigits vout '_' inside
    cases digit
  · intro vout _
    exact Nat.toDigits_ne_nil

/-! ## Parsing -/

/-- The details of a contract around its trade. -/
def contractDetails
    (sha256 : Text → ContractHash)
    (msg : ContractMsg)
    (trade : Trade) : ContractDetails where
  msg := msg.text
  hash := sha256 msg.text
  trade := trade
  version := msg.version
  ntp := msg.timestamp
  orderHash := msg.orderHash
  buyer := {
    address := msg.buyer.address
    ecdsa := (msg.buyer.pubKey1, msg.buyer.pubKey2, msg.buyer.serverPubKey)
    vouts := msg.buyer.vouts.map Int.ofNat
    depositTxid := msg.buyer.depositTxid
    chunkSize := msg.totalChunk.printed }
  seller := {
    address := msg.seller.address
    ecdsa := (msg.seller.pubKey1, msg.seller.pubKey2, msg.buyer.serverPubKey)
    vouts := msg.seller.vouts.map Int.ofNat
    depositTxid := msg.seller.depositTxid
    chunkSize := msg.amountChunk.printed }
  baseUsdWorth := msg.baseUsdWorth.printed
  quoteUsdWorth := msg.quoteUsdWorth.printed

/-- The fields are read as those of a message, the seller's server key
apart. -/
structure ContractFields.ReadAs
    (context : TradeContext)
    (load : String → Option PubKey)
    (fields : ContractFields)
    (msg : ContractMsg) : Prop where
  baseUsdWorth : C.parse fields.baseUsdWorth = .ok msg.baseUsdWorth.printed
  quoteUsdWorth : C.parse fields.quoteUsdWorth = .ok msg.quoteUsdWorth.printed
  amountChunk : C.parse fields.amountChunk = .ok msg.amountChunk.printed
  totalChunk : C.parse fields.totalChunk = .ok msg.totalChunk.printed
  version : readInt fields.version = .ok (msg.version : Int)
  ntp : readInt fields.ntp = .ok (msg.timestamp : Int)
  buyerAddressValid :
    ¬context.isAddressValid (String.ofList fields.buyerAddress) = false
  sellerAddressValid :
    ¬context.isAddressValid (String.ofList fields.sellerAddress) = false
  pair : parsePair fields.pair = .ok msg.pair
  amount : C.parse fields.amount = .ok msg.amount.printed
  ppc : C.parse fields.ppc = .ok msg.ppc.printed
  buyerPubKey1 :
    load (String.ofList fields.buyerPubKey1) = some msg.buyer.pubKey1
  buyerPubKey2 :
    load (String.ofList fields.buyerPubKey2) = some msg.buyer.pubKey2
  serverPubKey1 :
    load (String.ofList fields.serverPubKey1) = some msg.buyer.serverPubKey
  sellerPubKey1 :
    load (String.ofList fields.sellerPubKey1) = some msg.seller.pubKey1
  sellerPubKey2 :
    load (String.ofList fields.sellerPubKey2) = some msg.seller.pubKey2
  buyerVouts : parseVouts fields.buyerVouts =
    .ok (msg.buyer.vouts.map Int.ofNat)
  sellerVouts : parseVouts fields.sellerVouts =
    .ok (msg.seller.vouts.map Int.ofNat)
  orderHash : String.ofList fields.orderHash = msg.orderHash
  buyerAddress : String.ofList fields.buyerAddress = msg.buyer.address
  sellerAddress : String.ofList fields.sellerAddress = msg.seller.address
  buyerDepositTxid :
    String.ofList fields.buyerDepositTxid = msg.buyer.depositTxid
  sellerDepositTxid :
    String.ofList fields.sellerDepositTxid = msg.seller.depositTxid

theorem parseContractFields_of_readAs
    {context : TradeContext}
    {load : String → Option PubKey}
    {fields : ContractFields}
    {msg : ContractMsg}
    (read : fields.ReadAs context load msg)
    (ascii : ∀ letter ∈ msg.text, letter.toNat < 128)
    (sha256 : Text → ContractHash) :
    parseContractFields context load sha256 msg.text fields =
      (Trade.new context (Trade.contractArgs msg.amount.printed
        msg.ppc.printed msg.pair msg.orderHash)).map
          (contractDetails sha256 msg) := by
  have key {text : Text} {key : PubKey}
      (loaded : load (String.ofList text) = some key) :
      Except.ofOption PyError.valueError (load (String.ofList text)) =
        .ok key := by
    rw [loaded]
    rfl
  rw [parseContractFields, Except.bind_of_eq_ok read.baseUsdWorth,
    Except.bind_of_eq_ok read.quoteUsdWorth,
    Except.bind_of_eq_ok read.amountChunk,
    Except.bind_of_eq_ok read.totalChunk, Except.bind_of_eq_ok read.version,
    Except.bind_of_eq_ok read.ntp, Except.raiseIf_bind read.buyerAddressValid,
    Except.raiseIf_bind read.sellerAddressValid,
    Except.bind_of_eq_ok read.pair, Except.bind_of_eq_ok read.amount,
    Except.bind_of_eq_ok read.ppc, read.orderHash]
  change Trade.new context (Trade.contractArgs _ _ _ _) >>= _ = _
  cases Trade.new context (Trade.contractArgs msg.amount.printed
    msg.ppc.printed msg.pair msg.orderHash) with
  | error error => rfl
  | ok trade =>
      rw [Except.ok_bind, Except.bind_of_eq_ok (key read.buyerPubKey1),
        Except.bind_of_eq_ok (key read.buyerPubKey2),
        Except.bind_of_eq_ok (key read.serverPubKey1),
        Except.bind_of_eq_ok (key read.sellerPubKey1),
        Except.bind_of_eq_ok (key read.sellerPubKey2),
        Except.bind_of_eq_ok (key read.serverPubKey1),
        Except.bind_of_eq_ok read.buyerVouts,
        Except.bind_of_eq_ok read.sellerVouts,
        Except.raiseIf_bind (not_not_intro ascii), read.buyerAddress,
        read.sellerAddress, read.buyerDepositTxid, read.sellerDepositTxid]
      rfl

theorem readAs_fields
    {context : TradeContext}
    {load : String → Option PubKey}
    {msg : ContractMsg}
    (valid : msg.Valid context load) :
    msg.fields.ReadAs context load msg := by
  have same (text : String) : String.ofList text.toList = text :=
    String.ofList_toList
  exact {
    baseUsdWorth := by simp only [ContractMsg.fields, C.parse_str]
    quoteUsdWorth := by simp only [ContractMsg.fields, C.parse_str]
    amountChunk := by simp only [ContractMsg.fields, C.parse_str]
    totalChunk := by simp only [ContractMsg.fields, C.parse_str]
    version := readInt_toDigits msg.version
    ntp := readInt_toDigits msg.timestamp
    buyerAddressValid := by
      rw [ContractMsg.fields, same, valid.buyer.address]
      exact Bool.noConfusion
    sellerAddressValid := by
      rw [ContractMsg.fields, same, valid.seller.address]
      exact Bool.noConfusion
    pair := parsePair_text valid
    amount := by simp only [ContractMsg.fields, C.parse_str]
    ppc := by simp only [ContractMsg.fields, C.parse_str]
    buyerPubKey1 := (congrArg load (same _)).trans valid.buyer.pubKey1
    buyerPubKey2 := (congrArg load (same _)).trans valid.buyer.pubKey2
    serverPubKey1 := (congrArg load (same _)).trans valid.buyer.serverPubKey
    sellerPubKey1 := (congrArg load (same _)).trans valid.seller.pubKey1
    sellerPubKey2 := (congrArg load (same _)).trans valid.seller.pubKey2
    buyerVouts := parseVouts_text msg.buyer.vouts
    sellerVouts := parseVouts_text msg.seller.vouts
    orderHash := same msg.orderHash
    buyerAddress := same msg.buyer.address
    sellerAddress := same msg.seller.address
    buyerDepositTxid := same msg.buyer.depositTxid
    sellerDepositTxid := same msg.seller.depositTxid }

/-- A valid message is read as its fields, if its trade can be constructed. -/
theorem parseContractText_text
    {context : TradeContext}
    {load : String → Option PubKey}
    {msg : ContractMsg}
    (valid : msg.Valid context load)
    (sha256 : Text → ContractHash) :
    parseContractText context load sha256 msg.text =
      (Trade.new context (Trade.contractArgs msg.amount.printed
        msg.ppc.printed msg.pair msg.orderHash)).map
          (contractDetails sha256 msg) := by
  rw [parseContractText, splitOn_text valid, ContractFields.unpack_toList,
    Except.ok_bind]
  exact parseContractFields_of_readAs (readAs_fields valid)
    (ascii_text valid) sha256

/-! ## Matches -/

/-- What the constructor makes of any two currencies. -/
structure Trade.Priced (trade : Trade) : Prop where
  ordered : trade.pair.base ≤ trade.pair.quote
  total : trade.amount.mul trade.ppc = .ok trade.total

/-- A match that can be put into a contract. -/
structure MatchType.Valid
    {Hex : Type}
    (context : TradeContext)
    (load : String → Option PubKey)
    (matched : MatchType Hex) : Prop where
  orderHash : OneWord matched.orderHash.toList
  pair : matched.trade.pair.Valid
  trade : matched.trade.Priced
  party : matched.party.Valid context load

/-- A side of a match comes back. -/
structure PartyDetails.Returns
    {Hex : Type}
    (details : PartyDetails)
    (matched : MatchType Hex)
    (chunk : C) : Prop where
  address : details.address = matched.address
  ecdsa : details.ecdsa =
    (matched.ecdsa1, matched.ecdsa2, matched.greenAddress.ecdsaEncrypted)
  vouts : details.vouts =
    matched.greenAddress.inputs.map fun input => Int.ofNat input.vout
  depositTxid : details.depositTxid = matched.greenAddress.depositTxid
  chunkSize : details.chunkSize = chunk.printed

/-- Both sides come back, and the trade of the later match as printed. -/
structure ContractDetails.Returns
    {Hex : Type}
    (details : ContractDetails)
    (buyMatch sellMatch : MatchType Hex)
    (chunks : C × C) : Prop where
  buyer : details.buyer.Returns buyMatch chunks.2
  seller : details.seller.Returns sellMatch chunks.1
  orderHash : details.orderHash = buyMatch.orderHash
  pair : details.trade.pair = buyMatch.trade.pair
  amount : details.trade.amount =
    (templateMatch buyMatch sellMatch).trade.amount.printed
  ppc : details.trade.ppc =
    (templateMatch buyMatch sellMatch).trade.ppc.printed

section Matches

variable {Hex : Type}

/-- The text of two matches, in the order given, is read back as both. -/
def MatchesReturn
    (context : TradeContext)
    (load : String → Option PubKey)
    (sha256 : Text → ContractHash)
    (version : Nat)
    (match1 match2 buyMatch sellMatch : MatchType Hex) : Prop :=
  let template := (templateMatch buyMatch sellMatch).trade
  ∃ text details chunks,
    formatContractText version match1 match2 = .ok text ∧
    parseContractText context load sha256 text = .ok details ∧
    chunkLookup template.amount template.total = .ok chunks ∧
    details.Returns buyMatch sellMatch chunks

/-- The message of two matches with their chunks. -/
def contractMsg
    (version : Nat)
    (buyMatch sellMatch : MatchType Hex)
    (chunks : C × C) : ContractMsg where
  version := version
  timestamp := contractTimestamp buyMatch.ntp sellMatch.ntp
  orderHash := buyMatch.orderHash
  pair := buyMatch.trade.pair
  amount := (templateMatch buyMatch sellMatch).trade.amount.printed
  ppc := (templateMatch buyMatch sellMatch).trade.ppc.printed
  buyer := buyMatch.party
  seller := sellMatch.party
  baseUsdWorth := 0
  quoteUsdWorth := 0
  amountChunk := chunks.1.printed
  totalChunk := chunks.2.printed

section Orders

variable {buyMatch sellMatch : MatchType Hex} {context : TradeContext}
  {load : String → Option PubKey} {sha256 : Text → ContractHash}
  {version : Nat}

theorem formatContract_eq
    (buying : buyMatch.trade.action = .buy) :
    formatContract version buyMatch sellMatch =
      (chunkLookup (templateMatch buyMatch sellMatch).trade.amount
        (templateMatch buyMatch sellMatch).trade.total).map
          (contractMsg version buyMatch sellMatch) := by
  have sides : buyMatch.buySell sellMatch = (buyMatch, sellMatch) := by
    rw [MatchType.buySell, buying]
  rw [formatContract, sides]
  simp only
  cases chunkLookup (templateMatch buyMatch sellMatch).trade.amount
    (templateMatch buyMatch sellMatch).trade.total with
  | error error => rfl
  | ok chunks => rfl

/-- The order of the two matches makes no difference. -/
theorem formatContract_swap
    (buying : buyMatch.trade.action = .buy)
    (selling : sellMatch.trade.action = .sell) :
    formatContract version sellMatch buyMatch =
      formatContract version buyMatch sellMatch := by
  have sides : sellMatch.buySell buyMatch = buyMatch.buySell sellMatch := by
    rw [MatchType.buySell, MatchType.buySell, buying, selling]
  rw [formatContract, formatContract, sides]

theorem matchesReturn_swap
    (buying : buyMatch.trade.action = .buy)
    (selling : sellMatch.trade.action = .sell) :
    MatchesReturn context load sha256 version sellMatch buyMatch buyMatch
        sellMatch ↔
      MatchesReturn context load sha256 version buyMatch sellMatch buyMatch
        sellMatch := by
  rw [MatchesReturn, MatchesReturn, formatContractText,
    formatContract_swap buying selling, ← formatContractText]

theorem valid_contractMsg
    (buy_valid : buyMatch.Valid context load)
    (sell_valid : sellMatch.Valid context load)
    (chunks : C × C) :
    (contractMsg version buyMatch sellMatch chunks).Valid context load where
  orderHash := buy_valid.orderHash
  pair := buy_valid.pair
  buyer := buy_valid.party
  seller := sell_valid.party

/-- What `parse_contract` makes of the text. -/
theorem parse_contractMsg
    (buy_valid : buyMatch.Valid context load)
    (sell_valid : sellMatch.Valid context load)
    (chunks : C × C) :
    parseContractText context load sha256
        (contractMsg version buyMatch sellMatch chunks).text =
      (Trade.new context (Trade.contractArgs
        (templateMatch buyMatch sellMatch).trade.amount.printed
        (templateMatch buyMatch sellMatch).trade.ppc.printed
        buyMatch.trade.pair buyMatch.orderHash)).map
          (contractDetails sha256
            (contractMsg version buyMatch sellMatch chunks)) := by
  rw [parseContractText_text (valid_contractMsg buy_valid sell_valid chunks)]
  simp only [contractMsg, C.printed_printed]

/-- The details are those of the matches up to the seller's server key. -/
theorem returns_iff
    (chunks : C × C)
    (trade : Trade) :
    (contractDetails sha256 (contractMsg version buyMatch sellMatch chunks)
        trade).Returns buyMatch sellMatch chunks ↔
      sellMatch.greenAddress.ecdsaEncrypted =
          buyMatch.greenAddress.ecdsaEncrypted ∧
        trade.pair = buyMatch.trade.pair ∧
        trade.amount =
          (templateMatch buyMatch sellMatch).trade.amount.printed ∧
        trade.ppc = (templateMatch buyMatch sellMatch).trade.ppc.printed := by
  have vouts (matched : MatchType Hex) :
      (matched.party.vouts.map Int.ofNat) =
        matched.greenAddress.inputs.map fun input => Int.ofNat input.vout := by
    rw [MatchType.party, List.map_map]
    rfl
  constructor
  · intro returns
    have keys := returns.seller.ecdsa
    have server := congrArg (fun key => key.2.2) keys
    exact ⟨server.symm, returns.pair, returns.amount, returns.ppc⟩
  · rintro ⟨server, pair, amount, ppc⟩
    refine {
      buyer := ⟨rfl, rfl, vouts buyMatch, rfl, C.printed_printed _⟩
      seller := ⟨rfl, ?_, vouts sellMatch, rfl, C.printed_printed _⟩
      orderHash := rfl
      pair := pair
      amount := amount
      ppc := ppc }
    rw [server]
    rfl

/-- The matches come back when their contract has chunks, their server keys
are the same one, and the printed trade is kept. -/
theorem matchesReturn_iff
    (buying : buyMatch.trade.action = .buy)
    (buy_valid : buyMatch.Valid context load)
    (sell_valid : sellMatch.Valid context load) :
    MatchesReturn context load sha256 version buyMatch sellMatch buyMatch
        sellMatch ↔
      (∃ chunks, chunkLookup (templateMatch buyMatch sellMatch).trade.amount
        (templateMatch buyMatch sellMatch).trade.total = .ok chunks) ∧
      sellMatch.greenAddress.ecdsaEncrypted =
        buyMatch.greenAddress.ecdsaEncrypted ∧
      ∃ trade, Trade.new context (Trade.contractArgs
          (templateMatch buyMatch sellMatch).trade.amount.printed
          (templateMatch buyMatch sellMatch).trade.ppc.printed
          buyMatch.trade.pair buyMatch.orderHash) = .ok trade ∧
        trade.pair = buyMatch.trade.pair ∧
        trade.amount =
          (templateMatch buyMatch sellMatch).trade.amount.printed ∧
        trade.ppc = (templateMatch buyMatch sellMatch).trade.ppc.printed := by
  constructor
  · rintro ⟨text, details, chunks, formatted, parsed, found, returns⟩
    rw [formatContractText, formatContract_eq buying, found] at formatted
    cases formatted
    rw [parse_contractMsg buy_valid sell_valid,
      Except.map_eq_ok_iff] at parsed
    obtain ⟨trade, constructed, rfl⟩ := parsed
    obtain ⟨server, kept⟩ := (returns_iff chunks trade).mp returns
    exact ⟨⟨chunks, found⟩, server, trade, constructed, kept⟩
  · rintro ⟨⟨chunks, found⟩, server, trade, constructed, kept⟩
    refine ⟨(contractMsg version buyMatch sellMatch chunks).text,
      contractDetails sha256 (contractMsg version buyMatch sellMatch chunks)
        trade, chunks, ?_, ?_, found,
      (returns_iff chunks trade).mpr ⟨server, kept⟩⟩
    · rw [formatContractText, formatContract_eq buying, found]
      rfl
    · rw [parse_contractMsg buy_valid sell_valid, constructed]
      rfl

/-- Two matches come back from their contract in either order exactly when
their server keys are the same one, both sides of the trade are worth a
satoshi, and a pair of one currency has the price of one. -/
theorem contract_returned_iff
    (precision : 0 < context.prec)
    (buying : buyMatch.trade.action = .buy)
    (selling : sellMatch.trade.action = .sell)
    (buy_valid : buyMatch.Valid context load)
    (sell_valid : sellMatch.Valid context load) :
    (MatchesReturn context load sha256 version buyMatch sellMatch buyMatch
          sellMatch ∧
        MatchesReturn context load sha256 version sellMatch buyMatch buyMatch
          sellMatch) ↔
      sellMatch.greenAddress.ecdsaEncrypted =
          buyMatch.greenAddress.ecdsaEncrypted ∧
        (templateMatch buyMatch sellMatch).trade.amount.satoshi ≠ 0 ∧
        (templateMatch buyMatch sellMatch).trade.total.satoshi ≠ 0 ∧
        (buyMatch.trade.pair.base ≠ buyMatch.trade.pair.quote ∨
          (templateMatch buyMatch sellMatch).trade.ppc.satoshi = COIN) := by
  have product : (templateMatch buyMatch sellMatch).trade.amount.mul
      (templateMatch buyMatch sellMatch).trade.ppc =
        .ok (templateMatch buyMatch sellMatch).trade.total := by
    rw [templateMatch]
    split
    · exact buy_valid.trade.total
    · exact sell_valid.trade.total
  rw [matchesReturn_swap buying selling, and_self,
    matchesReturn_iff buying buy_valid sell_valid, exists_chunkLookup_iff product]
  rcases eq_or_ne buyMatch.trade.pair.base buyMatch.trade.pair.quote with
    same | distinct
  · have kept_iff (positive :
        (templateMatch buyMatch sellMatch).trade.amount.satoshi ≠ 0) :=
      @Trade.new_contractArgs_of_eq context _ _ _ _ buyMatch.orderHash same
        positive precision product
    constructor
    · rintro ⟨⟨amount, total⟩, server, kept⟩
      exact ⟨server, amount, total, Or.inr ((kept_iff amount).mp kept)⟩
    · rintro ⟨server, amount, total, distinct | one⟩
      · exact absurd same distinct
      · exact ⟨⟨amount, total⟩, server, (kept_iff amount).mpr one⟩
  · have ordered : buyMatch.trade.pair.base < buyMatch.trade.pair.quote :=
      String.not_le.mp fun reversed =>
        distinct (String.le_antisymm buy_valid.trade.ordered reversed)
    constructor
    · rintro ⟨⟨amount, total⟩, server, -⟩
      exact ⟨server, amount, total, Or.inl distinct⟩
    · rintro ⟨server, amount, total, -⟩
      exact ⟨⟨amount, total⟩, server,
        Trade.new_contractArgs_of_lt ordered product⟩

end Orders

end Matches

namespace Sample

/-- A match about two satoshi at the price of one, with a key of a server. -/
def formattedMatch (action : Action) (server : PubKey) : MatchType String :=
  let chunks := chunkMatch action twoSatoshi (C.coins 1) twoSatoshi
  { chunks with
    greenAddress := { chunks.greenAddress with ecdsaEncrypted := server } }

theorem formattedMatch_words
    {server : PubKey}
    (word : OneWord server.toList) :
    ∀ text ∈ ["address", "key1", "key2", server, "deposit", "sig1", "sig2"],
      OneWord text.toList := by
  simp only [List.forall_mem_cons]
  exact ⟨by decide, by decide, by decide, word, by decide, by decide,
    by decide, by simp⟩

theorem formattedMatch_priced (action : Action) (server : PubKey) :
    (formattedMatch action server).trade.Priced where
  ordered := (by decide : "bitcoin" ≤ "litecoin")
  total := (by decide +kernel :
    twoSatoshi.mul (C.coins 1) = .ok twoSatoshi)

theorem formattedMatch_pair (action : Action) (server : PubKey) :
    (formattedMatch action server).trade.pair.Valid where
  lowerCase := (by constructor <;> decide +kernel :
    CurrencyPair.LowerCase { base := "bitcoin", quote := "litecoin" })
  words := (by constructor <;> decide :
    OneWord "bitcoin".toList ∧ OneWord "litecoin".toList)
  no_slash := (by constructor <;> decide :
    '/' ∉ "bitcoin".toList ∧ '/' ∉ "litecoin".toList)

theorem formattedMatch_valid
    (action : Action)
    {server : PubKey}
    (word : OneWord server.toList) :
    (formattedMatch action server).Valid rowContext some where
  orderHash := (by decide : OneWord "order".toList)
  pair := formattedMatch_pair action server
  trade := formattedMatch_priced action server
  party := {
    address := rfl
    pubKey1 := rfl
    pubKey2 := rfl
    serverPubKey := rfl
    words := formattedMatch_words word }

end Sample

/-- Two matches of one server come back. -/
theorem contract_returned_of_one_server :
    MatchesReturn Sample.rowContext some String.ofList 1
        (Sample.formattedMatch .buy "server")
        (Sample.formattedMatch .sell "server")
        (Sample.formattedMatch .buy "server")
        (Sample.formattedMatch .sell "server") ∧
      MatchesReturn Sample.rowContext some String.ofList 1
        (Sample.formattedMatch .sell "server")
        (Sample.formattedMatch .buy "server")
        (Sample.formattedMatch .buy "server")
        (Sample.formattedMatch .sell "server") :=
  (contract_returned_iff (by decide) rfl rfl
    (Sample.formattedMatch_valid .buy (by decide))
    (Sample.formattedMatch_valid .sell (by decide))).mpr
      ⟨rfl, by decide +kernel, by decide +kernel, Or.inl (by decide)⟩

/-- The seller's own server key does not come back. -/
theorem contract_of_two_servers :
    ¬MatchesReturn Sample.rowContext some String.ofList 1
        (Sample.formattedMatch .buy "server")
        (Sample.formattedMatch .sell "other")
        (Sample.formattedMatch .buy "server")
        (Sample.formattedMatch .sell "other") := by
  rw [matchesReturn_iff rfl (Sample.formattedMatch_valid .buy (by decide))
    (Sample.formattedMatch_valid .sell (by decide))]
  rintro ⟨-, server, -⟩
  revert server
  decide

end Coinbend
