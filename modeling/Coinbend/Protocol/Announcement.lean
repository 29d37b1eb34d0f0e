import Coinbend.Protocol.OrderText
import Coinbend.Protocol.SetupReply

/-!
# Announced orders

What `parse_open_order` reads from the line `new_open_order` writes.  The line
is refused early when one of its texts is too long for the expression, above all
an amount of twenty digits, and when no route is kept.
-/

namespace Coinbend

open Regex

/-! ## The line of an order -/

/-- The texts of an order, with the routes without the space in front of
them. -/
def OpenOrderFields.texts
    (fields : OpenOrderFields)
    (routes : Text)
    (proofs : Proofs) : OrderTexts where
  action := fields.action.text.toList
  base := fields.pair.base.toList
  quote := fields.pair.quote.toList
  amount := fields.amount.str.toList
  ppc := fields.ppc.str.toList
  routes := routes
  depositTxid := fields.depositTxid.toList
  address := fields.address.toList
  pubKey1 := fields.pubKey1.toList
  pubKey2 := fields.pubKey2.toList
  serverPubKey := fields.serverPubKey.toList
  sig1 := proofs.sig1
  sig2 := proofs.sig2
  nonce := Nat.toDigits 10 proofs.nonce

/-- The line as it is written, one text after the other. -/
theorem OrderTexts.line_eq
    (texts : OrderTexts)
    (version ntp : Nat) :
    texts.line version ntp =
      Nat.toDigits 10 version ++ ' ' :: Nat.toDigits 10 ntp ++
        " open_order ".toList ++ texts.action ++
        ' ' :: (texts.base ++ '/' :: texts.quote) ++ ' ' :: texts.amount ++
        ' ' :: texts.ppc ++ ' ' :: texts.routes ++ ' ' :: texts.depositTxid ++
        ' ' :: texts.address ++ ' ' :: texts.pubKey1 ++ ' ' :: texts.pubKey2 ++
        ' ' :: texts.serverPubKey ++ ' ' :: texts.sig1 ++ ' ' :: texts.sig2 ++
        ' ' :: texts.nonce := by
  have name : " open_order ".toList = ' ' :: (openOrderName ++ [' ']) := rfl
  rw [name]
  simp [line, text, toList, Pattern.fieldsText, RoutePattern.openOrderParts]

theorem OpenOrderFields.wire_msg
    (fields : OpenOrderFields)
    (routes : Text)
    (proofs : Proofs) :
    proofs.wire (fields.msg (' ' :: routes)) =
      (fields.texts routes proofs).line protocolVersion fields.ntp := by
  rw [Proofs.wire, msg, CurrencyPair.text, OrderTexts.line_eq]
  dsimp only [texts]

/-- What `parse_open_order` reads from a line that matches.  No value stands for
a line that does not. -/
def readOpenOrder (ntp : Nat) (line : Text) :
    Except PyError (Option OpenOrderMsg) :=
  match (RoutePattern.openOrder.search line).map Match.groups with
  | some [_, action, base, quote, amount, ppc, routes, depositTxid, address,
      pubKey1, pubKey2, serverPubKey, _, _, nonce] => do
      let amount ← C.parse amount
      let ppc ← C.parse ppc
      -- The nonce and the signatures are popped from the words of the line.
      let words := (line.splitOn ' ').reverse
      return some {
        fields := {
          ntp
          action := if action = "buy".toList then .buy else .sell
          pair := {
            base := (String.ofList base).toLower
            quote := (String.ofList quote).toLower }
          amount
          ppc
          routes := ((routes.splitOn ',').filter (· ≠ [])).map String.ofList
          depositTxid := String.ofList depositTxid
          address := String.ofList address
          pubKey1 := String.ofList pubKey1
          pubKey2 := String.ofList pubKey2
          serverPubKey := String.ofList serverPubKey }
        text := String.ofList ([' '].intercalate (words.drop 3).reverse)
        sig1 := String.ofList (words.getD 2 [])
        sig2 := String.ofList (words.getD 1 [])
        nonce := Nat.ofDigitChars 10 nonce 0 }
  | _ => .ok none

namespace OpenOrderFields

/-- The names of an order have no spaces. -/
structure Plain (fields : OpenOrderFields) : Prop where
  base : ' ' ∉ fields.pair.base.toList
  quote : ' ' ∉ fields.pair.quote.toList
  depositTxid : ' ' ∉ fields.depositTxid.toList
  address : ' ' ∉ fields.address.toList
  pubKey1 : ' ' ∉ fields.pubKey1.toList
  pubKey2 : ' ' ∉ fields.pubKey2.toList
  serverPubKey : ' ' ∉ fields.serverPubKey.toList

theorem chars_of_str (c : C) :
    ∀ char ∈ c.str.toList, char.isDigit = true ∨ char = '.' := by
  intro char member
  rw [C.toList_str] at member
  rcases List.mem_append.mp member with whole | later
  · exact Or.inl (DigitText.digits_toDigits _ char whole)
  · rcases List.mem_cons.mp later with point | fraction
    · exact Or.inr point
    · exact Or.inl (C.isDigit_of_mem_fraction fraction)

theorem accepts_action (action : Action) :
    RoutePattern.action.Accepts action.text.toList := by
  rw [RoutePattern.accepts_action_iff]
  cases action
  · exact Or.inl rfl
  · exact Or.inr rfl

theorem length_fraction_le (c : C) : c.fraction.length ≤ 8 := by
  obtain ⟨zeros, split⟩ := c.decimals_eq
  have lengths := congrArg List.length split
  rw [c.length_decimals, List.length_append] at lengths
  unfold C.fraction
  split
  · exact (by decide : 2 ≤ 8)
  · omega

/-- An amount is printed with more digits than the expression takes when its
whole part has them. -/
theorem accepts_amount_iff (c : C) :
    RoutePattern.amount.Accepts c.str.toList ↔ c.whole < 10 ^ 19 := by
  have digits := DigitText.digits_toDigits c.whole
  have fraction_digits : DigitText.Digits c.fraction :=
    fun digit member => C.isDigit_of_mem_fraction member
  have some_digit := Nat.length_toDigits_pos (b := 10) (n := c.whole)
  have short : (Nat.toDigits 10 c.whole).length ≤ 19 ↔ c.whole < 10 ^ 19 :=
    Nat.length_toDigits_le_iff (by decide) (by decide)
  rw [RoutePattern.takes_isAmount.accepts_iff, C.toList_str, ← short]
  constructor
  · rintro ⟨whole, fraction, whole_digits, ⟨-, few⟩, same, fraction_eq⟩
    rcases fraction_eq with rfl | ⟨places, rfl, -⟩
    · rw [List.append_nil] at same
      have point : '.' ∈ whole :=
        same ▸ List.mem_append_right _ List.mem_cons_self
      exact absurd point (whole_digits.notMem rfl)
    · obtain ⟨whole_eq, -, -⟩ := (List.append_cons_inj_of_notMem
        (digits.notMem rfl) (fraction_digits.notMem rfl)).mp same
      rwa [whole_eq]
  · intro few
    exact ⟨_, _, digits, ⟨some_digit, few⟩, rfl, Or.inr ⟨_, rfl,
      fraction_digits, List.length_pos_iff_ne_nil.mpr c.fraction_ne_nil,
      Nat.le_trans (length_fraction_le c) (by decide)⟩⟩

theorem written_texts
    {fields : OpenOrderFields}
    {routes : Text}
    {proofs : Proofs}
    {formatted : List Route}
    (plain : fields.Plain)
    (sig1_plain : ' ' ∉ proofs.sig1)
    (sig2_plain : ' ' ∉ proofs.sig2)
    (routes_plain : ∀ route ∈ formatted, route.Plain)
    (formats : formatted.flatMap Route.text = ' ' :: routes) :
    (fields.texts routes proofs).Written formatted := by
  have number (c : C) : ' ' ∉ c.str.toList := by
    intro member
    rcases chars_of_str c ' ' member with digit | point
    · cases digit
    · cases point
  have acts : ' ' ∉ fields.action.text.toList := by
    cases fields.action <;> decide
  have texts_plain : (fields.texts routes proofs).Plain := by
    constructor <;> dsimp only [texts]
    · exact acts
    · exact plain.base
    · exact plain.quote
    · exact number fields.amount
    · exact number fields.ppc
    · exact plain.depositTxid
    · exact plain.address
    · exact plain.pubKey1
    · exact plain.pubKey2
    · exact plain.serverPubKey
    · exact sig1_plain
    · exact sig2_plain
    · exact Route.space_notMem_digits proofs.nonce
  refine ⟨texts_plain, ?_, ?_, ?_, formats, routes_plain, ?_⟩ <;>
    dsimp only [texts]
  · exact accepts_action fields.action
  · exact chars_of_str fields.amount
  · exact chars_of_str fields.ppc
  · exact DigitText.digits_toDigits proofs.nonce

/-- The fields that are read from the line of an order. -/
def readBack (fields : OpenOrderFields) (routes : Text) : OpenOrderFields :=
  { fields with
    amount := fields.amount.printed
    ppc := fields.ppc.printed
    routes := ((routes.splitOn ',').filter (· ≠ [])).map String.ofList }

/-- An order with its signed text, its signatures and its nonce. -/
def posted
    (fields : OpenOrderFields)
    (msg : Text)
    (proofs : Proofs) : OpenOrderMsg where
  fields := fields
  text := String.ofList msg
  sig1 := String.ofList proofs.sig1
  sig2 := String.ofList proofs.sig2
  nonce := proofs.nonce

@[simp] theorem posted_fields
    (fields : OpenOrderFields)
    (msg : Text)
    (proofs : Proofs) :
    (fields.posted msg proofs).fields = fields := rfl

/-- The last words of a line are popped. -/
theorem reverse_splitOn_wire
    {proofs : Proofs}
    (sig1_plain : ' ' ∉ proofs.sig1)
    (sig2_plain : ' ' ∉ proofs.sig2)
    (msg : Text) :
    ((proofs.wire msg).splitOn ' ').reverse =
      Nat.toDigits 10 proofs.nonce :: proofs.sig2 :: proofs.sig1 ::
        (msg.splitOn ' ').reverse := by
  have nested : proofs.wire msg = msg ++ ' ' :: (proofs.sig1 ++
      ' ' :: (proofs.sig2 ++ ' ' :: Nat.toDigits 10 proofs.nonce)) := by
    simp [Proofs.wire]
  rw [nested, List.splitOn_append_cons_self,
    List.splitOn_append_cons_self_of_not_mem sig1_plain,
    List.splitOn_append_cons_self_of_not_mem sig2_plain,
    List.splitOn_eq_singleton (Route.space_notMem_digits proofs.nonce)]
  simp

theorem toLower_of_isLower
    {char : Char}
    (lower : char.isLower = true) :
    char.toLower = char := by
  have least : 'a'.val ≤ char.val :=
    of_decide_eq_true (Bool.and_eq_true_iff.mp lower).1
  refine dif_neg ?_
  rintro ⟨-, upper⟩
  exact absurd (UInt32.le_trans least upper) (by decide)

/-- Names of currencies are lower case. -/
theorem toLower_of_currency
    {name : String}
    (accepted : RoutePattern.currency.Accepts name.toList) :
    name.toLower = name := by
  rw [RoutePattern.currency, (Pattern.takes_many_one _ _ _ (by simp)).accepts_iff]
    at accepted
  have lower : name.toList.map Char.toLower = name.toList := by
    refine (List.map_congr_left fun char member => ?_).trans (List.map_id _)
    have letter := accepted.1 char member
    rw [Bool.or_eq_true, beq_iff_eq] at letter
    rcases letter with letter | rfl
    · exact toLower_of_isLower letter
    · rfl
  have mapped : name.toLower = name.map Char.toLower := rfl
  rw [mapped, ← String.toList_inj, String.toList_map, lower]

/-- A line of valid texts is read. -/
theorem readOpenOrder_of_valid
    {fields : OpenOrderFields}
    {routes : Text}
    {proofs : Proofs}
    {formatted : List Route}
    (written : (fields.texts routes proofs).Written formatted)
    (valid : (fields.texts routes proofs).Valid) :
    readOpenOrder fields.ntp (proofs.wire (fields.msg (' ' :: routes))) =
      .ok (some ((fields.readBack routes).posted
        (fields.msg (' ' :: routes)) proofs)) := by
  have searched := written.search_of_valid protocolVersion fields.ntp valid
  rw [← wire_msg] at searched
  have words := reverse_splitOn_wire written.sig1 written.sig2
    (fields.msg (' ' :: routes))
  have base_lower : fields.pair.base.toLower = fields.pair.base :=
    toLower_of_currency valid.base
  have quote_lower : fields.pair.quote.toLower = fields.pair.quote :=
    toLower_of_currency valid.quote
  unfold posted readBack
  generalize fields.msg (' ' :: routes) = msg at searched words ⊢
  unfold readOpenOrder
  rw [searched]
  simp only [OrderTexts.toList, texts]
  rw [C.parse_str, C.parse_str]
  have acts : (if fields.action.text.toList = "buy".toList then Action.buy
      else Action.sell) = fields.action := by
    cases fields.action <;> rfl
  simp only [Except.ok_bind, words, acts, base_lower, quote_lower,
    List.drop_succ_cons, List.drop_zero, List.reverse_reverse,
    List.intercalate_splitOn, List.getD_cons_succ, List.getD_cons_zero,
    String.ofList_toList, Nat.ofDigitChars_ten_toDigits]
  rfl

/-- Any other line is not. -/
theorem readOpenOrder_of_not_valid
    {fields : OpenOrderFields}
    {routes : Text}
    {proofs : Proofs}
    {formatted : List Route}
    (written : (fields.texts routes proofs).Written formatted)
    (invalid : ¬(fields.texts routes proofs).Valid) :
    readOpenOrder fields.ntp (proofs.wire (fields.msg (' ' :: routes))) =
      .ok none := by
  have searched :=
    written.search_of_not_valid protocolVersion fields.ntp invalid
  rw [← wire_msg] at searched
  unfold readOpenOrder
  rw [searched]
  rfl

end OpenOrderFields

/-! ## The routes of a node -/

namespace NetState

/-- The addresses of a node and of those it knows have no spaces. -/
structure Plain (net : NetState) : Prop where
  passiveBind : ' ' ∉ net.passiveBind
  lanIp : ∀ ip ∈ net.lanIp, ' ' ∉ ip
  wanIp : ' ' ∉ net.wanIp
  rendezvousServers : ∀ server ∈ net.rendezvousServers, ' ' ∉ server.addr
  nodes : ∀ node ∈ net.nodes, ' ' ∉ node.ip

variable {net : NetState}

theorem Plain.bindAddr
    (plain : net.Plain)
    {addr : Text}
    (bound : net.bindAddr = .ok addr) :
    ' ' ∉ addr := by
  unfold NetState.bindAddr at bound
  split_ifs at bound
  · cases lan : net.lanIp with
    | none =>
        rw [lan] at bound
        cases bound
    | some ip =>
        rw [lan] at bound
        obtain rfl := Except.ok.inj bound
        exact plain.lanIp ip lan
  · obtain rfl := Except.ok.inj bound
    exact plain.passiveBind
  · obtain rfl := Except.ok.inj bound
    exact plain.wanIp

theorem Plain.route
    (plain : net.Plain)
    {formatted : List Route}
    (formats : net.formatted = .ok formatted) :
    ∀ route ∈ formatted, route.Plain := by
  have own := (formatted_spec formats).2
  have bound : ∀ route ∈ formatted, ' ' ∉ route.addr :=
    fun route member => plain.bindAddr (own route member)
  rw [NetState.formatted, Except.bind_eq_ok_iff] at formats
  obtain ⟨addr, -, formats⟩ := formats
  cases kind : net.nodeType with
  | unknown =>
      rw [kind] at formats
      cases formats
  | passive =>
      rw [kind] at formats
      obtain rfl := Except.ok.inj formats
      simp only [List.forall_mem_singleton] at bound ⊢
      exact ⟨by simp, bound, by simp⟩
  | simultaneous =>
      rw [kind, Except.bind_eq_ok_iff] at formats
      obtain ⟨rendezvous, listed, formats⟩ := formats
      obtain rfl := Except.ok.inj formats
      simp only [List.forall_mem_singleton] at bound ⊢
      have server := (Except.ofOption_eq_ok_iff _ _ _).mp listed
      refine ⟨by simp, bound, ?_⟩
      intro next isNext
      obtain rfl := Option.mem_some.mp isNext
      exact plain.rendezvousServers _ (List.mem_of_getElem? server)
  | relay =>
      rw [kind] at formats
      dsimp only at formats
      split at formats
      next =>
        rw [Except.bind_eq_ok_iff] at formats
        obtain ⟨rendezvous, listed, formats⟩ := formats
        obtain rfl := Except.ok.inj formats
        simp only [List.forall_mem_singleton] at bound ⊢
        have server := (Except.ofOption_eq_ok_iff _ _ _).mp listed
        refine ⟨by simp, bound, ?_⟩
        intro next isNext
        obtain rfl := Option.mem_some.mp isNext
        exact plain.rendezvousServers _ (List.mem_of_getElem? server)
      next =>
        obtain rfl := Except.ok.inj formats
        intro route member
        have route_bound := bound route member
        obtain ⟨node, taken, rfl⟩ := List.mem_map.mp member
        refine ⟨by simp, route_bound, ?_⟩
        intro next isNext
        obtain rfl := Option.mem_some.mp isNext
        exact plain.nodes node (List.mem_of_mem_filter
          (List.mem_of_mem_take taken))

/-- What `format_routes` returns are the texts of some routes, with a space in
front. -/
theorem Plain.formatRoutes
    (plain : net.Plain)
    {routes : Text}
    (formats : net.formatRoutes = .ok routes) :
    ∃ formatted : List Route, (∀ route ∈ formatted, route.Plain) ∧
      formatted.flatMap Route.text = ' ' :: routes.tail ∧
      routes = ' ' :: routes.tail := by
  rw [NetState.formatRoutes] at formats
  cases formatted : net.formatted with
  | error error =>
      rw [formatted] at formats
      cases formats
  | ok listed =>
      rw [formatted] at formats
      obtain rfl := Except.ok.inj formats
      obtain ⟨route, others, rfl⟩ :=
        List.exists_cons_of_ne_nil (formatted_spec formatted).1
      exact ⟨route :: others, plain.route formatted, rfl, rfl⟩

end NetState

/-! ## Reading an announcement -/

theorem accepts_encode
    {bytes : Bytes}
    (nonempty : bytes ≠ [])
    (few : bytes.length ≤ 128) :
    (RoutePattern.solid 1 (some 256)).Accepts (Base64.encode bytes) := by
  have some_byte := List.length_pos_iff_ne_nil.mpr nonempty
  have length := Base64.length_encode bytes
  rw [RoutePattern.solid,
    (Pattern.takes_many_one _ _ _ (by simp)).accepts_iff]
  refine ⟨fun char member => ?_, by omega, ?_⟩
  · rw [(safe_of_mem_encode member).1]
    rfl
  · intro bound isBound
    obtain rfl := Option.mem_some.mp isBound
    omega

namespace Protocol

variable {Hex : Type} (env : MarketEnv Hex)

/-- The order `new_open_order` posts, with its routes. -/
def postOrder (fields : OpenOrderFields) (routes : Text) : OpenOrderMsg :=
  post env fields (String.ofList (fields.msg routes)) fields.pubKey1
    fields.pubKey2

/-- The line of a posted order. -/
def openOrderLine (fields : OpenOrderFields) (routes : Text) : Text :=
  (postOrder env fields routes).wire.toList

/-- The trade `parse_open_order` makes of a line before it records it.  There is
none where the handler returns early, or where the trade is an object without
its attributes. -/
def announcedTrade
    (context : TradeContext)
    (routeContext : RouteContext)
    (ntp : Nat)
    (line : Text) : Except PyError (Option Trade) := do
  match ← readOpenOrder ntp line with
  | none => return none
  | some msg =>
      let ecdsa1 ← loadKey env msg.fields.pubKey1
      let ecdsa2 ← loadKey env msg.fields.pubKey2
      let _ ← loadKey env msg.fields.serverPubKey
      if postIsValid env msg ecdsa1 ecdsa2 = false then return none
      if (msg.fields.routes.map String.toList).filterMap
          (parseRoute routeContext) = [] then
        return none
      theirTrade context msg.fields

/-- A key `ECDSACrypt` loads from its text, up to sixty-five bytes in base
64. -/
structure PublishedKey (key : PubKey) : Prop where
  loads : env.ecdsa.load key = some key
  encoded : ∃ bytes : Bytes, bytes ≠ [] ∧ bytes.length ≤ 65 ∧
    key.toList = Base64.encode bytes

/-- A key of our own: its signatures are sixty-four bytes in base 64, and they
are valid. -/
structure SigningKey (key : PubKey) : Prop extends PublishedKey env key where
  signature : ∀ text, ∃ bytes : Bytes, bytes.length = 64 ∧
    (env.ecdsa.sign key text).toList = Base64.encode bytes
  verifies : ∀ text,
    env.ecdsa.validSignature key (env.ecdsa.sign key text) text = true

/-- The proof of work a node finds is valid, and a number of sixty-four
bits. -/
structure ProvesWork : Prop where
  valid : ∀ text, env.powIsValid text (env.powCalculate text) = true
  packed : ∀ text, env.powCalculate text < 2 ^ 64

/-- What `new_open_order` is given: keys and a proof of work that are sound, the
routes of the node, and names without spaces. -/
structure Posted
    (net : NetState)
    (fields : OpenOrderFields)
    (routes : Text) : Prop where
  work : ProvesWork env
  key1 : SigningKey env fields.pubKey1
  key2 : SigningKey env fields.pubKey2
  serverKey : PublishedKey env fields.serverPubKey
  net_plain : net.Plain
  formats : net.formatRoutes = .ok routes
  base_plain : ' ' ∉ fields.pair.base.toList
  quote_plain : ' ' ∉ fields.pair.quote.toList
  txid_plain : ' ' ∉ fields.depositTxid.toList
  address_plain : ' ' ∉ fields.address.toList

/-- The reader finds the names and the routes of an order in its line, and keeps
some route. -/
structure Readable
    (routeContext : RouteContext)
    (pair : CurrencyPair)
    (announced : Text)
    (depositTxid : Txid)
    (address : Address) : Prop where
  base : RoutePattern.currency.Accepts pair.base.toList
  quote : RoutePattern.currency.Accepts pair.quote.toList
  routes : (RoutePattern.routes (RoutePattern.solid 1 (some 255))).Accepts
    announced
  kept : parseRoutes routeContext announced ≠ []
  depositTxid : (RoutePattern.alphanumeric 1 none).Accepts depositTxid.toList
  address : (RoutePattern.alphanumeric 1 (some 40)).Accepts address.toList

section Posted

variable {env} {context : TradeContext} {routeContext : RouteContext}
  {net : NetState} {fields : OpenOrderFields} {routes : Text}

/-- The signatures and the nonce of a posted order. -/
def proofsOf (msg : OpenOrderMsg) : Proofs where
  sig1 := msg.sig1.toList
  sig2 := msg.sig2.toList
  nonce := msg.nonce

theorem toList_wire (msg : OpenOrderMsg) :
    msg.wire.toList = (proofsOf msg).wire msg.text.toList := by
  have space : " ".toList = [' '] := rfl
  simp only [PostedMsg.wire, PostedMsg.signedText, proofsOf, Proofs.wire,
    String.toList_append, space, List.append_assoc, List.cons_append,
    List.nil_append, Nat.toString_eq_ofList_toDigits, String.toList_ofList]

theorem openOrderLine_eq
    (env : MarketEnv Hex)
    (fields : OpenOrderFields)
    (routes : Text) :
    openOrderLine env fields routes =
      (proofsOf (postOrder env fields routes)).wire (fields.msg routes) := by
  have text : (postOrder env fields routes).text.toList = fields.msg routes :=
    String.toList_ofList
  rw [← text]
  exact toList_wire _

theorem accepts_publishedKey
    {key : PubKey}
    (published : PublishedKey env key) :
    (RoutePattern.solid 1 (some 256)).Accepts key.toList := by
  obtain ⟨bytes, nonempty, few, encoded⟩ := published.encoded
  rw [encoded]
  exact accepts_encode nonempty (Nat.le_trans few (by decide))

theorem accepts_sign
    {key : PubKey}
    (signing : SigningKey env key)
    (text : String) :
    (RoutePattern.solid 1 (some 256)).Accepts
      (env.ecdsa.sign key text).toList := by
  obtain ⟨bytes, length, encoded⟩ := signing.signature text
  rw [encoded]
  refine accepts_encode ?_ (length.le.trans (by decide))
  rintro rfl
  cases length

variable (posted : Posted env net fields routes)
include posted

/-- The texts of a posted order are valid when the reader finds its names, its
routes and its amounts. -/
theorem valid_posted_iff :
    (fields.texts routes.tail
        (proofsOf (postOrder env fields routes))).Valid ↔
      RoutePattern.currency.Accepts fields.pair.base.toList ∧
      RoutePattern.currency.Accepts fields.pair.quote.toList ∧
      (RoutePattern.routes (RoutePattern.solid 1 (some 255))).Accepts
        routes.tail ∧
      (RoutePattern.alphanumeric 1 none).Accepts fields.depositTxid.toList ∧
      (RoutePattern.alphanumeric 1 (some 40)).Accepts fields.address.toList ∧
      fields.amount.whole < 10 ^ 19 ∧ fields.ppc.whole < 10 ^ 19 := by
  have nonce : (RoutePattern.digits 1 (some 100)).Accepts
      (Nat.toDigits 10 (postOrder env fields routes).nonce) := by
    rw [RoutePattern.digits,
      (Pattern.takes_many_one _ _ _ (by simp)).accepts_iff]
    have small : (postOrder env fields routes).nonce < 2 ^ 64 :=
      posted.work.packed _
    have few := (Nat.length_toDigits_le_iff (b := 10) (k := 100) (by decide)
      (by decide)).mpr (Nat.lt_trans small (by decide))
    refine ⟨DigitText.digits_toDigits _, Nat.length_toDigits_pos, ?_⟩
    intro bound isBound
    obtain rfl := Option.mem_some.mp isBound
    exact few
  rw [← OpenOrderFields.accepts_amount_iff fields.amount,
    ← OpenOrderFields.accepts_amount_iff fields.ppc]
  constructor
  · rintro ⟨-, base, quote, amount, ppc, listed, txid, address, -⟩
    dsimp only [OpenOrderFields.texts] at amount ppc
    exact ⟨base, quote, listed, txid, address, amount, ppc⟩
  · rintro ⟨base, quote, listed, txid, address, amount, ppc⟩
    constructor <;> dsimp only [OpenOrderFields.texts]
    · exact OpenOrderFields.accepts_action fields.action
    · exact base
    · exact quote
    · exact amount
    · exact ppc
    · exact listed
    · exact txid
    · exact address
    · exact accepts_publishedKey posted.key1.toPublishedKey
    · exact accepts_publishedKey posted.key2.toPublishedKey
    · exact accepts_publishedKey posted.serverKey
    · exact accepts_sign posted.key1 _
    · exact accepts_sign posted.key2 _
    · exact nonce

theorem written_posted :
    ∃ formatted, (fields.texts routes.tail
      (proofsOf (postOrder env fields routes))).Written formatted := by
  obtain ⟨formatted, routes_plain, formats, -⟩ :=
    posted.net_plain.formatRoutes posted.formats
  have key {key : PubKey} (published : PublishedKey env key) :
      ' ' ∉ key.toList :=
    RoutePattern.notMem_of_accepts (by simp) (accepts_publishedKey published)
      rfl
  have sig {key : PubKey} (signing : SigningKey env key) (text : String) :
      ' ' ∉ (env.ecdsa.sign key text).toList :=
    RoutePattern.notMem_of_accepts (by simp) (accepts_sign signing text) rfl
  exact ⟨formatted, OpenOrderFields.written_texts
    ⟨posted.base_plain, posted.quote_plain, posted.txid_plain,
      posted.address_plain, key posted.key1.toPublishedKey,
      key posted.key2.toPublishedKey, key posted.serverKey⟩
    (sig posted.key1 _) (sig posted.key2 _) routes_plain formats⟩

theorem readOpenOrder_posted
    (valid : (fields.texts routes.tail
      (proofsOf (postOrder env fields routes))).Valid) :
    readOpenOrder fields.ntp (openOrderLine env fields routes) =
      .ok (some ((fields.readBack routes.tail).posted (fields.msg routes)
        (proofsOf (postOrder env fields routes)))) := by
  obtain ⟨formatted, written⟩ := written_posted posted
  obtain ⟨-, -, -, routes_eq⟩ := posted.net_plain.formatRoutes posted.formats
  have read := OpenOrderFields.readOpenOrder_of_valid written valid
  rw [← routes_eq] at read
  rw [openOrderLine_eq]
  exact read

omit posted in
theorem postIsValid_congr
    (other : OpenOrderFields)
    (msg : OpenOrderMsg)
    (ecdsa1 ecdsa2 : PubKey) :
    postIsValid env
        (other.posted msg.text.toList (proofsOf msg)) ecdsa1 ecdsa2 =
      postIsValid env msg ecdsa1 ecdsa2 := by
  simp only [postIsValid, PostedMsg.signedText, OpenOrderFields.posted,
    proofsOf, String.ofList_toList]

/-- The checks of the proof of work and the signatures pass. -/
theorem postIsValid_posted (other : OpenOrderFields) :
    postIsValid env
      (other.posted (fields.msg routes)
        (proofsOf (postOrder env fields routes)))
      fields.pubKey1 fields.pubKey2 = true := by
  unfold postOrder
  generalize fields.msg routes = msg
  have same := @postIsValid_congr _ env other
    (post env fields (String.ofList msg) fields.pubKey1 fields.pubKey2)
    fields.pubKey1 fields.pubKey2
  have text : (post env fields (String.ofList msg) fields.pubKey1
      fields.pubKey2).text.toList = msg := String.toList_ofList
  rw [text] at same
  rw [same, postIsValid, Bool.and_eq_true, Bool.and_eq_true]
  exact ⟨⟨posted.work.valid _, posted.key1.verifies _⟩,
    posted.key2.verifies _⟩

/-- With valid texts it depends on the routes whether a trade is made. -/
theorem announcedTrade_of_valid
    (valid : (fields.texts routes.tail
      (proofsOf (postOrder env fields routes))).Valid) :
    announcedTrade env context routeContext fields.ntp
        (openOrderLine env fields routes) =
      if parseRoutes routeContext routes.tail = [] then .ok none
      else theirTrade context (fields.readBack routes.tail) := by
  have read := readOpenOrder_posted posted valid
  have signed := postIsValid_posted posted (fields.readBack routes.tail)
  have loads {key : PubKey} (published : PublishedKey env key) :
      loadKey env key = .ok key := by
    rw [loadKey, published.loads]
    rfl
  have listed : (fields.readBack routes.tail).routes.map String.toList =
      (routes.tail.splitOn ',').filter (· ≠ []) := by
    simp [OpenOrderFields.readBack, Function.comp_def]
  unfold announcedTrade
  rw [read, Except.ok_bind]
  have fields_eq : ((fields.readBack routes.tail).posted (fields.msg routes)
      (proofsOf (postOrder env fields routes))).fields =
        fields.readBack routes.tail := OpenOrderFields.posted_fields _ _ _
  generalize (fields.readBack routes.tail).posted (fields.msg routes)
    (proofsOf (postOrder env fields routes)) = msg at signed fields_eq ⊢
  dsimp only
  rw [fields_eq, listed]
  have pubKey1_eq : (fields.readBack routes.tail).pubKey1 = fields.pubKey1 := by
    rw [OpenOrderFields.readBack]
  have pubKey2_eq : (fields.readBack routes.tail).pubKey2 = fields.pubKey2 := by
    rw [OpenOrderFields.readBack]
  have server_eq : (fields.readBack routes.tail).serverPubKey =
      fields.serverPubKey := by
    rw [OpenOrderFields.readBack]
  rw [pubKey1_eq, pubKey2_eq, server_eq, loads posted.key1.toPublishedKey, Except.ok_bind,
    loads posted.key2.toPublishedKey, Except.ok_bind, loads posted.serverKey,
    Except.ok_bind, signed, if_neg (by decide)]
  rfl

/-- The reader makes the trade of an order it finds, and returns early
otherwise. -/
theorem announcedTrade_of_readable
    (readable : Readable routeContext fields.pair routes.tail
      fields.depositTxid fields.address)
    (amount_short : fields.amount.whole < 10 ^ 19)
    (ppc_short : fields.ppc.whole < 10 ^ 19) :
    announcedTrade env context routeContext fields.ntp
        (openOrderLine env fields routes) =
      theirTrade context (fields.readBack routes.tail) := by
  have valid := (valid_posted_iff posted).mpr ⟨readable.base, readable.quote,
    readable.routes, readable.depositTxid, readable.address, amount_short,
    ppc_short⟩
  rw [announcedTrade_of_valid posted valid, if_neg readable.kept]

theorem announcedTrade_of_unreadable
    (unreadable : ¬(Readable routeContext fields.pair routes.tail
      fields.depositTxid fields.address ∧
        fields.amount.whole < 10 ^ 19 ∧ fields.ppc.whole < 10 ^ 19)) :
    announcedTrade env context routeContext fields.ntp
        (openOrderLine env fields routes) = .ok none := by
  by_cases valid : (fields.texts routes.tail
      (proofsOf (postOrder env fields routes))).Valid
  · obtain ⟨base, quote, listed, txid, address, amount_short, ppc_short⟩ :=
      (valid_posted_iff posted).mp valid
    have refused : parseRoutes routeContext routes.tail = [] := by
      by_contra kept
      exact unreadable ⟨⟨base, quote, listed, kept, txid, address⟩,
        amount_short, ppc_short⟩
    rw [announcedTrade_of_valid posted valid, if_pos refused]
  · obtain ⟨formatted, written⟩ := written_posted posted
    obtain ⟨-, -, -, routes_eq⟩ :=
      posted.net_plain.formatRoutes posted.formats
    have read := OpenOrderFields.readOpenOrder_of_not_valid written valid
    rw [← routes_eq, ← openOrderLine_eq] at read
    rw [announcedTrade, read]
    rfl

end Posted

end Protocol

end Coinbend
