import Coinbend.Library.Numerals
import Coinbend.Library.Regex
import Coinbend.Protocol.ContractText
import Coinbend.Protocol.Orders
import Coinbend.Trade.Rows

/-!
# Routes in orders and matches

`format_routes` tells other nodes where to reach this one, and `parse_routes`
keeps the routes of another node that pass its checks.  Outside of debug mode
an address has to be public, which `is_ip_public` only says of texts that are
no address at all.
-/

namespace Coinbend

open Regex

/-! ## Addresses and ports -/

/-- `ipaddress.IPv4Address`. -/
structure IPv4Address where
  first : Fin 256
  second : Fin 256
  third : Fin 256
  fourth : Fin 256
  deriving DecidableEq

namespace IPv4Address

/-- One to three digits without a leading zero, for a byte. -/
def octet (text : Text) : Option (Fin 256) :=
  if text ≠ [] ∧ text.length ≤ 3 ∧ text.all Char.isDigit = true ∧
      (text.head? = some '0' → text = ['0']) then
    let value := Nat.ofDigitChars 10 text 0
    if small : value < 256 then some ⟨value, small⟩ else none
  else none

/-- `ipaddress.ip_address`, on a text without a colon. -/
def parse (text : Text) : Option IPv4Address :=
  match text.splitOn '.' with
  | [first, second, third, fourth] => do
      let first ← octet first
      let second ← octet second
      let third ← octet third
      let fourth ← octet fourth
      some { first, second, third, fourth }
  | _ => none

def number (address : IPv4Address) : Nat :=
  ((address.first * 256 + address.second) * 256 + address.third) * 256 +
    address.fourth

/-- The private networks: an address and the bits its members share. -/
def privateNetworks : List (IPv4Address × Nat) :=
  [(⟨0, 0, 0, 0⟩, 8), (⟨10, 0, 0, 0⟩, 8), (⟨127, 0, 0, 0⟩, 8),
    (⟨169, 254, 0, 0⟩, 16), (⟨172, 16, 0, 0⟩, 12), (⟨192, 0, 0, 0⟩, 29),
    (⟨192, 0, 0, 170⟩, 31), (⟨192, 0, 2, 0⟩, 24), (⟨192, 168, 0, 0⟩, 16),
    (⟨198, 18, 0, 0⟩, 15), (⟨198, 51, 100, 0⟩, 24), (⟨203, 0, 113, 0⟩, 24),
    (⟨240, 0, 0, 0⟩, 4), (⟨255, 255, 255, 255⟩, 32)]

/-- `is_private`. -/
def isPrivate (address : IPv4Address) : Bool :=
  privateNetworks.any fun network =>
    address.number / 2 ^ (32 - network.2) =
      network.1.number / 2 ^ (32 - network.2)

end IPv4Address

/-- `is_ip_private`. -/
def isIpPrivate (ipAddr : Text) : Bool :=
  match IPv4Address.parse ipAddr with
  | some address => address.isPrivate || ipAddr != "127.0.0.1".toList
  | none => false

/-- `is_ip_public`. -/
def isIpPublic (ipAddr : Text) : Bool :=
  !isIpPrivate ipAddr

/-- `is_ip_valid`. -/
def isIpValid (ipAddr : Text) : Bool :=
  (IPv4Address.parse ipAddr).isSome

/-- `is_valid_port`. -/
def isValidPort (port : Text) : Bool :=
  match Numerals.readInt isSpace port with
  | some port => ¬(port < 1 ∨ port > 65536)
  | none => false

/-! ## Parsing -/

namespace RoutePattern

def digits (least : Nat) (most : Option Nat) : Pattern Char :=
  .many least most (.one Char.isDigit)

def space : Pattern Char :=
  .one (· = ' ')

def solid (least : Nat) (most : Option Nat) : Pattern Char :=
  .many least most (.one fun char => !isSpace char)

/-- `(?:...)?`; groups that are not there are empty. -/
def optional (groups : Nat) (body : Pattern Char) : Pattern Char :=
  .either body (.sequence (List.replicate groups (.group .empty)))

/-- `passive|simultaneous|relay`. -/
def kind : Pattern Char :=
  .either (.literal "passive".toList)
    (.either (.literal "simultaneous".toList) (.literal "relay".toList))

/-- Four runs of digits with points between them. -/
def dotted (most : Option Nat) : Pattern Char :=
  .sequence [digits 1 most, .one (· = '.'), digits 1 most, .one (· = '.'),
    digits 1 most, .one (· = '.'), digits 1 most]

/-- `[,]?[\[](passive|simultaneous|relay) ([0-9]+[.][0-9]+[.][0-9]+[.][0-9]+)
([0-9]+)(?: ([^\s]+) ([0-9]+))?[\]]`. -/
def route : Pattern Char :=
  .sequence [.many 0 (some 1) (.one (· = ',')), .one (· = '['), .group kind,
    space, .group (dotted none), space, .group (digits 1 none),
    optional 2 (.sequence [space, .group (solid 1 none), space,
      .group (digits 1 none)]), .one (· = ']')]

end RoutePattern

/-- What a node reads a route with: `config["debug"]` and whether
`socket.gethostbyname` resolves a name. -/
structure RouteContext where
  debug : Bool
  resolves : Text → Bool

/-- `is_valid_ip` of `parse_routes`. -/
def RouteContext.isValidIp (context : RouteContext) (ipAddr : Text) : Bool :=
  if context.debug then isIpValid ipAddr else isIpPublic ipAddr

/-- The body of the loop of `parse_routes`: the five groups of a route that is
kept. -/
def parseRoute (context : RouteContext) (route : Text) :
    Option (List Text) :=
  match (RoutePattern.route.search route).map Match.groups with
  | some [kind, ipAddr, port, addr, addrPort] =>
      if context.isValidIp ipAddr = false then none
      else if isValidPort port = false ∧ kind ≠ "simultaneous".toList then none
      else if (kind = "simultaneous".toList ∨ kind = "relay".toList) ∧
          (context.resolves addr = false ∨ isValidPort addrPort = false) then
        none
      else some [kind, ipAddr, port, addr, addrPort]
  | _ => none

/-- `parse_routes`. -/
def parseRoutes (context : RouteContext) (routes : Text) :
    List (List Text) :=
  ((routes.splitOn ',').filter (· ≠ [])).filterMap (parseRoute context)

/-- Only texts that are no address are public. -/
theorem isIpPublic_iff (ipAddr : Text) :
    isIpPublic ipAddr = true ↔ IPv4Address.parse ipAddr = none := by
  rw [isIpPublic, isIpPrivate]
  cases parsed : IPv4Address.parse ipAddr with
  | none => simp
  | some address =>
      have own : ipAddr = "127.0.0.1".toList → address.isPrivate = true := by
        rintro rfl
        have loopback : IPv4Address.parse "127.0.0.1".toList =
            some ⟨127, 0, 0, 1⟩ := by
          decide +kernel
        obtain rfl := Option.some.inj (parsed.symm.trans loopback)
        decide +kernel
      simp only [Bool.not_eq_true', Bool.or_eq_false_iff, reduceCtorEq,
        iff_false, not_and]
      intro not_private same
      have listed : ipAddr = "127.0.0.1".toList := by simpa using same
      rw [own listed] at not_private
      cases not_private

/-- A route that is kept outside of debug mode does not name an address. -/
theorem parse_of_mem_parseRoutes
    {context : RouteContext}
    (production : context.debug = false)
    {routes : Text}
    {route : List Text}
    (member : route ∈ parseRoutes context routes) :
    ∃ kind ipAddr port addr addrPort,
      route = [kind, ipAddr, port, addr, addrPort] ∧
        IPv4Address.parse ipAddr = none := by
  obtain ⟨text, -, parsed⟩ := List.mem_filterMap.mp member
  unfold parseRoute at parsed
  split at parsed
  next kind ipAddr port addr addrPort _ =>
    simp only [Option.ite_none_left_eq_some, Option.some.injEq,
      Bool.not_eq_false] at parsed
    obtain ⟨valid, -, -, rfl⟩ := parsed
    rw [RouteContext.isValidIp, production, if_neg Bool.false_ne_true,
      isIpPublic_iff] at valid
    exact ⟨kind, ipAddr, port, addr, addrPort, rfl, valid⟩
  next => cases parsed

/-! ## Formatting -/

/-- `direct_node_type`. -/
inductive NodeType
  | unknown
  | passive
  | simultaneous
  | relay
  deriving DecidableEq

/-- A connection of `net`; its address and port, and whether the node is
passive. -/
structure NetNode where
  isPassive : Bool
  ip : Text
  port : Nat

/-- `{"addr": ..., "port": ...}`. -/
structure RendezvousServer where
  addr : Text
  port : Nat

/-- What `format_routes` reads. -/
structure NetState where
  localOnly : Bool
  passiveBind : Text
  /-- `get_lan_ip`. -/
  lanIp : Option Text
  /-- `get_wan_ip`. -/
  wanIp : Text
  nodeType : NodeType
  directPort : Nat
  rendezvousServers : List RendezvousServer
  /-- `random_index_in_list`. -/
  randomIndex : Nat
  nodes : List NetNode

/-- One formatted route. -/
structure Route where
  kind : Text
  addr : Text
  port : Nat
  next : Option (Text × Nat)

namespace Route

/-- The text of a route. -/
def text (route : Route) : Text :=
  " [".toList ++ route.kind ++ ' ' :: route.addr ++
    ' ' :: Nat.toDigits 10 route.port ++
    (match route.next with
      | some (addr, port) => ' ' :: addr ++ ' ' :: Nat.toDigits 10 port
      | none => []) ++ [']']

/-- What a reader is to find. -/
def groups (route : Route) : List Text :=
  [route.kind, route.addr, Nat.toDigits 10 route.port,
    (route.next.map Prod.fst).getD [],
    (route.next.map fun next => Nat.toDigits 10 next.2).getD []]

end Route

namespace NetState

/-- `bind_addr`. -/
def bindAddr (net : NetState) : Except PyError Text :=
  if net.localOnly then
    if net.passiveBind = "0.0.0.0".toList then
      Except.ofOption
        (.exception "Unable to get LAN IP for interface.") net.lanIp
    else .ok net.passiveBind
  else .ok net.wanIp

/-- The routes `format_routes` writes one after the other. -/
def formatted (net : NetState) : Except PyError (List Route) := do
  let addr ← net.bindAddr
  match net.nodeType with
  | .unknown =>
      .error (.exception "Unknown node_type for format_routes.")
  | .passive => .ok [⟨"passive".toList, addr, net.directPort, none⟩]
  | .simultaneous => do
      let rendezvous ← Except.ofOption .indexError
        net.rendezvousServers[net.randomIndex]?
      .ok [⟨"simultaneous".toList, addr, 0,
        some (rendezvous.addr, rendezvous.port)⟩]
  | .relay =>
      match (net.nodes.filter NetNode.isPassive).take 4 with
      | [] => do
          let rendezvous ← Except.ofOption .indexError
            net.rendezvousServers[0]?
          .ok [⟨"relay".toList, addr, 0,
            some (rendezvous.addr, rendezvous.port)⟩]
      | nodes =>
          .ok (nodes.map fun node =>
            ⟨"relay".toList, addr, 0, some (node.ip, node.port)⟩)

/-- `format_routes`. -/
def formatRoutes (net : NetState) : Except PyError Text :=
  net.formatted.map fun routes => routes.flatMap Route.text

/-- Some route is written, and every one names the address the node is bound
to. -/
theorem formatted_spec
    {net : NetState}
    {routes : List Route}
    (formatted : net.formatted = .ok routes) :
    routes ≠ [] ∧ ∀ route ∈ routes, net.bindAddr = .ok route.addr := by
  rw [NetState.formatted, Except.bind_eq_ok_iff] at formatted
  obtain ⟨addr, bound, formatted⟩ := formatted
  rw [bound]
  cases kind : net.nodeType with
  | unknown =>
      rw [kind] at formatted
      cases formatted
  | passive =>
      rw [kind] at formatted
      obtain rfl := Except.ok.inj formatted
      simp
  | simultaneous =>
      rw [kind, Except.bind_eq_ok_iff] at formatted
      obtain ⟨rendezvous, -, formatted⟩ := formatted
      obtain rfl := Except.ok.inj formatted
      simp
  | relay =>
      rw [kind] at formatted
      dsimp only at formatted
      split at formatted
      next =>
        rw [Except.bind_eq_ok_iff] at formatted
        obtain ⟨rendezvous, -, formatted⟩ := formatted
        obtain rfl := Except.ok.inj formatted
        simp
      next some_node =>
        obtain rfl := Except.ok.inj formatted
        refine ⟨fun none => some_node (List.map_eq_nil_iff.mp none), ?_⟩
        intro route member
        obtain ⟨node, -, rfl⟩ := List.mem_map.mp member
        rfl

end NetState

/-! ## The messages -/

namespace OpenOrderFields

/-- The message `new_open_order` signs, with the formatted routes. -/
def msg (fields : OpenOrderFields) (routes : Text) : Text :=
  Nat.toDigits 10 protocolVersion ++ ' ' :: Nat.toDigits 10 fields.ntp ++
    " open_order ".toList ++ fields.action.text.toList ++
    ' ' :: fields.pair.text ++ ' ' :: fields.amount.str.toList ++
    ' ' :: fields.ppc.str.toList ++ routes ++
    ' ' :: fields.depositTxid.toList ++ ' ' :: fields.address.toList ++
    ' ' :: fields.pubKey1.toList ++ ' ' :: fields.pubKey2.toList ++
    ' ' :: fields.serverPubKey.toList

end OpenOrderFields

namespace MatchOrderFields

/-- The message `new_match_order` signs, with the rates and the formatted
routes. -/
def msg
    (fields : MatchOrderFields)
    (baseUsdWorth quoteUsdWorth routes : Text) : Text :=
  Nat.toDigits 10 protocolVersion ++ ' ' :: Nat.toDigits 10 fields.ntp ++
    " match_order ".toList ++ fields.orderHash.toList ++
    ' ' :: fields.matchHash.toList ++ ' ' :: fields.action.text.toList ++
    ' ' :: fields.pair.text ++ ' ' :: fields.amount.str.toList ++
    ' ' :: fields.ppc.str.toList ++
    ' ' :: baseUsdWorth ++ ':' :: quoteUsdWorth ++ routes ++
    ' ' :: fields.depositTxid.toList ++
    fields.inputs.flatMap (fun vout =>
      ' ' :: '{' :: Nat.toDigits 10 vout ++ ['}']) ++
    ' ' :: fields.address.toList ++ ' ' :: fields.pubKey1.toList ++
    ' ' :: fields.pubKey2.toList ++ ' ' :: fields.serverPubKey.toList

end MatchOrderFields

/-- What stands behind a signed message: the signatures and the nonce. -/
structure Proofs where
  sig1 : Text
  sig2 : Text
  nonce : Nat

def Proofs.wire (proofs : Proofs) (msg : Text) : Text :=
  msg ++ ' ' :: proofs.sig1 ++ ' ' :: proofs.sig2 ++
    ' ' :: Nat.toDigits 10 proofs.nonce

namespace RoutePattern

def alphanumeric (least : Nat) (most : Option Nat) : Pattern Char :=
  .many least most (.one Char.isAlphanum)

/-- `[a-z@]{1,56}`. -/
def currency : Pattern Char :=
  .many 1 (some 56) (.one fun char => char.isLower || char == '@')

/-- `[0-9]{1,19}(?:[.][0-9]{1,16})?`. -/
def amount : Pattern Char :=
  .sequence [digits 1 (some 19), .many 0 (some 1)
    (.sequence [.one (· = '.'), digits 1 (some 16)])]

/-- `(buy|sell) ([a-z@]{1,56})/([a-z@]{1,56})` and two amounts. -/
def trade : List (Pattern Char) :=
  [.group (.either (.literal "buy".toList) (.literal "sell".toList)), space,
    .group currency, .one (· = '/'), .group currency, space, .group amount,
    space, .group amount]

/-- The routes of a message, with the pattern for the name of a server. -/
def routes (server : Pattern Char) : Pattern Char :=
  .many 1 none (.sequence [.many 0 (some 1) (.one (· = ',')), .one (· = '['),
    kind, space, dotted (some 3), space, digits 1 (some 5),
    .many 0 (some 1) (.sequence [space, server, space, digits 1 (some 5)]),
    .one (· = ']')])

/-- ` ([0-9a-zA-Z]{1,40})`, five times ` ([^\s]{1,256})` and
` ([0-9]{1,100})$`. -/
def keys : List (Pattern Char) :=
  [space, .group (alphanumeric 1 (some 40))] ++
    (List.replicate 5 [space, .group (solid 1 (some 256))]).flatten ++
    [space, .group (digits 1 (some 100)), .atEnd endOfText]

/-- The pattern of `parse_open_order`. -/
def openOrder : Pattern Char :=
  .sequence ([.group (.literal "open_order".toList), space] ++ trade ++
    [space, .group (routes (solid 1 (some 255))), space,
      .group (alphanumeric 1 none)] ++ keys)

/-- The pattern of `parse_match_order`. -/
def matchOrder : Pattern Char :=
  .sequence ([.group (.literal "match_order".toList), space,
      .group (alphanumeric 1 none), space, .group (alphanumeric 1 none),
      space] ++ trade ++
    [space, .group amount, .one (· = ':'), .group amount, space,
      .group (routes (dotted (some 3))), space, .group (alphanumeric 1 none),
      space, .group (.many 1 none (.sequence [
        .many 0 (some 1) (.one isSpace), .one (· = '{'), digits 1 none,
        .one (· = '}')]))] ++ keys)

end RoutePattern

/-! ## What the receiver recovers -/

/-- The texts of a trade in a message read as the trade of the fields. -/
def ReadsTrade
    (fields : OpenOrderFields)
    (action base quote amount ppc : Text) : Prop :=
  action = fields.action.text.toList ∧ base = fields.pair.base.toList ∧
    quote = fields.pair.quote.toList ∧
    C.parse amount = .ok fields.amount.printed ∧
    C.parse ppc = .ok fields.ppc.printed

/-- The texts of the keys and the address are those of the fields. -/
def ReadsKeys
    (fields : OpenOrderFields)
    (depositTxid address pubKey1 pubKey2 serverPubKey : Text) : Prop :=
  depositTxid = fields.depositTxid.toList ∧
    address = fields.address.toList ∧ pubKey1 = fields.pubKey1.toList ∧
    pubKey2 = fields.pubKey2.toList ∧ serverPubKey = fields.serverPubKey.toList

/-- An open order is matched, and all its routes and fields come back. -/
def OpenOrderRecovered
    (context : RouteContext)
    (fields : OpenOrderFields)
    (formatted : List Route)
    (proofs : Proofs) : Prop :=
  ∃ rpc action base quote amount ppc routes depositTxid address pubKey1
      pubKey2 serverPubKey sig1 sig2 nonce,
    (RoutePattern.openOrder.search (proofs.wire
      (fields.msg (formatted.flatMap Route.text)))).map Match.groups =
        some [rpc, action, base, quote, amount, ppc, routes, depositTxid,
          address, pubKey1, pubKey2, serverPubKey, sig1, sig2, nonce] ∧
      ReadsTrade fields action base quote amount ppc ∧
      parseRoutes context routes = formatted.map Route.groups ∧
      ReadsKeys fields depositTxid address pubKey1 pubKey2 serverPubKey

/-- A match is matched, and all its routes and fields come back. -/
def MatchOrderRecovered
    (context : RouteContext)
    (fields : MatchOrderFields)
    (baseUsdWorth quoteUsdWorth : Text)
    (formatted : List Route)
    (proofs : Proofs) : Prop :=
  ∃ rpc orderHash matchHash action base quote amount ppc baseWorth quoteWorth
      routes depositTxid inputs address pubKey1 pubKey2 serverPubKey sig1 sig2
      nonce,
    (RoutePattern.matchOrder.search (proofs.wire
      (fields.msg baseUsdWorth quoteUsdWorth
        (formatted.flatMap Route.text)))).map Match.groups =
        some [rpc, orderHash, matchHash, action, base, quote, amount, ppc,
          baseWorth, quoteWorth, routes, depositTxid, inputs, address, pubKey1,
          pubKey2, serverPubKey, sig1, sig2, nonce] ∧
      orderHash = fields.orderHash.toList ∧
      matchHash = fields.matchHash.toList ∧
      ReadsTrade fields.toOpenOrderFields action base quote amount ppc ∧
      parseRoutes context routes = formatted.map Route.groups ∧
      ReadsKeys fields.toOpenOrderFields depositTxid address pubKey1 pubKey2
        serverPubKey

/-- No routes text gives the routes of a node with a valid address back. -/
theorem parseRoutes_ne_groups
    {context : RouteContext}
    (production : context.debug = false)
    {net : NetState}
    {formatted : List Route}
    (formats : net.formatted = .ok formatted)
    {addr : Text}
    {address : IPv4Address}
    (bound : net.bindAddr = .ok addr)
    (valid : IPv4Address.parse addr = some address)
    (routes : Text) :
    parseRoutes context routes ≠ formatted.map Route.groups := by
  intro same
  obtain ⟨nonempty, own⟩ := NetState.formatted_spec formats
  obtain ⟨route, member⟩ := List.exists_mem_of_ne_nil _ nonempty
  have kept : route.groups ∈ parseRoutes context routes := by
    rw [same]
    exact List.mem_map_of_mem member
  obtain ⟨kind, ipAddr, port, next, nextPort, groups, invalid⟩ :=
    parse_of_mem_parseRoutes production kept
  simp only [Route.groups, List.cons.injEq] at groups
  obtain ⟨-, rfl, -⟩ := groups
  obtain rfl := Except.ok.inj (bound.symm.trans (own route member))
  rw [valid] at invalid
  cases invalid

/-- Outside of debug mode the routes of a node whose address is valid are
never recovered, neither from an order nor from a match. -/
theorem orders_not_recovered
    (context : RouteContext)
    (production : context.debug = false)
    (net : NetState)
    (formatted : List Route)
    (formats : net.formatted = .ok formatted)
    (addr : Text)
    (address : IPv4Address)
    (bound : net.bindAddr = .ok addr)
    (valid : IPv4Address.parse addr = some address)
    (order : OpenOrderFields)
    (matched : MatchOrderFields)
    (baseUsdWorth quoteUsdWorth : Text)
    (proofs : Proofs) :
    ¬OpenOrderRecovered context order formatted proofs ∧
      ¬MatchOrderRecovered context matched baseUsdWorth quoteUsdWorth
        formatted proofs := by
  have unread (routes : Text) :=
    parseRoutes_ne_groups production formats bound valid routes
  constructor
  · rintro ⟨_, _, _, _, _, _, routes, _, _, _, _, _, _, _, _, -, -, same, -⟩
    exact unread routes same
  · rintro ⟨_, _, _, _, _, _, _, _, _, _, routes, _, _, _, _, _, _, _, _, _,
      -, -, -, -, same, -⟩
    exact unread routes same

namespace Sample

/-- A passive node with a public address. -/
def publicNet : NetState where
  localOnly := false
  passiveBind := "0.0.0.0".toList
  lanIp := none
  wanIp := "8.8.8.8".toList
  nodeType := .passive
  directPort := 50500
  rendezvousServers := []
  randomIndex := 0
  nodes := []

def publicRoute : Route :=
  ⟨"passive".toList, "8.8.8.8".toList, 50500, none⟩

def production : RouteContext where
  debug := false
  resolves := fun _ => true

/-- A sale of one coin at the price of one. -/
def postedOrder : OpenOrderFields where
  ntp := 0
  action := .sell
  pair := ⟨"bitcoin", "litecoin"⟩
  amount := C.ofVal (10 ^ 16) C.oneCoin_bounded
  ppc := C.ofVal (10 ^ 16) C.oneCoin_bounded
  routes := []
  depositTxid := "d"
  address := "a"
  pubKey1 := "k"
  pubKey2 := "l"
  serverPubKey := "s"

def postedMatch : MatchOrderFields where
  toOpenOrderFields := postedOrder
  orderHash := "o"
  matchHash := "0"
  inputs := [0]

def proofs : Proofs where
  sig1 := ['x']
  sig2 := ['y']
  nonce := 0

end Sample

/-- The order and the match of the passive node are not recovered. -/
theorem publicNet_not_recovered :
    ¬OpenOrderRecovered Sample.production Sample.postedOrder
        [Sample.publicRoute] Sample.proofs ∧
      ¬MatchOrderRecovered Sample.production Sample.postedMatch ['1'] ['1']
        [Sample.publicRoute] Sample.proofs :=
  orders_not_recovered Sample.production rfl Sample.publicNet
    [Sample.publicRoute] rfl "8.8.8.8".toList ⟨8, 8, 8, 8⟩ rfl
    (by decide +kernel) Sample.postedOrder Sample.postedMatch ['1'] ['1']
    Sample.proofs

/-- The only route of the passive node is dropped; debug mode keeps it. -/
theorem publicRoute_dropped :
    Sample.publicNet.formatted = .ok [Sample.publicRoute] ∧
      (IPv4Address.parse Sample.publicRoute.addr).map
        IPv4Address.isPrivate = some false ∧
      parseRoutes Sample.production (Sample.publicRoute.text.drop 1) = [] ∧
      parseRoutes { Sample.production with debug := true }
        (Sample.publicRoute.text.drop 1) = [Sample.publicRoute.groups] ∧
      ¬OpenOrderRecovered Sample.production Sample.postedOrder
        [Sample.publicRoute] Sample.proofs := by
  refine ⟨rfl, by decide +kernel, by decide +kernel, by decide +kernel, ?_⟩
  have valid : IPv4Address.parse "8.8.8.8".toList = some ⟨8, 8, 8, 8⟩ := by
    decide +kernel
  rintro ⟨_, _, _, _, _, _, routes, _, _, _, _, _, _, _, _, -, -, same, -⟩
  exact @parseRoutes_ne_groups Sample.production rfl Sample.publicNet _ rfl _
    _ rfl valid routes same

end Coinbend
