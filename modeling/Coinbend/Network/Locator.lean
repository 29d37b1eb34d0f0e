import Coinbend.Library.InetText
import Coinbend.Library.Outcome
import Coinbend.Rendezvous.DeltaTest
import Coinbend.Transaction.Base58Check

/-!
# Node locators

`UNL.construct` of `unl.py` packs what `Net.start` found out about a node, with
one letter for each of its types, and `UNL.deconstruct` unpacks it.  The tables
of letters miss types that a node can have.
-/

namespace Coinbend

def NatType.text : NatType → String
  | .unknown => "unknown"
  | .random => "random"
  | .preserving => "preserving"
  | .delta => "delta"
  | .reuse => "reuse"

namespace Unl

/-- How a node takes connections. -/
inductive NodeType
  | unknown
  | passive
  | simultaneous
  | active
  deriving DecidableEq

def NodeType.text : NodeType → String
  | .unknown => "unknown"
  | .passive => "passive"
  | .simultaneous => "simultaneous"
  | .active => "active"

/-- How the port of a node is forwarded. -/
inductive ForwardingType
  | manual
  | mapped
  | upnp
  | natPmp
  deriving DecidableEq

def ForwardingType.text : ForwardingType → String
  | .manual => "manual"
  | .mapped => "mapped"
  | .upnp => "UPnP"
  | .natPmp => "NATPMP"

/-- The fields of a `Net` that its start and its locator read. -/
structure Net where
  nodeType : NodeType
  natType : NatType
  forwardingType : ForwardingType
  passivePort : ℕ
  passiveBind : String
  enableForwarding : Bool

/-! ## The start of a node -/

/-- What the network answers while a node starts. -/
structure Surroundings where
  /-- `rendezvous.determine_nat()`. -/
  determineNat : Except PyError (Option NatType)
  startPassiveServer : Except PyError Unit
  /-- `get_lan_ip`. -/
  lanIp : Option String
  /-- `is_port_forwarded` before anything was forwarded. -/
  forwarded : Except PyError Bool
  /-- Forwarding with UPnP and the check after it. -/
  upnp : Except PyError Bool
  /-- Forwarding with NAT-PMP and the check after it. -/
  natPmp : Except PyError Bool

/-- The type of a node without a forwarded port. -/
def failSafe (net : Net) : NodeType :=
  if net.natType ≠ .unknown then .simultaneous else .active

/-- The forwarding type after both protocols were tried. -/
def forwardPort (around : Surroundings) (net : Net) : Net :=
  match around.upnp with
  | .ok true => { net with forwardingType := .upnp }
  | .ok false => net
  | .error _ =>
      match around.natPmp with
      | .ok true => { net with forwardingType := .natPmp }
      | _ => net

def determineNode
    (around : Surroundings)
    (net : Net) : Outcome Net PyError NodeType :=
  if net.nodeType = .simultaneous ∧ net.natType ≠ .unknown then
    Outcome.pure net .simultaneous
  else if around.lanIp ≠ none ∧ net.enableForwarding then
    Outcome.attempt net around.forwarded fun forwarded =>
      if forwarded then
        Outcome.pure { net with forwardingType := .mapped } .passive
      else
        let net := forwardPort around net
        if net.forwardingType ≠ .manual then Outcome.pure net .passive
        else Outcome.pure net (failSafe net)
  else Outcome.pure net (failSafe net)

/-- The net after its address translation was determined. -/
def setNatType (around : Surroundings) (net : Net) : Net :=
  if net.natType = .unknown then
    match around.determineNat with
    | .ok (some natType) => { net with natType := natType }
    | _ => net
  else net

/-- `Net.start`. -/
def start (around : Surroundings) (net : Net) : Outcome Net PyError Unit :=
  let net := setNatType around net
  Outcome.attempt net around.startPassiveServer fun _ =>
    if net.nodeType = .unknown then
      Outcome.bind (determineNode around net) fun net nodeType =>
        Outcome.pure { net with nodeType := nodeType } ()
    else Outcome.pure net ()

theorem failSafe_ne_unknown (net : Net) : failSafe net ≠ .unknown := by
  unfold failSafe
  split <;> decide

/-- A determined type is a type. -/
theorem determineNode_ne_unknown (around : Surroundings) (net : Net) :
    (determineNode around net).result ≠ .ok .unknown := by
  unfold determineNode
  split
  · simp
  · split
    · apply Outcome.attempt_result (motive := (· ≠ .ok NodeType.unknown))
      · simp
      · intro forwarded _
        split
        · simp
        · simp only []
          split
          · simp
          · simpa using failSafe_ne_unknown _
    · simpa using failSafe_ne_unknown net

/-- A started node has a type. -/
theorem nodeType_ne_unknown_of_started
    {around : Surroundings}
    {initial net : Net}
    (started : start around initial = Outcome.pure net ()) :
    net.nodeType ≠ .unknown := by
  unfold start at started
  cases server : around.startPassiveServer with
  | error error =>
      rw [server] at started
      cases started
  | ok opened =>
      simp only [server, Outcome.attempt_ok] at started
      split at started
      · unfold Outcome.bind at started
        split at started
        next nodeType determined =>
          cases started
          rintro rfl
          exact determineNode_ne_unknown around _ determined
        next => cases started
      next known =>
        cases started
        exact known

/-! ## Packing -/

/-- A letter of each type, `node_type[0]`. -/
def firstLetter (text : String) : Char :=
  text.toList.headD ' '

/-- `nat_type[-1]`. -/
def lastLetter (text : String) : Char :=
  text.toList.getLastD ' '

def nodeTypeLookup : List (Char × NodeType) :=
  [('p', .passive), ('a', .active), ('s', .simultaneous)]

def natTypeLookup : List (Char × NatType) :=
  [('m', .random), ('g', .preserving), ('e', .reuse)]

def forwardingTypeLookup : List (Char × ForwardingType) :=
  [('m', .mapped), ('U', .upnp), ('N', .natPmp)]

/-- `ip2int`; `none` when it raises. -/
def ip2int (text : String) : Option ℕ :=
  (InetText.inetAton text).map fun address => Packing.number address.reverse

def int2ip (number : ℕ) : String :=
  InetText.inetNtoa (Packing.bytes 4 number).reverse

/-- The fields of a locator. -/
structure Fields where
  version : ℕ
  nodeType : NodeType
  natType : NatType
  forwardingType : ForwardingType
  passivePort : ℕ
  wanIp : String
  lanIp : String
  timestamp : ℕ
  nonce : ℕ

/-- What `construct` reads beside the node. -/
structure Reading where
  wanIp : String
  /-- `get_lan_ip`. -/
  lanIp : Option String
  /-- `int(time.time())`. -/
  time : ℕ
  /-- The random number. -/
  nonce : ℕ

/-- The address inside the local network. -/
def Net.lanIp (net : Net) (reading : Reading) : Option String :=
  if net.passiveBind ∈ ["0.0.0.0", "127.0.0.1", reading.wanIp, "localhost"] then
    reading.lanIp
  else some net.passiveBind

/-- The fields a locator is made of. -/
def Net.fields (net : Net) (reading : Reading) (lanIp : String) : Fields where
  version := 1
  nodeType := net.nodeType
  natType := net.natType
  forwardingType := net.forwardingType
  passivePort := net.passivePort
  wanIp := reading.wanIp
  lanIp := lanIp
  timestamp := reading.time
  nonce := reading.nonce

/-- The widths of `"<BBBBHIIQI"`. -/
def format : List ℕ := [1, 1, 1, 1, 2, 4, 4, 8, 4]

/-- `UNL.construct`; `none` when it raises. -/
def construct
    (lib : Base58Lib)
    (reading : Reading)
    (net : Net) : Option String := do
  let lanIp ← net.lanIp reading
  let wanIp ← ip2int reading.wanIp
  let lanIp ← ip2int lanIp
  let unl ← Packing.pack (format.zip [1,
    (firstLetter net.nodeType.text).toNat,
    (lastLetter net.natType.text).toNat,
    (firstLetter net.forwardingType.text).toNat,
    net.passivePort, wanIp, lanIp, reading.time, reading.nonce])
  return lib.base58encode (unl ++ lib.checksum unl)

/-- The fields of some unpacked numbers; `none` for an unknown letter. -/
def readFields : List ℕ → Option Fields
  | [version, nodeType, natType, forwardingType, passivePort, wanIp, lanIp,
      timestamp, nonce] => do
      let nodeType ← nodeTypeLookup.lookup (Char.ofNat nodeType)
      let natType ← natTypeLookup.lookup (Char.ofNat natType)
      let forwardingType ←
        forwardingTypeLookup.lookup (Char.ofNat forwardingType)
      return ⟨version, nodeType, natType, forwardingType, passivePort,
        int2ip wanIp, int2ip lanIp, timestamp, nonce⟩
  | _ => none

/-- `UNL.deconstruct`; `none` for `None`. -/
def deconstruct (lib : Base58Lib) (text : String) : Option Fields := do
  let raw ← lib.base58decode text
  if lastFour raw ≠ lib.checksum (dropLastFour raw) then none
  else (Packing.unpack format (dropLastFour raw)).bind readFields

/-! ## The round trip -/

section

variable
  {net : Net}
  {reading : Reading}
  {lanIp : String}

/-- The values of a locator are in range. -/
structure InRange (net : Net) (reading : Reading) (lanIp : String) : Prop where
  port_lt : net.passivePort < 2 ^ 16
  time_lt : reading.time < 2 ^ 64
  nonce_lt : reading.nonce < 2 ^ 32
  lanIp_eq : net.lanIp reading = some lanIp
  wanIp_quad : InetText.DottedQuad reading.wanIp
  lanIp_quad : InetText.DottedQuad lanIp

/-- An address is packed and unpacked. -/
theorem exists_ip2int
    {text : String}
    (quad : InetText.DottedQuad text) :
    ∃ number, ip2int text = some number ∧ number < 2 ^ 32 ∧
      int2ip number = text := by
  obtain ⟨address, length, rfl⟩ := quad
  have reverse_length : address.reverse.length = 4 := by
    rw [List.length_reverse, length]
  refine ⟨Packing.number address.reverse, ?_, ?_, ?_⟩
  · rw [ip2int, InetText.inetAton_inetNtoa length, Option.map_some]
  · have small := Packing.number_lt address.reverse
    rwa [reverse_length] at small
  · have bytes := Packing.bytes_number address.reverse
    rw [reverse_length] at bytes
    rw [int2ip, bytes, List.reverse_reverse]

/-- The types that the letters of some types stand for. -/
def lookUp (fields : Fields) : Option Fields := do
  let nodeType ← nodeTypeLookup.lookup (firstLetter fields.nodeType.text)
  let natType ← natTypeLookup.lookup (lastLetter fields.natType.text)
  let forwardingType ←
    forwardingTypeLookup.lookup (firstLetter fields.forwardingType.text)
  return { fields with
    nodeType := nodeType
    natType := natType
    forwardingType := forwardingType }

theorem firstLetter_nodeType_lt (nodeType : NodeType) :
    (firstLetter nodeType.text).toNat < 256 := by
  cases nodeType <;> decide

theorem lastLetter_natType_lt (natType : NatType) :
    (lastLetter natType.text).toNat < 256 := by
  cases natType <;> decide

theorem firstLetter_forwardingType_lt (forwardingType : ForwardingType) :
    (firstLetter forwardingType.text).toNat < 256 := by
  cases forwardingType <;> decide

/-- A locator is taken apart to what its letters stand for. -/
theorem deconstruct_construct
    {lib : Base58Lib}
    (lawful : lib.Lawful)
    (inRange : InRange net reading lanIp) :
    ∃ text, construct lib reading net = some text ∧
      deconstruct lib text = lookUp (net.fields reading lanIp) := by
  obtain ⟨wanNumber, wan_read, wan_lt, wan_back⟩ :=
    exists_ip2int inRange.wanIp_quad
  obtain ⟨lanNumber, lan_read, lan_lt, lan_back⟩ :=
    exists_ip2int inRange.lanIp_quad
  let values := format.zip [1,
    (firstLetter net.nodeType.text).toNat,
    (lastLetter net.natType.text).toNat,
    (firstLetter net.forwardingType.text).toNat,
    net.passivePort, wanNumber, lanNumber, reading.time, reading.nonce]
  have fits : ∀ field ∈ values, field.2 < 256 ^ field.1 := by
    have node := firstLetter_nodeType_lt net.nodeType
    have nat := lastLetter_natType_lt net.natType
    have forwarding := firstLetter_forwardingType_lt net.forwardingType
    have port := inRange.port_lt
    have time := inRange.time_lt
    have nonce := inRange.nonce_lt
    simp only [values, format, List.zip_cons_cons, List.zip_nil_right,
      List.forall_mem_cons]
    norm_num
    omega
  have packed := Packing.pack_of_fits fits
  have unpacked := Packing.unpack_flatMap_bytes fits
  generalize values.flatMap (fun field => Packing.bytes field.1 field.2) = unl
    at packed unpacked
  refine ⟨lib.base58encode (unl ++ lib.checksum unl), ?_, ?_⟩
  · rw [construct, inRange.lanIp_eq, Option.bind_eq_bind, Option.bind_some,
      wan_read, Option.bind_eq_bind, Option.bind_some, lan_read,
      Option.bind_eq_bind, Option.bind_some, packed]
    rfl
  · have sealed_text := lawful.length_checksum unl
    have formatted : values.map Prod.fst = format := rfl
    rw [formatted] at unpacked
    rw [deconstruct, lawful.decode_encode, Option.bind_eq_bind,
      Option.bind_some, dropLastFour_append unl sealed_text,
      lastFour_append unl sealed_text, if_neg (not_not_intro rfl), unpacked,
      Option.bind_some]
    simp only [values, format, List.zip_cons_cons, List.zip_nil_right,
      List.map_cons, List.map_nil, readFields, Char.ofNat_toNat, wan_back,
      lan_back]
    rfl

theorem lookup_nodeType
    {nodeType : NodeType}
    (known : nodeType ≠ .unknown) :
    nodeTypeLookup.lookup (firstLetter nodeType.text) = some nodeType := by
  cases nodeType with
  | unknown => exact absurd rfl known
  | passive => rfl
  | simultaneous => rfl
  | active => rfl

/-- The letters of two types of address translation are in no table. -/
theorem lookup_natType (natType : NatType) :
    natTypeLookup.lookup (lastLetter natType.text) =
      if natType = .unknown ∨ natType = .delta then none else some natType := by
  cases natType <;> rfl

/-- A port forwarded by hand has the letter of a mapped one. -/
theorem lookup_forwardingType (forwardingType : ForwardingType) :
    forwardingTypeLookup.lookup (firstLetter forwardingType.text) =
      some (if forwardingType = .manual then .mapped else forwardingType) := by
  cases forwardingType <;> rfl

theorem lookUp_eq_some_iff
    {fields : Fields}
    (known : fields.nodeType ≠ .unknown) :
    lookUp fields = some fields ↔
      (fields.natType ≠ .unknown ∧ fields.natType ≠ .delta) ∧
        fields.forwardingType ≠ .manual := by
  rw [lookUp, lookup_nodeType known, lookup_natType, lookup_forwardingType]
  by_cases missing : fields.natType = .unknown ∨ fields.natType = .delta
  · rw [if_pos missing]
    constructor
    · intro impossible
      cases impossible
    · rintro ⟨⟨translated, stepless⟩, -⟩
      exact absurd missing (not_or.mpr ⟨translated, stepless⟩)
  · rw [if_neg missing]
    simp only [Option.bind_eq_bind, Option.bind_some, Option.pure_def,
      Option.some_inj]
    by_cases manual : fields.forwardingType = .manual
    · rw [if_pos manual]
      constructor
      · intro same
        have mapped := congrArg Fields.forwardingType same
        rw [manual] at mapped
        cases mapped
      · rintro ⟨-, forwarded⟩
        exact absurd manual forwarded
    · rw [if_neg manual]
      exact ⟨fun _ => ⟨not_or.mp missing, manual⟩, fun _ => rfl⟩

/-- The text is written in base 58 and ends with a checksum. -/
def ChecksumMatches (lib : Base58Lib) (text : String) : Prop :=
  ∃ raw, lib.base58decode text = some raw ∧ lib.Sealed raw

theorem deconstruct_of_not_matches
    {lib : Base58Lib}
    {text : String}
    (differs : ¬ChecksumMatches lib text) :
    deconstruct lib text = none := by
  cases decoded : lib.base58decode text with
  | none =>
      rw [deconstruct, decoded]
      rfl
  | some raw =>
      have unsealed : lastFour raw ≠ lib.checksum (dropLastFour raw) :=
        fun same => differs ⟨raw, decoded, same⟩
      rw [deconstruct, decoded, Option.bind_eq_bind, Option.bind_some,
        if_pos unsealed]

/-- A locator of a started node is taken apart to the fields it was made of
exactly when the type of address translation has a letter of its own and the
port was not forwarded by hand; a text with another checksum is refused. -/
theorem locator_roundTrip_iff
    {lib : Base58Lib}
    (lawful : lib.Lawful)
    {around : Surroundings}
    {initial net : Net}
    (started : start around initial = Outcome.pure net ())
    {reading : Reading}
    {lanIp : String}
    (inRange : InRange net reading lanIp) :
    ((∃ text, construct lib reading net = some text ∧
        deconstruct lib text = some (net.fields reading lanIp)) ∧
      ∀ text, ¬ChecksumMatches lib text → deconstruct lib text = none) ↔
    (net.natType ≠ .unknown ∧ net.natType ≠ .delta) ∧
      net.forwardingType ≠ .manual := by
  obtain ⟨text, constructed, deconstructed⟩ :=
    deconstruct_construct lawful inRange
  have known := nodeType_ne_unknown_of_started started
  have fits : lookUp (net.fields reading lanIp) =
        some (net.fields reading lanIp) ↔
      (net.natType ≠ .unknown ∧ net.natType ≠ .delta) ∧
        net.forwardingType ≠ .manual :=
    lookUp_eq_some_iff known
  rw [← fits]
  constructor
  · rintro ⟨⟨other, other_constructed, back⟩, -⟩
    rw [constructed, Option.some_inj] at other_constructed
    rw [← deconstructed, other_constructed, back]
  · intro back
    exact ⟨⟨text, constructed, deconstructed.trans back⟩,
      fun _ => deconstruct_of_not_matches⟩

end

namespace Sample

/-- A node before it starts. -/
def freshNet : Net where
  nodeType := .unknown
  natType := .unknown
  forwardingType := .manual
  passivePort := 50500
  passiveBind := "127.0.0.1"
  enableForwarding := true

/-- A network with an open port. -/
def openNetwork (natType : NatType) : Surroundings where
  determineNat := .ok (some natType)
  startPassiveServer := .ok ()
  lanIp := some "192.168.1.2"
  forwarded := .ok true
  upnp := .ok false
  natPmp := .ok false

/-- A network that forwards no port. -/
def closedNetwork : Surroundings :=
  { openNetwork .random with forwarded := .ok false }

def openNode (natType : NatType) : Net :=
  { freshNet with
    nodeType := .passive, natType := natType, forwardingType := .mapped }

def closedNode : Net :=
  { freshNet with nodeType := .simultaneous, natType := .random }

def reading : Reading where
  wanIp := "93.184.216.34"
  lanIp := some "192.168.1.2"
  time := 1420070400
  nonce := 305419896

/-- The digests of the locators of a preserving node, of a node with a step
and of a node whose port is not forwarded, each with the digest of its
digest. -/
def digests : List (Bytes × Bytes) :=
  [([1, 112, 103, 109, 68, 197, 34, 216, 184, 93, 2, 1, 168, 192, 0, 142, 164,
     84, 0, 0, 0, 0, 120, 86, 52, 18],
    [227, 21, 47, 236, 136, 114, 243, 163, 216, 26, 133, 52, 249, 100, 30,
     179, 9, 224, 231, 165, 67, 214, 8, 199, 217, 156, 157, 232, 230, 223,
     135, 162]),
   ([227, 21, 47, 236, 136, 114, 243, 163, 216, 26, 133, 52, 249, 100, 30,
     179, 9, 224, 231, 165, 67, 214, 8, 199, 217, 156, 157, 232, 230, 223,
     135, 162],
    [105, 173, 132, 102, 67, 239, 180, 94, 231, 68, 149, 70, 154, 201, 171,
     62, 103, 26, 135, 210, 105, 144, 182, 98, 182, 161, 29, 72, 51, 227, 27,
     32]),
   ([1, 112, 97, 109, 68, 197, 34, 216, 184, 93, 2, 1, 168, 192, 0, 142, 164,
     84, 0, 0, 0, 0, 120, 86, 52, 18],
    [123, 13, 134, 254, 8, 19, 224, 123, 149, 105, 6, 228, 229, 152, 144, 160,
     68, 46, 219, 225, 243, 146, 141, 157, 103, 57, 79, 60, 110, 1, 147, 106]),
   ([123, 13, 134, 254, 8, 19, 224, 123, 149, 105, 6, 228, 229, 152, 144, 160,
     68, 46, 219, 225, 243, 146, 141, 157, 103, 57, 79, 60, 110, 1, 147, 106],
    [212, 43, 147, 228, 240, 184, 171, 94, 131, 39, 37, 227, 44, 60, 237, 205,
     151, 218, 5, 98, 161, 195, 183, 224, 189, 217, 255, 153, 35, 163, 209,
     238]),
   ([1, 115, 109, 109, 68, 197, 34, 216, 184, 93, 2, 1, 168, 192, 0, 142, 164,
     84, 0, 0, 0, 0, 120, 86, 52, 18],
    [28, 205, 20, 93, 55, 240, 33, 60, 72, 230, 23, 195, 160, 99, 107, 177,
     214, 164, 128, 24, 130, 46, 217, 49, 241, 61, 186, 118, 40, 54, 95, 113]),
   ([28, 205, 20, 93, 55, 240, 33, 60, 72, 230, 23, 195, 160, 99, 107, 177,
     214, 164, 128, 24, 130, 46, 217, 49, 241, 61, 186, 118, 40, 54, 95, 113],
    [107, 99, 208, 71, 132, 172, 241, 38, 250, 125, 203, 165, 110, 76, 169,
     142, 44, 195, 241, 51, 31, 7, 3, 160, 220, 148, 206, 15, 10, 9, 95, 130])]

def lib : Base58Lib := Base58Lib.ofDigests digests

theorem lawful_lib : lib.Lawful :=
  Base58Lib.lawful_ofDigests (by decide)

theorem inRange_of_bind
    {net : Net}
    (port : net.passivePort = 50500)
    (bind : net.passiveBind = "127.0.0.1") :
    InRange net reading "192.168.1.2" where
  port_lt := by
    rw [port]
    decide
  time_lt := by decide
  nonce_lt := by decide
  lanIp_eq := by
    rw [Net.lanIp, bind]
    decide
  wanIp_quad := ⟨[93, 184, 216, 34], rfl, by decide +kernel⟩
  lanIp_quad := ⟨[192, 168, 1, 2], rfl, by decide +kernel⟩

end Sample

/-- The locator of a preserving node with an open port. -/
theorem locator_roundTrip_of_open :
    (∃ text, construct Sample.lib Sample.reading
        (Sample.openNode .preserving) = some text ∧
      deconstruct Sample.lib text =
        some ((Sample.openNode .preserving).fields
          Sample.reading "192.168.1.2")) ∧
    ∀ text, ¬ChecksumMatches Sample.lib text →
      deconstruct Sample.lib text = none := by
  have started : start (Sample.openNetwork .preserving) Sample.freshNet =
      Outcome.pure (Sample.openNode .preserving) () := rfl
  exact (locator_roundTrip_iff Sample.lawful_lib started
    (Sample.inRange_of_bind rfl rfl)).mpr (by decide)

/-- The locator of a node with a step is refused, and the locator of a node
whose port nobody forwarded says that it is mapped. -/
theorem locator_loses_types :
    start (Sample.openNetwork .delta) Sample.freshNet =
        Outcome.pure (Sample.openNode .delta) () ∧
      (∃ text, construct Sample.lib Sample.reading
          (Sample.openNode .delta) = some text ∧
        deconstruct Sample.lib text = none) ∧
      start Sample.closedNetwork Sample.freshNet =
        Outcome.pure Sample.closedNode () ∧
      ∃ text, construct Sample.lib Sample.reading
          Sample.closedNode = some text ∧
        (deconstruct Sample.lib text).map Fields.forwardingType =
          some .mapped := by
  have delta_range : InRange (Sample.openNode .delta) Sample.reading
      "192.168.1.2" := Sample.inRange_of_bind rfl rfl
  have closed_range : InRange Sample.closedNode Sample.reading
      "192.168.1.2" := Sample.inRange_of_bind rfl rfl
  obtain ⟨deltaText, delta_constructed, delta_deconstructed⟩ :=
    deconstruct_construct Sample.lawful_lib delta_range
  obtain ⟨closedText, closed_constructed, closed_deconstructed⟩ :=
    deconstruct_construct Sample.lawful_lib closed_range
  refine ⟨rfl, ⟨deltaText, delta_constructed, ?_⟩, rfl, closedText,
    closed_constructed, ?_⟩
  · rw [delta_deconstructed]
    rfl
  · rw [closed_deconstructed]
    rfl

end Unl

end Coinbend
