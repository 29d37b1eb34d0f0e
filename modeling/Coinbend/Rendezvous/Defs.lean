import Coinbend.Currency.Text
import Coinbend.Library.Dict
import Coinbend.Library.Outcome
import Coinbend.Library.Raising
import Coinbend.Library.Regex

/-!
# The rendezvous server

`RendezvousProtocol` and `RendezvousFactory` of `rendezvous_server.py`.  The
factory's tables are shared by one protocol object for every connection.  Every
handler catches what it raises and keeps the changes it made before.
-/

namespace Coinbend

open Regex

abbrev Host := String

/-- A protocol object, named by its connection. -/
abbrev ProtocolId := Nat

/-- An entry of `factory.nodes[...]`. -/
structure ListedNode where
  maxInbound : Text
  port : Text
  time : ℚ
  con : ProtocolId
  deriving DecidableEq

/-- An entry of `factory.candidates[...]`. -/
structure Candidate where
  ipAddr : Host
  time : ℚ
  predictions : List Text
  proto : Text
  con : ProtocolId
  propogated : Bool
  deriving DecidableEq

/-- The factory, with the protocol objects that are connected and the lines
sent by them. -/
structure RendezvousFactory where
  lastCleanup : ℚ
  candidates : Dict Host (List Candidate)
  passive : Dict Host ListedNode
  simultaneous : Dict Host ListedNode
  connected : List ProtocolId
  sent : List (ProtocolId × Text)
  deriving DecidableEq

/-- What the protocol objects run with. -/
structure RendezvousEnv where
  /-- `transport.getPeer()`. -/
  peer : ProtocolId → Host × Nat
  /-- `socket.inet_pton(socket.AF_INET, ...)` accepts the text. -/
  isValidIpv4 : Text → Bool
  /-- `int(float(...))`; `none` when the number is too large. -/
  readFloat : Text → Option Int

/-- The readings of `time.time()` in one handler, in seconds. -/
abbrev Readings := Nat → ℚ

/-- The readings after the first one. -/
def Readings.later (clock : Readings) : Readings :=
  fun reading => clock (reading + 1)

/-! ## Constants of `__init__` -/

def challegeTimeout : ℚ := 60 * 2

def nodeLifetime : ℚ := 60 * 60 * 12

def cleanupInterval : ℚ := 5 * 60

def maxCandidates : Nat := 100

/-- `self.challenge_timeout`: the attribute that is set is
`challege_timeout`. -/
def challengeTimeout : Except PyError ℚ :=
  .error .attributeError

/-! ## Dictionaries -/

section
variable {κ α : Type} [DecidableEq κ]

/-- `dict[key]`. -/
def lookupKey (dict : Dict κ α) (key : κ) : Except PyError α :=
  Except.ofOption .keyError (dict.get? key)

/-- `del dict[key]`. -/
def deleteKey (dict : Dict κ α) (key : κ) : Except PyError (Dict κ α) :=
  if dict.contains key then .ok (dict.erase key) else .error .keyError

end

/-- `int(x)` of a number. -/
def truncated (x : ℚ) : Int :=
  if 0 ≤ x then ⌊x⌋ else ⌈x⌉

namespace RendezvousFactory

variable (server : RendezvousFactory)

/-- `send_line`: only while connected, and only ASCII. -/
def sendLine (con : ProtocolId) (msg : Text) : RendezvousFactory :=
  if con ∈ server.connected ∧ msg.all fun letter => letter.toNat < 128 then
    { server with sent := server.sent ++ [(con, msg)] }
  else server

/-! ## Candidates -/

/-- `cleanup_candidates`. -/
def cleanupCandidates (clock : Readings) (nodeIp : Host) : RendezvousFactory :=
  match server.candidates.get? nodeIp with
  | none => server
  | some listed =>
      let old := (listed.zipIdx.filter fun entry =>
        challegeTimeout < truncated (clock entry.2 - entry.1.time)).map Prod.fst
      { server with
        candidates := server.candidates.set nodeIp (old.foldl List.erase listed) }

/-- The text of a challenge. -/
def challengeText (candidate : Candidate) : Text :=
  "CHALLENGE ".toList ++ candidate.ipAddr.toList ++ ' ' ::
    [' '].intercalate candidate.predictions ++ ' ' :: candidate.proto

/-- The loop of `propogate_candidates`. -/
def challengeAll (nodeIp : Host) :
    RendezvousFactory → List Candidate → Outcome RendezvousFactory PyError Unit
  | server, [] => Outcome.pure server ()
  | server, candidate :: later =>
      if candidate.con ∉ server.connected ∨ candidate.propogated then
        challengeAll nodeIp server later
      else
        Outcome.attempt server (lookupKey server.simultaneous nodeIp) fun node =>
        challengeAll nodeIp (server.sendLine node.con (challengeText candidate))
          later

/-- `propogate_candidates`. -/
def propogateCandidates (nodeIp : Host) :
    Outcome RendezvousFactory PyError Unit :=
  match server.candidates.get? nodeIp with
  | none => Outcome.pure server ()
  | some listed => challengeAll nodeIp server listed

/-- The loop of `synchronize_simultaneous`: the node, if it has to reconnect. -/
def staleNode (nodeIp : Host) :
    List Candidate → Except PyError (Option ListedNode)
  | [] => .ok none
  | candidate :: later =>
      if candidate.con ∉ server.connected then staleNode nodeIp later
      else do
        let node ← lookupKey server.simultaneous nodeIp
        if challegeTimeout < candidate.time - node.time then return some node
        else staleNode nodeIp later

/-- `synchronize_simultaneous`. -/
def synchronizeSimultaneous (clock : Readings) (nodeIp : Host) :
    Outcome RendezvousFactory PyError Unit :=
  Outcome.attempt server (lookupKey server.candidates nodeIp) fun listed =>
  Outcome.attempt server (server.staleNode nodeIp listed) fun stale =>
  match stale with
  | some node =>
      Outcome.pure (server.sendLine node.con "RECONNECT".toList) ()
  | none =>
      (server.cleanupCandidates clock nodeIp).propogateCandidates nodeIp

end RendezvousFactory

/-! ## Connections -/

section
variable (env : RendezvousEnv)

/-- `connectionMade`. -/
def connectionMade
    (server : RendezvousFactory)
    (con : ProtocolId)
    (clock : Readings) : Outcome RendezvousFactory PyError Unit :=
  let server := { server with connected := con :: server.connected }
  let ipAddr := (env.peer con).1
  match server.simultaneous.get? ipAddr with
  | none => Outcome.pure server ()
  | some node =>
      let node := { node with time := clock 0 }
      { server with
        simultaneous := server.simultaneous.set ipAddr node
      }.synchronizeSimultaneous clock.later ipAddr

/-- Delete keys one after the other. -/
def deleteKeys {α : Type} : Dict Host α → List Host → Except PyError (Dict Host α)
  | nodes, [] => .ok nodes
  | nodes, nodeIp :: later => do
      let nodes ← deleteKey nodes nodeIp
      deleteKeys nodes later

/-- The keys of the nodes older than their lifetime. -/
def oldNodeIps (t : ℚ) (nodes : Dict Host ListedNode) : List Host :=
  (nodes.entries.filter fun entry => nodeLifetime ≤ t - entry.2.time).map
    Prod.fst

/-- The test of the clean-up for a candidate; `and` is lazy. -/
def isOldCandidate (t : ℚ) (listed : Bool) (candidate : Candidate) :
    Except PyError Bool :=
  if listed then .ok false
  else do
    let timeout ← challengeTimeout
    return decide (timeout * 5 ≤ t - candidate.time)

/-- The candidates of a list that are old. -/
def oldCandidates (t : ℚ) (listed : Bool) :
    List Candidate → Except PyError (List Candidate)
  | [] => .ok []
  | candidate :: later => do
      let old ← isOldCandidate t listed candidate
      let others ← oldCandidates t listed later
      return if old then candidate :: others else others

/-- The loop over the candidate lists; it returns the keys to delete. -/
def cleanCandidateLists (t : ℚ) :
    RendezvousFactory → List Host → Outcome RendezvousFactory PyError (List Host)
  | server, [] => Outcome.pure server []
  | server, nodeIp :: later =>
      let isListed := server.simultaneous.contains nodeIp
      Outcome.attempt server (lookupKey server.candidates nodeIp) fun list =>
      Outcome.attempt server (oldCandidates t isListed list) fun old =>
      let left := old.foldl List.erase list
      let server :=
        { server with candidates := server.candidates.set nodeIp left }
      (cleanCandidateLists t server later).bind fun server oldIps =>
      Outcome.pure server
        (if left = [] ∧ isListed = false then nodeIp :: oldIps else oldIps)

/-- The clean-up of `connectionLost`. -/
def cleanupTables (server : RendezvousFactory) (t : ℚ) :
    Outcome RendezvousFactory PyError Unit :=
  Outcome.attempt server
      (deleteKeys server.passive (oldNodeIps t server.passive)) fun passive =>
  let server := { server with passive }
  Outcome.attempt server
      (deleteKeys server.simultaneous (oldNodeIps t server.simultaneous))
      fun simultaneous =>
  let server := { server with simultaneous }
  (cleanCandidateLists t server server.candidates.keys).bind
      fun server oldIps =>
  Outcome.attempt server (deleteKeys server.candidates oldIps)
      fun candidates =>
  Outcome.pure { server with candidates } ()

/-- `connectionLost`. -/
def connectionLost
    (server : RendezvousFactory)
    (con : ProtocolId)
    (clock : Readings) : Outcome RendezvousFactory PyError Unit :=
  let server :=
    { server with connected := server.connected.filter (· ≠ con) }
  let t := clock 0
  if cleanupInterval ≤ clock 1 - server.lastCleanup then
    cleanupTables { server with lastCleanup := t } t
  else Outcome.pure server ()

/-! ## Lines -/

namespace LinePattern

def number : Pattern Char :=
  .many 1 none (.one Char.isDigit)

def space : Pattern Char :=
  .one (· = ' ')

def ending : Pattern Char :=
  .atEnd endOfText

/-- `[0-9]+[.][0-9]+[.][0-9]+[.][0-9]+`. -/
def dotted : Pattern Char :=
  .sequence [number, .one (· = '.'), number, .one (· = '.'), number,
    .one (· = '.'), number]

/-- `(?:[0-9]+\s?)+`. -/
def numbers : Pattern Char :=
  .many 1 none (.sequence [number, .many 0 (some 1) (.one isSpace)])

/-- `TCP|UDP`. -/
def proto : Pattern Char :=
  .either (.literal "TCP".toList) (.literal "UDP".toList)

/-- `^BOOTSTRAP ([0-9]+)`. -/
def bootstrap : Pattern Char :=
  .sequence [.literal "BOOTSTRAP".toList, space, .group number]

/-- `SIMULTANEOUS|PASSIVE`. -/
def nodeType : Pattern Char :=
  .either (.literal "SIMULTANEOUS".toList) (.literal "PASSIVE".toList)

/-- `^(SIMULTANEOUS|PASSIVE) READY [0-9]+ [0-9]+$`. -/
def ready : Pattern Char :=
  .sequence [.group nodeType, .literal " READY ".toList, number, space, number,
    ending]

/-- `^(SIMULTANEOUS|PASSIVE) READY ([0-9]+) ([0-9]+)`. -/
def readyFields : Pattern Char :=
  .sequence [.group nodeType, .literal " READY ".toList, .group number, space,
    .group number]

/-- `^CANDIDATE ([0-9]+[.][0-9]+[.][0-9]+[.][0-9]+) (TCP|UDP)
((?:[0-9]+\s?)+)$`. -/
def candidate : Pattern Char :=
  .sequence [.literal "CANDIDATE ".toList, .group dotted, space, .group proto,
    space, .group numbers, ending]

/-- `^ACCEPT ([0-9]+[.][0-9]+[.][0-9]+[.][0-9]+) ((?:[0-9]+\s?)+) (TCP|UDP)
([0-9]+(?:[.][0-9]+)?)$`. -/
def accept : Pattern Char :=
  .sequence [.literal "ACCEPT ".toList, .group dotted, space, .group numbers,
    space, .group proto, space,
    .group (.sequence [number,
      .either (.sequence [.one (· = '.'), number]) .empty]), ending]

/-- `^[0-9]+$`. -/
def port : Pattern Char :=
  .sequence [.group number, ending]

end LinePattern

/-- The groups of the match of a pattern at the start of a line. -/
def matchLine (pattern : Pattern Char) (line : Text) : Option (List Text) :=
  (pattern.run line).head?.map Match.groups

/-- `is_valid_port`. -/
def isPort (port : Text) : Bool :=
  match matchLine LinePattern.port port with
  | some [digits] =>
      let number := Nat.ofDigitChars 10 digits 0
      0 < number ∧ number ≤ 65535
  | _ => false

/-! ### Bootstrapping -/

/-- The loop of a bootstrap answer: in every turn a random address of those
left.  The counter that is turned back is set again by the loop. -/
def bootstrapNodes (nodes : Dict Host ListedNode) (ourIp : Host) :
    Nat → (Nat → Nat) → List Host → Except PyError (List (Host × Text))
  | 0, _, _ => .ok []
  | turns + 1, random, ipAddrList =>
      match ipAddrList[random 0 % ipAddrList.length]? with
      | none => .ok []
      | some ipAddr => do
          let element ← lookupKey nodes ipAddr
          let left := ipAddrList.erase ipAddr
          let later := fun draw => random (draw + 1)
          if ourIp = ipAddr ∨ ipAddr = "127.0.0.1" then
            bootstrapNodes nodes ourIp turns later left
          else do
            let others ← bootstrapNodes nodes ourIp turns later left
            return (ipAddr, element.port) :: others

/-- The reply that names some nodes. -/
def nodesReply (named : List (Host × Text)) : Text :=
  if named = [] then "NODES EMPTY".toList
  else
    "NODES ".toList ++ named.flatMap fun node =>
      "p:".toList ++ node.1.toList ++ ':' :: node.2 ++ [' ']

/-- The branch for `BOOTSTRAP`. -/
def bootstrapLine
    (server : RendezvousFactory)
    (con : ProtocolId)
    (line : Text)
    (random : Nat → Nat) : Outcome RendezvousFactory PyError Unit :=
  match matchLine LinePattern.bootstrap line with
  | some [digits] =>
      let n := Nat.ofDigitChars 10 digits 0
      if n < 1 ∨ 100 < n then Outcome.pure server ()
      else
        Outcome.attempt server
            (bootstrapNodes server.passive (env.peer con).1 n random
              server.passive.keys) fun named =>
        Outcome.pure (server.sendLine con (nodesReply named)) ()
  | _ => Outcome.pure server ()

/-! ### Registration -/

/-- The branch for `SIMULTANEOUS READY` and `PASSIVE READY`. -/
def readyLine
    (server : RendezvousFactory)
    (con : ProtocolId)
    (line : Text)
    (clock : Readings) : Outcome RendezvousFactory PyError Unit :=
  if matchLine LinePattern.ready line = none then Outcome.pure server ()
  else
    match matchLine LinePattern.readyFields line with
    | some [nodeType, passivePort, maxInbound] =>
        let nodeIp := (env.peer con).1
        let node : ListedNode := {
          maxInbound
          port := passivePort
          time := clock 0
          con }
        if nodeType = "PASSIVE".toList then
          Outcome.pure
            { server with passive := server.passive.set nodeIp node } ()
        else
          let server :=
            { server with simultaneous := server.simultaneous.set nodeIp node }
          if server.candidates.contains nodeIp then
            (server.cleanupCandidates clock.later nodeIp).propogateCandidates
              nodeIp
          else
            Outcome.pure
              { server with candidates := server.candidates.set nodeIp [] } ()
    | _ => Outcome.raise server .indexError

/-- The branch for `CLEAR`. -/
def clearLine (server : RendezvousFactory) (con : ProtocolId) (line : Text) :
    Outcome RendezvousFactory PyError Unit :=
  if matchLine (.literal "CLEAR".toList) line = none then Outcome.pure server ()
  else
    let ipAddr := (env.peer con).1
    let passive :=
      if server.passive.contains ipAddr then deleteKey server.passive ipAddr
      else .ok server.passive
    Outcome.attempt server passive fun passive =>
    let server := { server with passive }
    let simultaneous :=
      if server.simultaneous.contains ipAddr then
        deleteKey server.simultaneous ipAddr
      else .ok server.simultaneous
    Outcome.attempt server simultaneous fun simultaneous =>
    Outcome.pure { server with simultaneous } ()

/-- The branch for `SOURCE TCP`. -/
def sourceLine (server : RendezvousFactory) (con : ProtocolId) (line : Text) :
    Outcome RendezvousFactory PyError Unit :=
  if matchLine (.literal "SOURCE TCP".toList) line = none then
    Outcome.pure server ()
  else
    Outcome.pure
      (server.sendLine con
        ("REMOTE TCP ".toList ++ Nat.toDigits 10 (env.peer con).2)) ()

/-! ### Challenges -/

/-- Remove the first candidate of a client. -/
def withoutClient (clientIp : Host) (list : List Candidate) : List Candidate :=
  match list.find? fun candidate => candidate.ipAddr = clientIp with
  | some candidate => list.erase candidate
  | none => list

/-- Storing a candidate, without an older one of the same client; it is not
stored when the list is full. -/
def storeCandidate
    (server : RendezvousFactory)
    (nodeIp : Host)
    (candidate : Candidate) : Except PyError (Option RendezvousFactory) := do
  let full :=
    match server.candidates.get? nodeIp with
    | some list => decide (maxCandidates ≤ list.length)
    | none => false
  if full then return none
  else
    let list ← lookupKey server.candidates nodeIp
    return some { server with
      candidates := server.candidates.set nodeIp
        (withoutClient candidate.ipAddr list ++ [candidate]) }

/-- The branch for `CANDIDATE`. -/
def candidateLine
    (server : RendezvousFactory)
    (con : ProtocolId)
    (line : Text)
    (clock : Readings) : Outcome RendezvousFactory PyError Unit :=
  match matchLine LinePattern.candidate line with
  | some [nodeText, proto, predictionsText] =>
      let nodeIp := String.ofList nodeText
      let predictions := predictionsText.splitOn ' '
      let clientIp := (env.peer con).1
      if env.isValidIpv4 nodeText = false ∨
          server.simultaneous.contains nodeIp = false ∨ nodeIp = clientIp ∨
          ¬predictions.all isPort then
        Outcome.pure server ()
      else
        Outcome.attempt server (lookupKey server.simultaneous nodeIp) fun node =>
        if node.con ∉ server.connected then Outcome.pure server ()
        else
          Outcome.attempt server
              (storeCandidate server nodeIp {
                ipAddr := clientIp
                time := clock 0
                predictions, proto, con
                propogated := false }) fun stored =>
          match stored with
          | none => Outcome.pure server ()
          | some server =>
              (server.sendLine con "PREDICTION SET".toList
                ).synchronizeSimultaneous clock.later nodeIp
  | _ => Outcome.pure server ()

/-- The text of a fight. -/
def fightText (nodeIp : Host) (predictions : List Text) (proto ntp : Text) :
    Text :=
  "FIGHT ".toList ++ nodeIp.toList ++ ' ' :: [' '].intercalate predictions ++
    ' ' :: proto ++ ' ' :: ntp

/-- Mark the first candidate of a client. -/
def markPropogated (clientIp : Host) : List Candidate → List Candidate
  | [] => []
  | candidate :: later =>
      if candidate.ipAddr = clientIp then
        { candidate with propogated := true } :: later
      else candidate :: markPropogated clientIp later

/-- The branch for `ACCEPT`. -/
def acceptLine
    (server : RendezvousFactory)
    (con : ProtocolId)
    (line : Text)
    (clock : Readings) : Outcome RendezvousFactory PyError Unit :=
  match matchLine LinePattern.accept line with
  | some [clientText, predictionsText, proto, ntp] =>
      let clientIp := String.ofList clientText
      let nodeIp := (env.peer con).1
      let predictions := predictionsText.splitOn ' '
      if server.candidates.contains nodeIp = false ∨
          ¬predictions.all isPort then
        Outcome.pure server ()
      else
        Outcome.attempt server
            (Except.ofOption
              (.exception "cannot convert float infinity to integer")
              (env.readFloat ntp)) fun seconds =>
        if (seconds : ℚ) < clock 0 - 60 * 10 ∨
            clock 0 + 60 * 10 < (seconds : ℚ) then
          Outcome.pure server ()
        else
          Outcome.attempt server (lookupKey server.candidates nodeIp) fun list =>
          match list.find? fun candidate => candidate.ipAddr = clientIp with
          | none => Outcome.pure server ()
          | some candidate =>
              let server := server.sendLine candidate.con
                (fightText nodeIp predictions proto ntp)
              Outcome.pure
                { server with
                  candidates := server.candidates.set nodeIp
                    (markPropogated clientIp list) } ()
  | _ => Outcome.pure server ()

/-- `lineReceived`; a line that is no UTF-8 is dropped. -/
def lineReceived
    (server : RendezvousFactory)
    (con : ProtocolId)
    (line : Option Text)
    (clock : Readings)
    (random : Nat → Nat) : Outcome RendezvousFactory PyError Unit :=
  match line with
  | none => Outcome.pure server ()
  | some line =>
      (bootstrapLine env server con line random).bind fun server _ =>
      (readyLine env server con line clock).bind fun server _ =>
      (sourceLine env server con line).bind fun server _ =>
      (candidateLine env server con line clock).bind fun server _ =>
      (acceptLine env server con line clock).bind fun server _ =>
      clearLine env server con line

/-! ## Runs -/

inductive RendezvousEvent
  | connectionMade (con : ProtocolId) (clock : Readings)
  | connectionLost (con : ProtocolId) (clock : Readings)
  | lineReceived (con : ProtocolId) (line : Option Text) (clock : Readings)
      (random : Nat → Nat)

/-- The handler of an event. -/
def rendezvousHandler (server : RendezvousFactory) :
    RendezvousEvent → Outcome RendezvousFactory PyError Unit
  | .connectionMade con clock => connectionMade env server con clock
  | .connectionLost con clock => connectionLost server con clock
  | .lineReceived con line clock random =>
      lineReceived env server con line clock random

/-- What an event leaves; an error is caught. -/
def rendezvousStep (server : RendezvousFactory) (event : RendezvousEvent) :
    RendezvousFactory :=
  (rendezvousHandler env server event).state

/-- `RendezvousFactory.__init__`. -/
def RendezvousFactory.new (t : ℚ) : RendezvousFactory where
  lastCleanup := t
  candidates := ∅
  passive := ∅
  simultaneous := ∅
  connected := []
  sent := []

end

end Coinbend
