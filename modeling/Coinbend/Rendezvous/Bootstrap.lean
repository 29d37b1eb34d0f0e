import Coinbend.Library.DigitText
import Coinbend.Library.Drawing
import Coinbend.Rendezvous.Defs

/-!
# Bootstrap answers

A bootstrap answer makes as many random draws as nodes are asked for.  A draw
of the requester's own address or of the local host uses up its turn, so the
answer is complete when no draw is one of these, or when every other node is
drawn anyway.
-/

namespace Coinbend

open Drawing Regex

/-- Whether a node may be named to a requester. -/
def mayBeNamed (ourIp ipAddr : Host) : Bool :=
  ¬(ourIp = ipAddr ∨ ipAddr = "127.0.0.1")

/-- An address with the port it is listed with. -/
def withPort (nodes : Dict Host ListedNode) (ipAddr : Host) :
    Option (Host × Text) :=
  (nodes.get? ipAddr).map fun node => (ipAddr, node.port)

/-- The nodes named are those drawn, but for the excluded ones. -/
theorem bootstrapNodes_eq
    {nodes : Dict Host ListedNode}
    (ourIp : Host)
    (turns : Nat)
    (random : Nat → Nat)
    {ipAddrList : List Host}
    (listed : ∀ ipAddr ∈ ipAddrList, ipAddr ∈ nodes.keys) :
    bootstrapNodes nodes ourIp turns random ipAddrList =
      .ok (((draws turns random ipAddrList).filter (mayBeNamed ourIp)).filterMap
        (withPort nodes)) := by
  induction turns generalizing random ipAddrList with
  | zero => rfl
  | succ turns inductionHypothesis =>
      rw [bootstrapNodes, draws]
      cases drawn : ipAddrList[random 0 % ipAddrList.length]? with
      | none => rfl
      | some ipAddr =>
          obtain ⟨node, found⟩ := Dict.exists_get?_of_mem_keys nodes
            (listed ipAddr (List.mem_of_getElem? drawn))
          have others := @inductionHypothesis
            (fun draw => random (draw + 1)) (ipAddrList.erase ipAddr)
            fun other member => listed other (List.mem_of_mem_erase member)
          simp only [lookupKey, found, Except.ofOption, Except.ok_bind, others]
          by_cases excluded : ourIp = ipAddr ∨ ipAddr = "127.0.0.1"
          · have unnamed : mayBeNamed ourIp ipAddr = false := by
              simp [mayBeNamed, excluded]
            rw [if_pos excluded, List.filter_cons_of_neg (by simp [unnamed])]
          · have named : mayBeNamed ourIp ipAddr = true := by
              simp [mayBeNamed, excluded]
            have port : withPort nodes ipAddr = some (ipAddr, node.port) := by
              rw [withPort, found]
              rfl
            rw [if_neg excluded, List.filter_cons_of_pos named,
              List.filterMap_cons_some port]
            rfl

/-! ## Completeness -/

/-- The nodes named are distinct nodes of the table with their ports, as many
as asked for or as there are. -/
structure NamesAll
    (nodes : Dict Host ListedNode)
    (ourIp : Host)
    (n : Nat)
    (named : List (Host × Text)) : Prop where
  distinct : (named.map Prod.fst).Nodup
  listed : ∀ node ∈ named, mayBeNamed ourIp node.1 = true ∧
    (nodes.get? node.1).map ListedNode.port = some node.2
  count : named.length = min n (nodes.keys.countP (mayBeNamed ourIp))

section
variable {nodes : Dict Host ListedNode} {ourIp : Host}

theorem map_fst_withPort
    {ips : List Host}
    (listed : ∀ ipAddr ∈ ips, ipAddr ∈ nodes.keys) :
    (ips.filterMap (withPort nodes)).map Prod.fst = ips := by
  induction ips with
  | nil => rfl
  | cons ipAddr ips inductionHypothesis =>
      obtain ⟨first, listed⟩ := List.forall_mem_cons.mp listed
      obtain ⟨node, found⟩ := Dict.exists_get?_of_mem_keys nodes first
      have port : withPort nodes ipAddr = some (ipAddr, node.port) := by
        rw [withPort, found]
        rfl
      rw [List.filterMap_cons_some port, List.map_cons,
        inductionHypothesis listed]

/-- Drawn nodes that may be named are named once, with their ports; only their
number can be wrong. -/
theorem namesAll_iff_count
    (once : nodes.keys.Nodup)
    (n : Nat)
    (random : Nat → Nat) :
    NamesAll nodes ourIp n
        (((draws n random nodes.keys).filter (mayBeNamed ourIp)).filterMap
          (withPort nodes)) ↔
      (draws n random nodes.keys).countP (mayBeNamed ourIp) =
        min n (nodes.keys.countP (mayBeNamed ourIp)) := by
  have stored : ∀ ipAddr ∈ (draws n random nodes.keys).filter
      (mayBeNamed ourIp), ipAddr ∈ nodes.keys := fun ipAddr member =>
    mem_of_mem_draws (List.mem_of_mem_filter member)
  have ips := map_fst_withPort stored
  have length := congrArg List.length ips
  rw [List.length_map, ← List.countP_eq_length_filter] at length
  constructor
  · intro all
    rw [← length, all.count]
  · intro count
    refine ⟨?_, ?_, length.trans count⟩
    · rw [ips]
      exact (nodup_draws n random once).filter _
    · intro node member
      obtain ⟨ipAddr, drawn, port⟩ := List.mem_filterMap.mp member
      obtain ⟨found, found_eq, rfl⟩ := Option.map_eq_some_iff.mp port
      refine ⟨(List.mem_filter.mp drawn).2, ?_⟩
      rw [found_eq]
      rfl

/-- No draw is excluded, or every node that may be named is drawn. -/
def DrawsEnough
    (ourIp : Host)
    (n : Nat)
    (random : Nat → Nat)
    (ipAddrList : List Host) : Prop :=
  (∀ ipAddr ∈ draws n random ipAddrList, mayBeNamed ourIp ipAddr = true) ∨
    ∀ ipAddr ∈ ipAddrList, mayBeNamed ourIp ipAddr = true →
      ipAddr ∈ draws n random ipAddrList

section
variable {ipAddrList : List Host} (once : ipAddrList.Nodup) (n : Nat)
  (random : Nat → Nat)

theorem allNamed_iff :
    (∀ ipAddr ∈ draws n random ipAddrList, mayBeNamed ourIp ipAddr = true) ↔
      (draws n random ipAddrList).countP (mayBeNamed ourIp) =
        (draws n random ipAddrList).length :=
  List.countP_eq_length.symm

include once in
theorem allDrawn_iff :
    (∀ ipAddr ∈ ipAddrList, mayBeNamed ourIp ipAddr = true →
        ipAddr ∈ draws n random ipAddrList) ↔
      (draws n random ipAddrList).countP (mayBeNamed ourIp) =
        ipAddrList.countP (mayBeNamed ourIp) := by
  obtain ⟨left, perm⟩ := exists_left n random ipAddrList
  have total := perm.countP_eq (mayBeNamed ourIp)
  rw [List.countP_append] at total
  have none_left : left.countP (mayBeNamed ourIp) = 0 ↔
      (draws n random ipAddrList).countP (mayBeNamed ourIp) =
        ipAddrList.countP (mayBeNamed ourIp) := by
    omega
  have apart := (List.nodup_append.mp (perm.nodup_iff.mpr once)).2.2
  rw [← none_left, List.countP_eq_zero]
  constructor
  · intro drawn ipAddr member named
    have listed := perm.mem_iff.mp (List.mem_append_right _ member)
    exact apart _ (drawn ipAddr listed named) _ member rfl
  · intro unnamed ipAddr listed named
    rcases List.mem_append.mp (perm.mem_iff.mpr listed) with drawn | member
    · exact drawn
    · exact absurd named (unnamed ipAddr member)

include once in
/-- The number of nodes named is right exactly when the draws are enough. -/
theorem countP_draws_iff :
    (draws n random ipAddrList).countP (mayBeNamed ourIp) =
        min n (ipAddrList.countP (mayBeNamed ourIp)) ↔
      DrawsEnough ourIp n random ipAddrList := by
  obtain ⟨left, perm⟩ := exists_left n random ipAddrList
  have total := perm.countP_eq (mayBeNamed ourIp)
  have drawn_length := length_draws n random ipAddrList
  have all_length := perm.length_eq
  rw [List.countP_append] at total
  rw [List.length_append] at all_length
  have drawn_le : (draws n random ipAddrList).countP (mayBeNamed ourIp) ≤
      (draws n random ipAddrList).length := List.countP_le_length
  have left_le : left.countP (mayBeNamed ourIp) ≤ left.length :=
    List.countP_le_length
  rw [DrawsEnough, allNamed_iff, allDrawn_iff once]
  omega

include once in
/-- Every sequence of draws is enough when no excluded address is listed, when
as many nodes are asked for as listed, or when none may be named. -/
theorem drawsEnough_always_iff
    (positive : 0 < n) :
    (∀ random, DrawsEnough ourIp n random ipAddrList) ↔
      (∀ ipAddr ∈ ipAddrList, mayBeNamed ourIp ipAddr = true) ∨
        ipAddrList.length ≤ n ∨
        ∀ ipAddr ∈ ipAddrList, mayBeNamed ourIp ipAddr = false := by
  have all_iff : (∀ ipAddr ∈ ipAddrList, mayBeNamed ourIp ipAddr = true) ↔
      ipAddrList.countP (mayBeNamed ourIp) = ipAddrList.length :=
    List.countP_eq_length.symm
  have none_iff : (∀ ipAddr ∈ ipAddrList, mayBeNamed ourIp ipAddr = false) ↔
      ipAddrList.countP (mayBeNamed ourIp) = 0 := by
    simp only [List.countP_eq_zero, Bool.not_eq_true]
  have split (list : List Host) : list.length =
      list.countP (mayBeNamed ourIp) +
        list.countP fun ipAddr => !mayBeNamed ourIp ipAddr := by
    simpa using List.length_eq_countP_add_countP (mayBeNamed ourIp) (l := list)
  rw [all_iff, none_iff]
  constructor
  · intro enough
    obtain ⟨random, first⟩ :=
      exists_draws_first (fun ipAddr => !mayBeNamed ourIp ipAddr) n ipAddrList
    have counted := enough random
    rw [← countP_draws_iff once] at counted
    have drawn_length := length_draws n random ipAddrList
    have drawn_split := split (draws n random ipAddrList)
    have list_split := split ipAddrList
    omega
  · intro complete random
    rw [← countP_draws_iff once]
    obtain ⟨left, perm⟩ := exists_left n random ipAddrList
    have total := perm.countP_eq (mayBeNamed ourIp)
    have drawn_length := length_draws n random ipAddrList
    have all_length := perm.length_eq
    rw [List.countP_append] at total
    rw [List.length_append] at all_length
    have drawn_le : (draws n random ipAddrList).countP (mayBeNamed ourIp) ≤
        (draws n random ipAddrList).length := List.countP_le_length
    have left_le : left.countP (mayBeNamed ourIp) ≤ left.length :=
      List.countP_le_length
    omega

end

end

/-! ## The request -/

/-- A request for some nodes. -/
def bootstrapRequest (n : Nat) : Text :=
  "BOOTSTRAP ".toList ++ Nat.toDigits 10 n

theorem matchLine_bootstrapRequest (n : Nat) :
    matchLine LinePattern.bootstrap (bootstrapRequest n) =
      some [Nat.toDigits 10 n] := by
  have name : (Pattern.literal "BOOTSTRAP".toList).run (bootstrapRequest n) =
      [⟨[], "BOOTSTRAP".toList, ' ' :: Nat.toDigits 10 n⟩] :=
    Pattern.run_literal_append "BOOTSTRAP".toList (' ' :: Nat.toDigits 10 n)
  have space : LinePattern.space.run (' ' :: Nat.toDigits 10 n) =
      [⟨[], [' '], Nat.toDigits 10 n⟩] := rfl
  have digits : (LinePattern.number.run (Nat.toDigits 10 n)).head? =
      some ⟨[], Nat.toDigits 10 n, []⟩ :=
    Pattern.head?_run_many_one Nat.toDigits_ne_nil
      (DigitText.digits_toDigits n)
  have group : ((Pattern.sequence [.group LinePattern.number]).run
      (Nat.toDigits 10 n)).head? =
        some ⟨[Nat.toDigits 10 n], Nat.toDigits 10 n, []⟩ := by
    rw [Pattern.run_sequence_singleton, Pattern.run, List.head?_map, digits]
    rfl
  rw [matchLine, LinePattern.bootstrap,
    Pattern.run_sequence_cons_of_single name,
    Pattern.run_sequence_cons_of_single space, List.head?_map, List.head?_map,
    group]
  rfl

/-- A bootstrap request is answered by its own branch alone. -/
theorem lineReceived_bootstrapRequest
    (env : RendezvousEnv)
    (server : RendezvousFactory)
    (con : ProtocolId)
    (n : Nat)
    (clock : Readings)
    (random : Nat → Nat) :
    lineReceived env server con (some (bootstrapRequest n)) clock random =
      bootstrapLine env server con (bootstrapRequest n) random := by
  have ready : matchLine LinePattern.ready (bootstrapRequest n) = none := rfl
  have source : matchLine (.literal "SOURCE TCP".toList)
      (bootstrapRequest n) = none := rfl
  have candidate : matchLine LinePattern.candidate (bootstrapRequest n) =
      none := rfl
  have accept : matchLine LinePattern.accept (bootstrapRequest n) = none := rfl
  have clear : matchLine (.literal "CLEAR".toList) (bootstrapRequest n) =
      none := rfl
  have later (server : RendezvousFactory) :
      ((readyLine env server con (bootstrapRequest n) clock).bind
        fun server _ =>
        (sourceLine env server con (bootstrapRequest n)).bind fun server _ =>
        (candidateLine env server con (bootstrapRequest n) clock).bind
          fun server _ =>
        (acceptLine env server con (bootstrapRequest n) clock).bind
          fun server _ =>
        clearLine env server con (bootstrapRequest n)) =
          Outcome.pure server () := by
    simp only [readyLine, sourceLine, candidateLine, acceptLine, clearLine,
      ready, source, candidate, accept, clear, if_true]
    rfl
  unfold lineReceived
  simp only [later]
  exact Outcome.bind_pure _

/-- The answer to a request for one to a hundred nodes is complete exactly
when no draw is excluded or every node that may be named is drawn.  All
sequences of draws are like this exactly when no excluded address is listed,
as many nodes are asked for as are listed, or none may be named. -/
theorem bootstrap_complete_iff
    (env : RendezvousEnv)
    (server : RendezvousFactory)
    (con : ProtocolId)
    (n : Nat)
    (clock : Readings)
    (once : server.passive.keys.Nodup)
    (number : 1 ≤ n ∧ n ≤ 100) :
    ∃ named : (Nat → Nat) → List (Host × Text),
      (∀ random,
        bootstrapNodes server.passive (env.peer con).1 n random
          server.passive.keys = .ok (named random) ∧
        lineReceived env server con (some (bootstrapRequest n)) clock random =
          Outcome.pure (server.sendLine con (nodesReply (named random))) ()) ∧
      (∀ random, NamesAll server.passive (env.peer con).1 n (named random) ↔
        DrawsEnough (env.peer con).1 n random server.passive.keys) ∧
      ((∀ random,
          NamesAll server.passive (env.peer con).1 n (named random)) ↔
        (∀ ipAddr ∈ server.passive.keys,
            mayBeNamed (env.peer con).1 ipAddr = true) ∨
          server.passive.keys.length ≤ n ∨
          ∀ ipAddr ∈ server.passive.keys,
            mayBeNamed (env.peer con).1 ipAddr = false) := by
  have complete_iff (random : Nat → Nat) :=
    (@namesAll_iff_count server.passive (env.peer con).1 once n random).trans
      (countP_draws_iff once n random)
  refine ⟨fun random => ((draws n random server.passive.keys).filter
    (mayBeNamed (env.peer con).1)).filterMap (withPort server.passive),
    fun random => ?_, complete_iff, ?_⟩
  · have answered := @bootstrapNodes_eq server.passive (env.peer con).1 n random
      server.passive.keys fun _ member => member
    refine ⟨answered, ?_⟩
    rw [lineReceived_bootstrapRequest, bootstrapLine,
      matchLine_bootstrapRequest]
    simp only [Nat.ofDigitChars_ten_toDigits, answered]
    rw [if_neg (by omega)]
    rfl
  · rw [← drawsEnough_always_iff once n number.1]
    exact forall_congr' complete_iff

namespace Sample

/-- A passive node on a port. -/
def passiveNode (port : Text) : ListedNode where
  maxInbound := ['9']
  port := port
  time := 0
  con := 5

/-- A server with two passive nodes. -/
def passiveServer : RendezvousFactory where
  lastCleanup := 0
  candidates := ∅
  passive := ⟨[("1.1.1.1", passiveNode ['7']), ("9.9.9.9", passiveNode ['8'])]⟩
  simultaneous := ∅
  connected := [1]
  sent := []

/-- Connections from one host. -/
def rendezvousEnv (host : Host) : RendezvousEnv where
  peer := fun _ => (host, 1000)
  isValidIpv4 := fun _ => true
  readFloat := fun _ => some 0

end Sample

/-- A requester that is not listed always gets a complete answer. -/
theorem bootstrap_complete_for_stranger :
    ∃ named : (Nat → Nat) → List (Host × Text), ∀ random,
      lineReceived (Sample.rendezvousEnv "2.2.2.2") Sample.passiveServer 1
          (some (bootstrapRequest 1)) (fun _ => 0) random =
        Outcome.pure
          (Sample.passiveServer.sendLine 1 (nodesReply (named random))) () ∧
      NamesAll Sample.passiveServer.passive "2.2.2.2" 1 (named random) := by
  obtain ⟨named, answered, -, always⟩ :=
    bootstrap_complete_iff (Sample.rendezvousEnv "2.2.2.2")
      Sample.passiveServer 1 1 (fun _ => 0) (by decide) (by decide)
  have complete := always.mpr (Or.inl (by decide))
  exact ⟨named, fun random => ⟨(answered random).2, complete random⟩⟩

/-- A listed requester that draws itself is told that there are no nodes. -/
theorem bootstrap_empty_for_listed :
    (lineReceived (Sample.rendezvousEnv "1.1.1.1") Sample.passiveServer 1
        (some (bootstrapRequest 1)) (fun _ => 0) (fun _ => 0)).state.sent =
      [(1, "NODES EMPTY".toList)] ∧
      ¬NamesAll Sample.passiveServer.passive "1.1.1.1" 1 [] := by
  refine ⟨by decide +kernel, fun all => ?_⟩
  have count := all.count
  revert count
  decide

end Coinbend
