import Coinbend.Library.Machine
import Coinbend.Rendezvous.Cleanup

/-!
# The candidate tables

Every event keeps the tables of the rendezvous server well formed: a listed
simultaneous node has a candidate list, and a candidate list is short, has a
client at most once and never the node itself.  On such tables no handler reads
or deletes a key that is missing.
-/

namespace Coinbend

/-- The candidates of a node: not too many, each client once, and not the node
itself. -/
structure CandidatesValid (nodeIp : Host) (list : List Candidate) : Prop where
  few : list.length ≤ maxCandidates
  once : (list.map Candidate.ipAddr).Nodup
  foreign : ∀ candidate ∈ list, candidate.ipAddr ≠ nodeIp

theorem candidatesValid_nil (nodeIp : Host) : CandidatesValid nodeIp [] where
  few := Nat.zero_le _
  once := List.nodup_nil
  foreign := by simp

theorem CandidatesValid.sublist
    {nodeIp : Host}
    {list part : List Candidate}
    (valid : CandidatesValid nodeIp list)
    (sublist : part.Sublist list) :
    CandidatesValid nodeIp part where
  few := sublist.length_le.trans valid.few
  once := valid.once.sublist (sublist.map _)
  foreign candidate member := valid.foreign candidate (sublist.mem member)

/-- The tables are well formed. -/
structure TablesValid (server : RendezvousFactory) : Prop where
  keysOnce : server.KeysOnce
  listed : ∀ nodeIp ∈ server.simultaneous.keys, nodeIp ∈ server.candidates.keys
  lists : ∀ nodeIp list, server.candidates.get? nodeIp = some list →
    CandidatesValid nodeIp list

/-- A handler leaves well-formed tables and raises no missing-key error. -/
structure Keeps {α : Type} (outcome : Outcome RendezvousFactory PyError α) :
    Prop where
  valid : TablesValid outcome.state
  found : outcome.result ≠ .error .keyError

namespace Keeps

variable {α β : Type} {server : RendezvousFactory}

theorem pure (valid : TablesValid server) (value : α) :
    Keeps (Outcome.pure server value) :=
  ⟨valid, Except.ok_ne_error⟩

theorem attempt
    {value : Except PyError α}
    {next : α → Outcome RendezvousFactory PyError β}
    (valid : TablesValid server)
    (value_ne : value ≠ .error .keyError)
    (continues : ∀ found, value = .ok found → Keeps (next found)) :
    Keeps (Outcome.attempt server value next) :=
  ⟨Outcome.attempt_state valid fun found same => (continues found same).valid,
    Outcome.attempt_result_ne value_ne fun found same =>
      (continues found same).found⟩

theorem bind
    {first : Outcome RendezvousFactory PyError α}
    {next : RendezvousFactory → α → Outcome RendezvousFactory PyError β}
    (keeps : Keeps first)
    (continues : ∀ server value, TablesValid server → Keeps (next server value)) :
    Keeps (first.bind next) := by
  obtain ⟨valid, found⟩ := keeps
  unfold Outcome.bind
  cases returned : first.result with
  | error error =>
      rw [returned] at found
      refine ⟨valid, fun same => found ?_⟩
      rw [Except.error.inj same]
  | ok value => exact continues first.state value valid

end Keeps

theorem lookupKey_of_mem
    {α : Type}
    {dict : Dict Host α}
    {key : Host}
    (member : key ∈ dict.keys) :
    ∃ value, lookupKey dict key = .ok value ∧ dict.get? key = some value := by
  obtain ⟨value, found⟩ := Dict.exists_get?_of_mem_keys dict member
  exact ⟨value, by rw [lookupKey, found]; rfl, found⟩

theorem lookupKey_ne
    {α : Type}
    {dict : Dict Host α}
    {key : Host}
    (member : key ∈ dict.keys) :
    lookupKey dict key ≠ .error .keyError := by
  obtain ⟨value, found, -⟩ := lookupKey_of_mem member
  rw [found]
  exact Except.ok_ne_error

theorem get?_of_lookupKey
    {α : Type}
    {dict : Dict Host α}
    {key : Host}
    {value : α}
    (found : lookupKey dict key = .ok value) :
    dict.get? key = some value :=
  (Except.ofOption_eq_ok_iff _ _ _).mp found

/-! ## Changes of the tables -/

section
variable {server after : RendezvousFactory} {nodeIp : Host}

/-- A change outside the tables. -/
theorem TablesValid.of_same
    (valid : TablesValid server)
    (candidates : after.candidates = server.candidates)
    (passive : after.passive = server.passive)
    (simultaneous : after.simultaneous = server.simultaneous) :
    TablesValid after := by
  obtain ⟨⟨passiveOnce, simultaneousOnce, candidatesOnce⟩, listed, lists⟩ :=
    valid
  refine ⟨⟨?_, ?_, ?_⟩, ?_, ?_⟩
  · rwa [passive]
  · rwa [simultaneous]
  · rwa [candidates]
  · rwa [simultaneous, candidates]
  · rwa [candidates]

theorem sendLine_tables (con : ProtocolId) (msg : Text) :
    (server.sendLine con msg).candidates = server.candidates ∧
      (server.sendLine con msg).passive = server.passive ∧
      (server.sendLine con msg).simultaneous = server.simultaneous := by
  unfold RendezvousFactory.sendLine
  split <;> exact ⟨rfl, rfl, rfl⟩

theorem TablesValid.sendLine
    (valid : TablesValid server)
    (con : ProtocolId)
    (msg : Text) :
    TablesValid (server.sendLine con msg) :=
  valid.of_same (sendLine_tables con msg).1 (sendLine_tables con msg).2.1
    (sendLine_tables con msg).2.2

/-- A candidate list is replaced by another valid one. -/
theorem TablesValid.setList
    (valid : TablesValid server)
    {list : List Candidate}
    (list_valid : CandidatesValid nodeIp list) :
    TablesValid
      { server with candidates := server.candidates.set nodeIp list } where
  keysOnce := {
    passive := valid.keysOnce.passive
    simultaneous := valid.keysOnce.simultaneous
    candidates := Dict.nodup_keys_set valid.keysOnce.candidates nodeIp list }
  listed otherIp member :=
    (Dict.mem_keys_set _ _ _).mpr (Or.inr (valid.listed otherIp member))
  lists otherIp otherList found := by
    rw [Dict.get?_set] at found
    split at found
    next same =>
      cases found
      exact same ▸ list_valid
    · exact valid.lists otherIp otherList found

/-- A simultaneous node with a candidate list is listed. -/
theorem TablesValid.setNode
    (valid : TablesValid server)
    (node : ListedNode)
    (has_list : nodeIp ∈ server.candidates.keys) :
    TablesValid
      { server with
        simultaneous := server.simultaneous.set nodeIp node } where
  keysOnce := {
    passive := valid.keysOnce.passive
    simultaneous := Dict.nodup_keys_set valid.keysOnce.simultaneous nodeIp node
    candidates := valid.keysOnce.candidates }
  listed otherIp member := by
    rcases (Dict.mem_keys_set _ _ _).mp member with rfl | member
    · exact has_list
    · exact valid.listed otherIp member
  lists := valid.lists

theorem TablesValid.setPassive
    (valid : TablesValid server)
    {passive : Dict Host ListedNode}
    (once : passive.keys.Nodup) :
    TablesValid { server with passive } where
  keysOnce := {
    passive := once
    simultaneous := valid.keysOnce.simultaneous
    candidates := valid.keysOnce.candidates }
  listed := valid.listed
  lists := valid.lists

/-- Nodes are removed. -/
theorem TablesValid.fewerNodes
    (valid : TablesValid server)
    {simultaneous : Dict Host ListedNode}
    (once : simultaneous.keys.Nodup)
    (fewer : ∀ nodeIp ∈ simultaneous.keys,
      nodeIp ∈ server.simultaneous.keys) :
    TablesValid { server with simultaneous } where
  keysOnce := {
    passive := valid.keysOnce.passive
    simultaneous := once
    candidates := valid.keysOnce.candidates }
  listed otherIp member := valid.listed otherIp (fewer otherIp member)
  lists := valid.lists

/-- Candidate lists of nodes that are not listed are removed. -/
theorem TablesValid.fewerLists
    (valid : TablesValid server)
    {candidates : Dict Host (List Candidate)}
    (once : candidates.keys.Nodup)
    (some_list : ∀ entry ∈ candidates.entries,
      entry ∈ server.candidates.entries)
    (kept : ∀ nodeIp ∈ server.simultaneous.keys, nodeIp ∈ candidates.keys) :
    TablesValid { server with candidates } where
  keysOnce := {
    passive := valid.keysOnce.passive
    simultaneous := valid.keysOnce.simultaneous
    candidates := once }
  listed := kept
  lists otherIp list found :=
    valid.lists otherIp list (Dict.get?_of_mem valid.keysOnce.candidates
      (some_list _ (Dict.mem_of_get? found)))

end

/-! ## Candidates of a node -/

section
variable {server : RendezvousFactory} {nodeIp : Host}

theorem foldl_erase_sublist (old list : List Candidate) :
    (old.foldl List.erase list).Sublist list := by
  induction old generalizing list with
  | nil => exact List.Sublist.refl list
  | cons candidate old inductionHypothesis =>
      exact (inductionHypothesis _).trans List.erase_sublist

theorem cleanupCandidates_valid
    (valid : TablesValid server)
    (clock : Readings)
    (nodeIp : Host) :
    TablesValid (server.cleanupCandidates clock nodeIp) := by
  unfold RendezvousFactory.cleanupCandidates
  split
  · exact valid
  next listed found =>
    exact valid.setList
      ((valid.lists nodeIp listed found).sublist (foldl_erase_sublist _ _))

theorem cleanupCandidates_simultaneous (clock : Readings) :
    (server.cleanupCandidates clock nodeIp).simultaneous =
      server.simultaneous := by
  unfold RendezvousFactory.cleanupCandidates
  split <;> rfl

theorem challengeAll_keeps
    {list : List Candidate}
    (valid : TablesValid server)
    (listed : nodeIp ∈ server.simultaneous.keys) :
    Keeps (RendezvousFactory.challengeAll nodeIp server list) := by
  induction list generalizing server with
  | nil => exact Keeps.pure valid ()
  | cons candidate list inductionHypothesis =>
      rw [RendezvousFactory.challengeAll]
      split
      · exact inductionHypothesis valid listed
      · apply Keeps.attempt valid (lookupKey_ne listed)
        intro node _
        apply inductionHypothesis (valid.sendLine _ _)
        rwa [(sendLine_tables _ _).2.2]

theorem propogateCandidates_keeps
    (valid : TablesValid server)
    (listed : nodeIp ∈ server.simultaneous.keys) :
    Keeps (server.propogateCandidates nodeIp) := by
  unfold RendezvousFactory.propogateCandidates
  split
  · exact Keeps.pure valid ()
  · exact challengeAll_keeps valid listed

theorem staleNode_ne
    (listed : nodeIp ∈ server.simultaneous.keys)
    (list : List Candidate) :
    server.staleNode nodeIp list ≠ .error .keyError := by
  obtain ⟨node, found, -⟩ := lookupKey_of_mem listed
  induction list with
  | nil => exact Except.ok_ne_error
  | cons candidate list inductionHypothesis =>
      rw [RendezvousFactory.staleNode]
      split
      · exact inductionHypothesis
      · rw [found, Except.ok_bind]
        exact Except.ite_pure_ne_error inductionHypothesis

theorem synchronizeSimultaneous_keeps
    (valid : TablesValid server)
    (listed : nodeIp ∈ server.simultaneous.keys)
    (clock : Readings) :
    Keeps (server.synchronizeSimultaneous clock nodeIp) := by
  unfold RendezvousFactory.synchronizeSimultaneous
  apply Keeps.attempt valid (lookupKey_ne (valid.listed nodeIp listed))
  intro list _
  apply Keeps.attempt valid (staleNode_ne listed list)
  intro stale _
  split
  · exact Keeps.pure (valid.sendLine _ _) ()
  · apply propogateCandidates_keeps (cleanupCandidates_valid valid clock nodeIp)
    rwa [cleanupCandidates_simultaneous]

/-- A client is at most once in a list without its first candidate. -/
theorem withoutClient_spec
    {list : List Candidate}
    (once : (list.map Candidate.ipAddr).Nodup)
    (clientIp : Host) :
    (withoutClient clientIp list).Sublist list ∧
      ∀ candidate ∈ withoutClient clientIp list,
        candidate.ipAddr ≠ clientIp := by
  unfold withoutClient
  split
  next first found =>
    have first_client : first.ipAddr = clientIp := by
      simpa using List.find?_some found
    refine ⟨List.erase_sublist, fun candidate member same => ?_⟩
    have apart := (List.nodup_map_iff_inj_on once.of_map).mp once
    have in_list := List.mem_of_mem_erase member
    have same_candidate := apart candidate in_list first
      (List.mem_of_find?_eq_some found) (same.trans first_client.symm)
    rw [same_candidate] at member
    exact List.Nodup.not_mem_erase once.of_map member
  next none_found =>
    refine ⟨List.Sublist.refl list, fun candidate member => ?_⟩
    simpa using List.find?_eq_none.mp none_found candidate member

theorem withoutClient_append_valid
    {list : List Candidate}
    (list_valid : CandidatesValid nodeIp list)
    (not_full : list.length < maxCandidates)
    {candidate : Candidate}
    (foreign : candidate.ipAddr ≠ nodeIp) :
    CandidatesValid nodeIp
      (withoutClient candidate.ipAddr list ++ [candidate]) := by
  obtain ⟨part, others⟩ := withoutClient_spec list_valid.once candidate.ipAddr
  obtain ⟨few, once, apart⟩ := list_valid.sublist part
  refine ⟨?_, ?_, ?_⟩
  · have shorter := part.length_le
    rw [List.length_append, List.length_singleton]
    omega
  · rw [List.map_append, List.map_singleton, List.nodup_append]
    refine ⟨once, List.nodup_singleton _, ?_⟩
    intro ip member other single
    obtain ⟨stored, stored_mem, rfl⟩ := List.mem_map.mp member
    rw [List.mem_singleton.mp single]
    exact others stored stored_mem
  · intro stored member
    rcases List.mem_append.mp member with member | single
    · exact apart stored member
    · rw [List.mem_singleton.mp single]
      exact foreign

theorem map_ipAddr_markPropogated (clientIp : Host) (list : List Candidate) :
    (markPropogated clientIp list).map Candidate.ipAddr =
      list.map Candidate.ipAddr := by
  induction list with
  | nil => rfl
  | cons candidate list inductionHypothesis =>
      rw [markPropogated]
      split
      · rfl
      · rw [List.map_cons, List.map_cons, inductionHypothesis]

theorem markPropogated_valid
    {list : List Candidate}
    (list_valid : CandidatesValid nodeIp list)
    (clientIp : Host) :
    CandidatesValid nodeIp (markPropogated clientIp list) := by
  have same := map_ipAddr_markPropogated clientIp list
  refine ⟨?_, ?_, ?_⟩
  · have lengths := congrArg List.length same
    rw [List.length_map, List.length_map] at lengths
    rw [lengths]
    exact list_valid.few
  · rw [same]
    exact list_valid.once
  · intro candidate member
    have listed : candidate.ipAddr ∈ list.map Candidate.ipAddr :=
      same ▸ List.mem_map_of_mem member
    obtain ⟨other, other_mem, other_ip⟩ := List.mem_map.mp listed
    rw [← other_ip]
    exact list_valid.foreign other other_mem

end

/-! ## Connections -/

section
variable {env : RendezvousEnv} {server : RendezvousFactory}
  (valid : TablesValid server)
include valid

theorem connectionMade_keeps (con : ProtocolId) (clock : Readings) :
    Keeps (connectionMade env server con clock) := by
  have connected : TablesValid
      { server with connected := con :: server.connected } :=
    valid.of_same rfl rfl rfl
  cases found : server.simultaneous.get? (env.peer con).1 with
  | none =>
      simp only [connectionMade, found]
      exact Keeps.pure connected ()
  | some node =>
      simp only [connectionMade, found]
      apply synchronizeSimultaneous_keeps (connected.setNode _
        (valid.listed _ (Dict.mem_keys_of_get? found)))
      exact (Dict.mem_keys_set _ _ _).mpr (Or.inl rfl)

theorem withKeptNodes_valid (t : ℚ) :
    TablesValid (server.withKeptNodes t) := by
  have passive : (keptNodes t server.passive).keys.Nodup :=
    valid.keysOnce.passive.sublist (List.filter_sublist.map _)
  have simultaneous : (keptNodes t server.simultaneous).keys.Nodup :=
    valid.keysOnce.simultaneous.sublist (List.filter_sublist.map _)
  apply (valid.setPassive passive).fewerNodes simultaneous
  intro nodeIp member
  exact (List.filter_sublist.map _).mem member

/-- With the candidates of departed nodes their lists are removed. -/
theorem cleaned_valid
    {t : ℚ}
    (noneDeparted : (server.withKeptNodes t).NoneDeparted) :
    TablesValid (server.cleaned t) := by
  have nodes := withKeptNodes_valid valid t
  have kept := @keptCandidates_of_noneDeparted (server.withKeptNodes t) t
    noneDeparted
  change keptCandidates t (keptNodes t server.simultaneous)
    server.candidates = _ at kept
  have lists : TablesValid { server.withKeptNodes t with
      candidates := keptCandidates t (keptNodes t server.simultaneous)
        server.candidates } := by
    rw [kept]
    apply nodes.fewerLists
    · exact nodes.keysOnce.candidates.sublist (List.filter_sublist.map _)
    · intro entry stored
      exact List.mem_of_mem_filter stored
    · intro nodeIp listed
      obtain ⟨entry, stored, rfl⟩ :=
        List.mem_map.mp (nodes.listed nodeIp listed)
      refine List.mem_map_of_mem (List.mem_filter.mpr ⟨stored, ?_⟩)
      exact decide_eq_true
        (Or.inr ((Dict.contains_iff_mem_keys _ _).mpr listed))
  exact lists

/-- The clean-up keeps the tables well formed, whether it completes or not. -/
theorem cleanupTables_keeps (t : ℚ) : Keeps (cleanupTables server t) := by
  by_cases noneDeparted : (server.withKeptNodes t).NoneDeparted
  · rw [cleanupTables_of_noneDeparted valid.keysOnce noneDeparted]
    exact Keeps.pure (cleaned_valid valid noneDeparted) ()
  · rw [cleanupTables_of_departed valid.keysOnce noneDeparted]
    refine ⟨withKeptNodes_valid valid t, ?_⟩
    rw [Outcome.raise_result]
    exact fun same => PyError.noConfusion (Except.error.inj same)

theorem connectionLost_keeps (con : ProtocolId) (clock : Readings) :
    Keeps (connectionLost server con clock) := by
  unfold connectionLost
  simp only
  split
  · apply cleanupTables_keeps
    exact valid.of_same rfl rfl rfl
  · apply Keeps.pure
    exact valid.of_same rfl rfl rfl

/-! ## Lines -/

omit valid in
theorem bootstrapNodes_ne
    (ourIp : Host)
    (turns : Nat)
    (random : Nat → Nat)
    {ipAddrList : List Host}
    (listed : ∀ ipAddr ∈ ipAddrList, ipAddr ∈ server.passive.keys) :
    bootstrapNodes server.passive ourIp turns random ipAddrList ≠
      .error .keyError := by
  induction turns generalizing random ipAddrList with
  | zero => exact Except.ok_ne_error
  | succ turns inductionHypothesis =>
      rw [bootstrapNodes]
      split
      · exact Except.ok_ne_error
      next ipAddr drawn =>
        obtain ⟨element, found, -⟩ :=
          lookupKey_of_mem (listed ipAddr (List.mem_of_getElem? drawn))
        have others := fun random => @inductionHypothesis random
          (ipAddrList.erase ipAddr)
          fun other member => listed other (List.mem_of_mem_erase member)
        rw [found, Except.ok_bind]
        simp only
        split
        · exact others _
        · intro raised
          rcases (Except.bind_eq_error_iff _ _ _).mp raised with
            failed | ⟨_, -, returned⟩
          · exact others _ failed
          · cases returned

theorem bootstrapLine_keeps
    (con : ProtocolId)
    (line : Text)
    (random : Nat → Nat) :
    Keeps (bootstrapLine env server con line random) := by
  unfold bootstrapLine
  split
  · simp only
    split
    · exact Keeps.pure valid ()
    · apply Keeps.attempt valid
      · exact bootstrapNodes_ne _ _ _ fun _ member => member
      · intro named _
        exact Keeps.pure (valid.sendLine _ _) ()
  · exact Keeps.pure valid ()

theorem readyLine_keeps (con : ProtocolId) (line : Text) (clock : Readings) :
    Keeps (readyLine env server con line clock) := by
  unfold readyLine
  split
  · exact Keeps.pure valid ()
  · split
    next nodeType passivePort maxInbound _ =>
      simp only
      split
      · apply Keeps.pure
        exact valid.setPassive (Dict.nodup_keys_set valid.keysOnce.passive _ _)
      · split
        next has_list =>
          have registered := valid.setNode
            { maxInbound, port := passivePort, time := clock 0, con }
            ((Dict.contains_iff_mem_keys _ _).mp has_list)
          apply propogateCandidates_keeps
            (cleanupCandidates_valid registered clock.later _)
          rw [cleanupCandidates_simultaneous]
          exact (Dict.mem_keys_set _ _ _).mpr (Or.inl rfl)
        next no_list =>
          have listed := valid.setList (candidatesValid_nil (env.peer con).1)
          have registered := listed.setNode
            { maxInbound, port := passivePort, time := clock 0, con }
            ((Dict.mem_keys_set _ (env.peer con).1 _).mpr (Or.inl rfl))
          exact Keeps.pure registered ()
    · exact ⟨valid, fun same => PyError.noConfusion (Except.error.inj same)⟩

theorem sourceLine_keeps (con : ProtocolId) (line : Text) :
    Keeps (sourceLine env server con line) := by
  unfold sourceLine
  split
  · exact Keeps.pure valid ()
  · exact Keeps.pure (valid.sendLine _ _) ()

/-- A candidate is stored in a list that has room for it. -/
theorem storeCandidate_keeps
    {nodeIp : Host}
    (listed : nodeIp ∈ server.simultaneous.keys)
    {candidate : Candidate}
    (foreign : candidate.ipAddr ≠ nodeIp) :
    storeCandidate server nodeIp candidate ≠ .error .keyError ∧
      ∀ after, storeCandidate server nodeIp candidate = .ok (some after) →
        TablesValid after ∧ nodeIp ∈ after.simultaneous.keys := by
  obtain ⟨list, found, stored⟩ := lookupKey_of_mem (valid.listed nodeIp listed)
  unfold storeCandidate
  rw [stored]
  simp only [decide_eq_true_eq]
  split
  · exact ⟨Except.ok_ne_error, fun after same => by cases same⟩
  next room =>
    rw [found, Except.ok_bind]
    refine ⟨Except.ok_ne_error, ?_⟩
    rintro after ⟨⟩
    refine ⟨valid.setList ?_, listed⟩
    exact withoutClient_append_valid (valid.lists nodeIp list stored)
      (Nat.lt_of_not_le room) foreign

theorem candidateLine_keeps (con : ProtocolId) (line : Text) (clock : Readings) :
    Keeps (candidateLine env server con line clock) := by
  unfold candidateLine
  split
  next nodeText proto predictionsText _ =>
    simp only
    split
    · exact Keeps.pure valid ()
    next checked =>
      simp only [not_or, Bool.not_eq_false] at checked
      obtain ⟨-, contained, foreign, -⟩ := checked
      have listed := (Dict.contains_iff_mem_keys _ _).mp contained
      apply Keeps.attempt valid (lookupKey_ne listed)
      intro node _
      split
      · exact Keeps.pure valid ()
      · have stores := @storeCandidate_keeps _ valid _ listed {
            ipAddr := (env.peer con).1
            time := clock 0
            predictions := predictionsText.splitOn ' '
            proto := proto
            con := con
            propogated := false } (Ne.symm foreign)
        apply Keeps.attempt valid stores.1
        intro stored same
        cases stored with
        | none => exact Keeps.pure valid ()
        | some after =>
            obtain ⟨after_valid, after_listed⟩ := stores.2 after same
            apply synchronizeSimultaneous_keeps (after_valid.sendLine _ _)
            rwa [(sendLine_tables _ _).2.2]
  · exact Keeps.pure valid ()

theorem acceptLine_keeps (con : ProtocolId) (line : Text) (clock : Readings) :
    Keeps (acceptLine env server con line clock) := by
  unfold acceptLine
  split
  next clientText predictionsText proto ntp _ =>
    simp only
    split
    · exact Keeps.pure valid ()
    next checked =>
      simp only [not_or, Bool.not_eq_false] at checked
      have has_list := (Dict.contains_iff_mem_keys _ _).mp checked.1
      apply Keeps.attempt valid
      · exact Except.ofOption_ne_error _ PyError.noConfusion
      · intro seconds _
        split
        · exact Keeps.pure valid ()
        · apply Keeps.attempt valid (lookupKey_ne has_list)
          intro list found
          split
          · exact Keeps.pure valid ()
          next candidate _ =>
            apply Keeps.pure
            apply (valid.sendLine _ _).setList
            exact markPropogated_valid
              (valid.lists _ list (get?_of_lookupKey found)) _
  · exact Keeps.pure valid ()

omit valid in
/-- A key is deleted if it is there. -/
theorem deleteKey_if_contained
    {α : Type}
    (dict : Dict Host α)
    (key : Host) :
    (if dict.contains key then deleteKey dict key else .ok dict) =
        .ok (dict.erase key) ∨
      (if dict.contains key then deleteKey dict key else .ok dict) =
        .ok dict := by
  by_cases contained : dict.contains key = true
  · rw [if_pos contained, deleteKey, if_pos contained]
    exact Or.inl rfl
  · rw [if_neg contained]
    exact Or.inr rfl

theorem clearLine_keeps (con : ProtocolId) (line : Text) :
    Keeps (clearLine env server con line) := by
  have nodes (passive : Dict Host ListedNode)
      (once : passive.keys.Nodup) :
      Keeps (Outcome.attempt { server with passive }
        (if server.simultaneous.contains (env.peer con).1 then
          deleteKey server.simultaneous (env.peer con).1
        else .ok server.simultaneous) fun simultaneous =>
          Outcome.pure { server with passive, simultaneous } ()) := by
    have passive_valid := valid.setPassive once
    rcases deleteKey_if_contained server.simultaneous (env.peer con).1 with
      erased | unchanged
    · rw [erased]
      apply Keeps.pure
      apply passive_valid.fewerNodes
        (Dict.nodup_keys_erase valid.keysOnce.simultaneous _)
      intro nodeIp member
      exact (Dict.mem_keys_erase.mp member).1
    · rw [unchanged]
      exact Keeps.pure passive_valid ()
  unfold clearLine
  split
  · exact Keeps.pure valid ()
  · simp only
    rcases deleteKey_if_contained server.passive (env.peer con).1 with
      erased | unchanged
    · rw [erased]
      exact nodes _ (Dict.nodup_keys_erase valid.keysOnce.passive _)
    · rw [unchanged]
      exact nodes _ valid.keysOnce.passive

theorem lineReceived_keeps
    (con : ProtocolId)
    (line : Option Text)
    (clock : Readings)
    (random : Nat → Nat) :
    Keeps (lineReceived env server con line clock random) := by
  cases line with
  | none => exact Keeps.pure valid ()
  | some line =>
      unfold lineReceived
      apply (bootstrapLine_keeps valid con line random).bind
      intro server _ valid
      apply (readyLine_keeps valid con line clock).bind
      intro server _ valid
      apply (sourceLine_keeps valid con line).bind
      intro server _ valid
      apply (candidateLine_keeps valid con line clock).bind
      intro server _ valid
      apply (acceptLine_keeps valid con line clock).bind
      intro server _ valid
      exact clearLine_keeps valid con line

/-- Every handler keeps the tables well formed and raises no missing-key
error. -/
theorem rendezvousHandler_keeps (event : RendezvousEvent) :
    Keeps (rendezvousHandler env server event) := by
  cases event with
  | connectionMade con clock => exact connectionMade_keeps valid con clock
  | connectionLost con clock => exact connectionLost_keeps valid con clock
  | lineReceived con line clock random =>
      exact lineReceived_keeps valid con line clock random

end

theorem new_valid (t : ℚ) : TablesValid (RendezvousFactory.new t) where
  keysOnce := {
    passive := List.nodup_nil
    simultaneous := List.nodup_nil
    candidates := List.nodup_nil }
  listed := by
    intro nodeIp member
    cases member
  lists := by
    intro nodeIp list found
    cases found

/-- After every sequence of events the tables are well formed, and the next
handler raises no missing-key error. -/
theorem rendezvousRun_valid
    (env : RendezvousEnv)
    (t : ℚ)
    (events : List RendezvousEvent) :
    let server :=
      Machine.run (rendezvousStep env) (RendezvousFactory.new t) events
    (∀ nodeIp ∈ server.simultaneous.keys, nodeIp ∈ server.candidates.keys) ∧
      (∀ nodeIp list, server.candidates.get? nodeIp = some list →
        list.length ≤ maxCandidates ∧
          (list.map Candidate.ipAddr).Nodup ∧
          ∀ candidate ∈ list, candidate.ipAddr ≠ nodeIp) ∧
      ∀ event, (rendezvousHandler env server event).result ≠
        .error .keyError := by
  have valid : TablesValid
      (Machine.run (rendezvousStep env) (RendezvousFactory.new t) events) :=
    @Machine.invariant_always _ _ (rendezvousStep env) TablesValid
      (fun server event before => (rendezvousHandler_keeps before event).valid)
      _ (new_valid t) events
  refine ⟨valid.listed, fun nodeIp list found => ?_, fun event =>
    (rendezvousHandler_keeps valid event).found⟩
  have list_valid := valid.lists nodeIp list found
  exact ⟨list_valid.few, list_valid.once, list_valid.foreign⟩

end Coinbend
