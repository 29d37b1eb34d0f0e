import Coinbend.Rendezvous.Defs

/-!
# The five-minute clean-up

The clean-up of `connectionLost` reads the attribute `challenge_timeout`, which
is never set, but only for a candidate of a node that is not listed any more.
It completes exactly when there is no such candidate.
-/

namespace Coinbend

/-! ## Deleting keys -/

section
variable {α : Type}

theorem deleteKey_of_mem
    {dict : Dict Host α}
    {key : Host}
    (member : key ∈ dict.keys) :
    deleteKey dict key = .ok (dict.erase key) :=
  if_pos ((Dict.contains_iff_mem_keys dict key).mpr member)

/-- Deleting some of the keys leaves the entries of the others. -/
theorem deleteKeys_of_subset
    {dict : Dict Host α}
    {old : List Host}
    (once : old.Nodup)
    (stored : ∀ key ∈ old, key ∈ dict.keys) :
    deleteKeys dict old =
      .ok ⟨dict.entries.filter fun entry => entry.1 ∉ old⟩ := by
  induction old generalizing dict with
  | nil => simp [deleteKeys]
  | cons key old inductionHypothesis =>
      obtain ⟨new, once⟩ := List.nodup_cons.mp once
      obtain ⟨key_stored, stored⟩ := List.forall_mem_cons.mp stored
      have still_stored : ∀ other ∈ old, other ∈ (dict.erase key).keys := by
        intro other member
        refine Dict.mem_keys_erase.mpr ⟨stored other member, ?_⟩
        rintro rfl
        exact new member
      rw [deleteKeys, deleteKey_of_mem key_stored, Except.ok_bind,
        inductionHypothesis once still_stored, Dict.erase, List.filter_filter]
      congr 2
      apply List.filter_congr
      intro entry _
      simp only [List.mem_cons, not_or, ne_eq, Bool.decide_and]
      exact Bool.and_comm _ _

/-- Deleting the keys of the entries that fail a test leaves those that pass
it. -/
theorem deleteKeys_failing
    {dict : Dict Host α}
    (distinct : dict.keys.Nodup)
    (passes : Host × α → Bool) :
    deleteKeys dict
        ((dict.entries.filter fun entry => !passes entry).map Prod.fst) =
      .ok ⟨dict.entries.filter passes⟩ := by
  rw [deleteKeys_of_subset]
  · congr 2
    apply List.filter_congr
    intro entry stored
    rw [Bool.eq_iff_iff, decide_eq_true_eq]
    constructor
    · intro kept
      by_contra fails
      refine kept (List.mem_map_of_mem (List.mem_filter.mpr ⟨stored, ?_⟩))
      rw [Bool.not_eq_true']
      exact Bool.not_eq_true _ ▸ fails
    · intro kept deleted
      obtain ⟨other, listed, same_key⟩ := List.mem_map.mp deleted
      obtain ⟨other_stored, fails⟩ := List.mem_filter.mp listed
      have same := List.inj_on_of_nodup_map distinct other_stored stored same_key
      rw [same, kept] at fails
      cases fails
  · exact distinct.sublist (List.filter_sublist.map _)
  · intro key member
    obtain ⟨entry, listed, rfl⟩ := List.mem_map.mp member
    exact List.mem_map_of_mem (List.mem_of_mem_filter listed)

end

/-! ## What is kept -/

/-- The nodes younger than their lifetime. -/
def keptNodes (t : ℚ) (nodes : Dict Host ListedNode) : Dict Host ListedNode :=
  ⟨nodes.entries.filter fun entry => t - entry.2.time < nodeLifetime⟩

/-- What is kept of a candidate list: all of it while its node is listed, and
otherwise the candidates younger than five timeouts, if there are any. -/
def keptList
    (t : ℚ)
    (nodes : Dict Host ListedNode)
    (entry : Host × List Candidate) : Option (Host × List Candidate) :=
  if nodes.contains entry.1 then some entry
  else
    let young := entry.2.filter fun candidate =>
      t - candidate.time < challegeTimeout * 5
    if young = [] then none else some (entry.1, young)

def keptCandidates
    (t : ℚ)
    (nodes : Dict Host ListedNode)
    (candidates : Dict Host (List Candidate)) : Dict Host (List Candidate) :=
  ⟨candidates.entries.filterMap (keptList t nodes)⟩

/-- The keys of each table are distinct, as those of every dictionary. -/
structure RendezvousFactory.KeysOnce (server : RendezvousFactory) : Prop where
  passive : server.passive.keys.Nodup
  simultaneous : server.simultaneous.keys.Nodup
  candidates : server.candidates.keys.Nodup

/-- The tables after a complete clean-up. -/
def RendezvousFactory.cleaned (server : RendezvousFactory) (t : ℚ) :
    RendezvousFactory :=
  let simultaneous := keptNodes t server.simultaneous
  { server with
    passive := keptNodes t server.passive
    simultaneous
    candidates := keptCandidates t simultaneous server.candidates }

/-- The handler finishes without an error and leaves what is to be kept. -/
def CleanupCompletes
    (server : RendezvousFactory)
    (con : ProtocolId)
    (clock : Readings) : Prop :=
  connectionLost server con clock =
    Outcome.pure
      ({ server with
        connected := server.connected.filter (· ≠ con)
        lastCleanup := clock 0 }.cleaned (clock 0)) ()

/-- No candidate belongs to a node that is not listed. -/
def RendezvousFactory.NoneDeparted (server : RendezvousFactory) : Prop :=
  ∀ entry ∈ server.candidates.entries, entry.2 ≠ [] →
    server.simultaneous.contains entry.1 = true

theorem deleteKeys_oldNodeIps
    {nodes : Dict Host ListedNode}
    (distinct : nodes.keys.Nodup)
    (t : ℚ) :
    deleteKeys nodes (oldNodeIps t nodes) = .ok (keptNodes t nodes) := by
  rw [keptNodes, ← deleteKeys_failing distinct, oldNodeIps]
  simp only [← decide_not, not_lt]

/-! ## The candidate lists -/

theorem oldCandidates_listed (t : ℚ) (list : List Candidate) :
    oldCandidates t true list = .ok [] := by
  induction list with
  | nil => rfl
  | cons candidate list inductionHypothesis =>
      rw [oldCandidates, inductionHypothesis]
      rfl

theorem oldCandidates_departed
    (t : ℚ)
    {list : List Candidate}
    (nonempty : list ≠ []) :
    oldCandidates t false list = .error .attributeError := by
  cases list with
  | nil => exact absurd rfl nonempty
  | cons candidate list => rfl

section
variable {t : ℚ} {server : RendezvousFactory}

/-- An empty list of a node that is not listed is deleted. -/
def RendezvousFactory.EmptyAndDeparted
    (server : RendezvousFactory)
    (nodeIp : Host) : Prop :=
  server.candidates.get? nodeIp = some [] ∧
    server.simultaneous.contains nodeIp = false

instance (nodeIp : Host) : Decidable (server.EmptyAndDeparted nodeIp) :=
  inferInstanceAs (Decidable (_ ∧ _))

/-- Without candidates of departed nodes the loop changes nothing. -/
theorem cleanCandidateLists_of_listed
    {nodeIps : List Host}
    (stored : ∀ nodeIp ∈ nodeIps, nodeIp ∈ server.candidates.keys)
    (noneDeparted : ∀ nodeIp ∈ nodeIps, ∀ list,
      server.candidates.get? nodeIp = some list → list ≠ [] →
        server.simultaneous.contains nodeIp = true) :
    cleanCandidateLists t server nodeIps =
      Outcome.pure server
        (nodeIps.filter fun nodeIp => server.EmptyAndDeparted nodeIp) := by
  induction nodeIps with
  | nil => rfl
  | cons nodeIp nodeIps inductionHypothesis =>
      obtain ⟨key_stored, stored⟩ := List.forall_mem_cons.mp stored
      obtain ⟨list_listed, noneDeparted⟩ :=
        List.forall_mem_cons.mp noneDeparted
      obtain ⟨list, found⟩ :=
        Dict.exists_get?_of_mem_keys server.candidates key_stored
      have nothing_old : oldCandidates t
          (server.simultaneous.contains nodeIp) list = .ok [] := by
        by_cases empty : list = []
        · rw [empty]
          rfl
        · rw [list_listed list found empty]
          exact oldCandidates_listed t list
      have unchanged : { server with
          candidates := server.candidates.set nodeIp list } = server := by
        rw [Dict.set_of_get? found]
      rw [cleanCandidateLists, lookupKey, found]
      simp only [Except.ofOption, Outcome.attempt_ok, nothing_old,
        List.foldl_nil, unchanged, inductionHypothesis stored noneDeparted]
      rw [Outcome.bind_of_ok rfl, Outcome.pure_state, List.filter_cons]
      have deleted_iff : server.EmptyAndDeparted nodeIp ↔
          list = [] ∧ server.simultaneous.contains nodeIp = false := by
        rw [RendezvousFactory.EmptyAndDeparted, found, Option.some.injEq]
      refine congrArg (Outcome.pure server) (if_congr ?_ rfl rfl)
      rw [decide_eq_true_eq]
      exact deleted_iff.symm

/-- The first candidate of a departed node ends the loop before anything is
changed. -/
theorem cleanCandidateLists_of_departed
    {nodeIps : List Host}
    (stored : ∀ nodeIp ∈ nodeIps, nodeIp ∈ server.candidates.keys)
    (departed : ∃ nodeIp ∈ nodeIps, ∃ list,
      server.candidates.get? nodeIp = some list ∧ list ≠ [] ∧
        server.simultaneous.contains nodeIp = false) :
    cleanCandidateLists t server nodeIps =
      Outcome.raise server .attributeError := by
  induction nodeIps with
  | nil =>
      obtain ⟨nodeIp, member, -⟩ := departed
      cases member
  | cons nodeIp nodeIps inductionHypothesis =>
      obtain ⟨key_stored, stored⟩ := List.forall_mem_cons.mp stored
      obtain ⟨list, found⟩ :=
        Dict.exists_get?_of_mem_keys server.candidates key_stored
      rw [cleanCandidateLists, lookupKey, found]
      by_cases here : list ≠ [] ∧ server.simultaneous.contains nodeIp = false
      · simp only [Except.ofOption, Outcome.attempt_ok, here.2,
          oldCandidates_departed t here.1]
        rfl
      · have nothing_old : oldCandidates t
            (server.simultaneous.contains nodeIp) list = .ok [] := by
          by_cases empty : list = []
          · rw [empty]
            rfl
          · rw [not_and, Bool.not_eq_false] at here
            rw [here empty]
            exact oldCandidates_listed t list
        have unchanged : { server with
            candidates := server.candidates.set nodeIp list } = server := by
          rw [Dict.set_of_get? found]
        have later : ∃ nodeIp ∈ nodeIps, ∃ list,
            server.candidates.get? nodeIp = some list ∧ list ≠ [] ∧
              server.simultaneous.contains nodeIp = false := by
          obtain ⟨other, member, otherList, other_found, some_candidate⟩ :=
            departed
          rcases List.mem_cons.mp member with rfl | member
          · rw [found, Option.some.injEq] at other_found
            subst other_found
            exact absurd some_candidate here
          · exact ⟨other, member, otherList, other_found, some_candidate⟩
        simp only [Except.ofOption, Outcome.attempt_ok, nothing_old,
          List.foldl_nil, unchanged, inductionHypothesis stored later]
        rfl

end

/-! ## Completion -/

section
variable {server : RendezvousFactory} {t : ℚ}

/-- A candidate list stays unless it is empty and its node is not listed. -/
def RendezvousFactory.stays
    (server : RendezvousFactory)
    (entry : Host × List Candidate) : Bool :=
  entry.2 ≠ [] ∨ server.simultaneous.contains entry.1

theorem keptCandidates_of_noneDeparted
    (noneDeparted : server.NoneDeparted) :
    keptCandidates t server.simultaneous server.candidates =
      ⟨server.candidates.entries.filter server.stays⟩ := by
  rw [keptCandidates, ← List.filterMap_eq_filter]
  congr 1
  apply List.filterMap_congr
  intro entry stored
  unfold keptList
  by_cases listed : entry.1 ∈ server.simultaneous.keys
  · simp [RendezvousFactory.stays, listed, Option.guard]
  · have empty : entry.2 = [] := by
      by_contra nonempty
      exact listed ((Dict.contains_iff_mem_keys _ _).mp
        (noneDeparted entry stored nonempty))
    simp [RendezvousFactory.stays, listed, empty, Option.guard]

/-- Once the nodes are cleaned, the candidate lists are cleaned when no
candidate belongs to a departed node. -/
theorem deleteKeys_emptyLists
    (distinct : server.candidates.keys.Nodup)
    (noneDeparted : server.NoneDeparted) :
    deleteKeys server.candidates
        (server.candidates.keys.filter fun nodeIp =>
          server.EmptyAndDeparted nodeIp) =
      .ok (keptCandidates t server.simultaneous server.candidates) := by
  have deleted : (server.candidates.keys.filter fun nodeIp =>
        server.EmptyAndDeparted nodeIp) =
      (server.candidates.entries.filter fun entry => !server.stays entry).map
        Prod.fst := by
    rw [Dict.keys, List.filter_map]
    congr 1
    apply List.filter_congr
    intro entry stored
    have found := Dict.get?_of_mem distinct stored
    rw [Bool.eq_iff_iff]
    simp [RendezvousFactory.stays, RendezvousFactory.EmptyAndDeparted, found]
  rw [deleted, deleteKeys_failing distinct server.stays,
    keptCandidates_of_noneDeparted noneDeparted]

/-- The server once the old nodes are removed. -/
def RendezvousFactory.withKeptNodes (server : RendezvousFactory) (t : ℚ) :
    RendezvousFactory :=
  { server with
    passive := keptNodes t server.passive
    simultaneous := keptNodes t server.simultaneous }

/-- The old nodes are always removed. -/
theorem cleanupTables_eq
    (keysOnce : server.KeysOnce) :
    cleanupTables server t =
      (cleanCandidateLists t (server.withKeptNodes t)
        server.candidates.keys).bind fun server oldIps =>
          Outcome.attempt server (deleteKeys server.candidates oldIps)
            fun candidates => Outcome.pure { server with candidates } () := by
  rw [cleanupTables, deleteKeys_oldNodeIps keysOnce.passive,
    Outcome.attempt_ok]
  change Outcome.attempt _
    (deleteKeys server.simultaneous (oldNodeIps t server.simultaneous)) _ = _
  rw [deleteKeys_oldNodeIps keysOnce.simultaneous]
  rfl

/-- The clean-up leaves what is to be kept when no candidate belongs to a node
that departed. -/
theorem cleanupTables_of_noneDeparted
    (keysOnce : server.KeysOnce)
    (noneDeparted : (server.withKeptNodes t).NoneDeparted) :
    cleanupTables server t = Outcome.pure (server.cleaned t) () := by
  have lists := @cleanCandidateLists_of_listed t (server.withKeptNodes t)
    server.candidates.keys (fun nodeIp member => member)
    (fun nodeIp _ list found nonempty =>
      noneDeparted (nodeIp, list) (Dict.mem_of_get? found) nonempty)
  have deleted := @deleteKeys_emptyLists (server.withKeptNodes t) t
    keysOnce.candidates noneDeparted
  rw [cleanupTables_eq keysOnce, lists, Outcome.bind_of_ok rfl]
  change Outcome.attempt _ (deleteKeys (server.withKeptNodes t).candidates
    ((server.withKeptNodes t).candidates.keys.filter _)) _ = _
  rw [deleted]
  rfl

/-- Otherwise it ends with an error once the nodes are removed. -/
theorem cleanupTables_of_departed
    (keysOnce : server.KeysOnce)
    (departed : ¬(server.withKeptNodes t).NoneDeparted) :
    cleanupTables server t =
      Outcome.raise (server.withKeptNodes t) .attributeError := by
  unfold RendezvousFactory.NoneDeparted at departed
  push Not at departed
  obtain ⟨⟨nodeIp, list⟩, stored, nonempty, unlisted⟩ := departed
  have failed := @cleanCandidateLists_of_departed t (server.withKeptNodes t)
    server.candidates.keys (fun nodeIp member => member)
    ⟨nodeIp, List.mem_map_of_mem stored, list,
      Dict.get?_of_mem keysOnce.candidates stored, nonempty,
      Bool.not_eq_true _ ▸ unlisted⟩
  rw [cleanupTables_eq keysOnce, failed]
  rfl

/-- The clean-up completes exactly when every node with a candidate is listed
and younger than its lifetime. -/
theorem cleanup_completes_iff
    {con : ProtocolId}
    {clock : Readings}
    (keysOnce : server.KeysOnce)
    (due : cleanupInterval ≤ clock 1 - server.lastCleanup) :
    CleanupCompletes server con clock ↔
      (server.withKeptNodes (clock 0)).NoneDeparted := by
  rw [CleanupCompletes, connectionLost]
  simp only [if_pos due]
  have sameKeys : ({ server with
      connected := server.connected.filter (· ≠ con)
      lastCleanup := clock 0 } : RendezvousFactory).KeysOnce :=
    ⟨keysOnce.passive, keysOnce.simultaneous, keysOnce.candidates⟩
  constructor
  · intro completes
    by_contra departed
    have failed := @cleanupTables_of_departed _ (clock 0) sameKeys departed
    rw [completes] at failed
    exact Except.ok_ne_error (congrArg Outcome.result failed)
  · intro noneDeparted
    exact @cleanupTables_of_noneDeparted _ (clock 0) sameKeys noneDeparted

end

namespace Sample

/-- A node that asked for challenges at a time. -/
def waitingNode (time : ℚ) : ListedNode where
  maxInbound := ['1']
  port := ['0']
  time := time
  con := 1

/-- A candidate of the first second. -/
def earlyCandidate : Candidate where
  ipAddr := "9.9.9.9"
  time := 1
  predictions := [['5']]
  proto := "TCP".toList
  con := 2
  propogated := false

/-- A server with one candidate for a node, which is listed since a time. -/
def candidateServer (time : ℚ) : RendezvousFactory where
  lastCleanup := 0
  candidates := ⟨[("8.8.8.8", [earlyCandidate])]⟩
  passive := ⟨[("7.7.7.7", waitingNode 0)]⟩
  simultaneous := ⟨[("8.8.8.8", waitingNode time)]⟩
  connected := [3]
  sent := []

theorem candidateServer_keysOnce (time : ℚ) :
    (candidateServer time).KeysOnce where
  passive := List.nodup_singleton _
  simultaneous := List.nodup_singleton _
  candidates := List.nodup_singleton _

/-- The twelfth hour of a day. -/
def noon : Readings := fun _ => nodeLifetime

end Sample

/-- The clean-up completes while the node of the candidate is young. -/
theorem cleanup_completes_of_young :
    CleanupCompletes (Sample.candidateServer 1) 3 Sample.noon :=
  (cleanup_completes_iff (Sample.candidateServer_keysOnce 1)
    (by decide +kernel)).mpr (by
      unfold RendezvousFactory.NoneDeparted
      decide +kernel)

/-- It fails when the node of the candidate has just been removed: the
candidate stays, and the passive nodes alone are cleaned. -/
theorem cleanup_fails_for_departed :
    ¬CleanupCompletes (Sample.candidateServer 0) 3 Sample.noon ∧
      (connectionLost (Sample.candidateServer 0) 3 Sample.noon).result =
        .error .attributeError ∧
      (connectionLost (Sample.candidateServer 0) 3
        Sample.noon).state.candidates.keys = ["8.8.8.8"] := by
  have raised : (connectionLost (Sample.candidateServer 0) 3
      Sample.noon).result = .error .attributeError := by
    decide +kernel
  refine ⟨?_, raised, by decide +kernel⟩
  intro completes
  rw [completes] at raised
  cases raised

end Coinbend
