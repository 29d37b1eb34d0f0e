import Coinbend.Server.Defs

/-!
# What a step of the contract server changes

A step leaves every registered setup as it is: it adds collateral, chunk sizes
and addresses, which no lock or link depends on; it registers a new instance
without any; or it locks and links the two outputs of a contract.
-/

namespace Coinbend

variable {Hex : Type}

/-- An instance after changes that touch neither its setup nor its locks and
links, and forget no collateral. -/
structure Instance.Quiet (before after : Instance Hex) : Prop where
  owner : after.owner = before.owner
  details : after.details = before.details
  locked : after.locked = before.locked
  links : after.links = before.links
  collateral : ∀ contractHash,
    (before.collateralInfo.get? contractHash).isSome →
      (after.collateralInfo.get? contractHash).isSome

theorem Instance.Quiet.refl (found : Instance Hex) : found.Quiet found where
  owner := rfl
  details := rfl
  locked := rfl
  links := rfl
  collateral := fun _ known => known

theorem Instance.Quiet.trans
    {first second third : Instance Hex}
    (before : first.Quiet second)
    (after : second.Quiet third) :
    first.Quiet third where
  owner := after.owner.trans before.owner
  details := after.details.trans before.details
  locked := after.locked.trans before.locked
  links := after.links.trans before.links
  collateral := fun contractHash known =>
    after.collateral contractHash (before.collateral contractHash known)

/-- Storing more collateral is quiet. -/
theorem Instance.quiet_setCollateral
    (found : Instance Hex)
    (contractHash : ContractHash)
    (info : CollateralMsg) :
    found.Quiet
      { found with
        collateralInfo := found.collateralInfo.set contractHash info } where
  owner := rfl
  details := rfl
  locked := rfl
  links := rfl
  collateral := by
    intro other known
    simp only [Dict.get?_set]
    split
    · rfl
    · exact known

namespace ContractServer

/-! ## Changing one instance -/

theorem get?_modifyInstance
    (server : ContractServer Hex)
    (id other : InstanceId)
    (change : Instance Hex → Instance Hex) :
    (server.modifyInstance id change).instances.get? other =
      if other = id then (server.instances.get? id).map change
      else server.instances.get? other := by
  unfold modifyInstance
  cases stored : server.instances.get? id with
  | none =>
      simp only [Option.map_none]
      split
      next same => rw [same, stored]
      · rfl
  | some found => exact Dict.get?_set _ _ _ _

@[simp] theorem greenAddresses_modifyInstance
    (server : ContractServer Hex)
    (id : InstanceId)
    (change : Instance Hex → Instance Hex) :
    (server.modifyInstance id change).greenAddresses =
      server.greenAddresses := by
  unfold modifyInstance
  split <;> rfl

@[simp] theorem clients_modifyInstance
    (server : ContractServer Hex)
    (id : InstanceId)
    (change : Instance Hex → Instance Hex) :
    (server.modifyInstance id change).clients = server.clients := by
  unfold modifyInstance
  split <;> rfl

@[simp] theorem matched_modifyInstance
    (server : ContractServer Hex)
    (id : InstanceId)
    (change : Instance Hex → Instance Hex) :
    (server.modifyInstance id change).matched = server.matched := by
  unfold modifyInstance
  split <;> rfl

@[simp] theorem sent_modifyInstance
    (server : ContractServer Hex)
    (id : InstanceId)
    (change : Instance Hex → Instance Hex) :
    (server.modifyInstance id change).sent = server.sent := by
  unfold modifyInstance
  split <;> rfl

/-- An instance of the changed server is the changed one or an old one. -/
theorem mem_modifyInstance
    {server : ContractServer Hex}
    {id other : InstanceId}
    {change : Instance Hex → Instance Hex}
    {found : Instance Hex}
    (stored : (server.modifyInstance id change).instances.get? other =
      some found) :
    ∃ old, server.instances.get? other = some old ∧
      (other = id ∧ found = change old ∨ other ≠ id ∧ found = old) := by
  rw [get?_modifyInstance] at stored
  split at stored
  next same =>
    obtain ⟨old, isOld, rfl⟩ := Option.map_eq_some_iff.mp stored
    exact ⟨old, same ▸ isOld, Or.inl ⟨same, rfl⟩⟩
  next different => exact ⟨found, stored, Or.inr ⟨different, rfl⟩⟩

/-! ## Quiet steps -/

/-- A server after changes to its instances that are quiet. -/
structure Quiet (before after : ContractServer Hex) : Prop where
  greenAddresses : after.greenAddresses = before.greenAddresses
  clients : after.clients = before.clients
  matched : after.matched = before.matched
  sent : after.sent = before.sent
  forward : ∀ id old, before.instances.get? id = some old →
    ∃ found, after.instances.get? id = some found ∧ old.Quiet found
  backward : ∀ id found, after.instances.get? id = some found →
    ∃ old, before.instances.get? id = some old ∧ old.Quiet found

theorem Quiet.refl (server : ContractServer Hex) : server.Quiet server where
  greenAddresses := rfl
  clients := rfl
  matched := rfl
  sent := rfl
  forward := fun _ old stored => ⟨old, stored, .refl old⟩
  backward := fun _ found stored => ⟨found, stored, .refl found⟩

theorem Quiet.trans
    {first second third : ContractServer Hex}
    (before : first.Quiet second)
    (after : second.Quiet third) :
    first.Quiet third where
  greenAddresses := after.greenAddresses.trans before.greenAddresses
  clients := after.clients.trans before.clients
  matched := after.matched.trans before.matched
  sent := after.sent.trans before.sent
  forward := by
    intro id old stored
    obtain ⟨middle, isMiddle, quiet⟩ := before.forward id old stored
    obtain ⟨found, isFound, quiet'⟩ := after.forward id middle isMiddle
    exact ⟨found, isFound, quiet.trans quiet'⟩
  backward := by
    intro id found stored
    obtain ⟨middle, isMiddle, quiet'⟩ := after.backward id found stored
    obtain ⟨old, isOld, quiet⟩ := before.backward id middle isMiddle
    exact ⟨old, isOld, quiet.trans quiet'⟩

theorem quiet_modifyInstance
    (server : ContractServer Hex)
    (id : InstanceId)
    {change : Instance Hex → Instance Hex}
    (quiet : ∀ found : Instance Hex, found.Quiet (change found)) :
    server.Quiet (server.modifyInstance id change) where
  greenAddresses := greenAddresses_modifyInstance server id change
  clients := clients_modifyInstance server id change
  matched := matched_modifyInstance server id change
  sent := sent_modifyInstance server id change
  forward := by
    intro other old stored
    rw [get?_modifyInstance]
    split
    next same =>
      subst same
      rw [stored]
      exact ⟨change old, rfl, quiet old⟩
    · exact ⟨old, stored, .refl old⟩
  backward := by
    intro other found stored
    obtain ⟨old, isOld, ⟨_, rfl⟩ | ⟨_, rfl⟩⟩ := mem_modifyInstance stored
    · exact ⟨old, isOld, quiet old⟩
    · exact ⟨found, isOld, .refl found⟩

/-- What holds of a `MATCH` message that passes the checks. -/
structure Accepts
    (env : ServerEnv Hex)
    (msg : MatchMsg)
    (contract : ParsedContract)
    (actor : Actor) : Prop where
  parsed : parseContract env.tradeContext env.ecdsa.load env.contractHash
    msg.contractMsg = .ok contract
  sameHash : msg.ours.contractHash = msg.theirs.contractHash
  isHash : msg.ours.contractHash = contract.hash
  isActor : handshakeActor env contract msg.ours msg.theirs = some actor
  isSigned : collateralIsSigned env contract actor msg.collateralInfo = .ok true

/-- Record the address of the client that named an instance. -/
def setIdent
    (server : ContractServer Hex)
    (id : InstanceId)
    (ident : Ident) : ContractServer Hex :=
  server.modifyInstance id fun found => { found with ident := ident }

theorem quiet_setIdent
    (server : ContractServer Hex)
    (id : InstanceId)
    (ident : Ident) :
    server.Quiet (server.setIdent id ident) :=
  quiet_modifyInstance server id fun _ =>
    ⟨rfl, rfl, rfl, rfl, fun _ known => known⟩

/-- Record a collateral message. -/
def record
    (server : ContractServer Hex)
    (id : InstanceId)
    (contractHash : ContractHash)
    (info : CollateralMsg) : ContractServer Hex :=
  server.modifyInstance id fun found =>
    { found with collateralInfo := found.collateralInfo.set contractHash info }

section Match

variable (env : ServerEnv Hex) (server : ContractServer Hex)

/-- A message that passes the checks has its collateral recorded in the
instance it names; any other one records an address at most. -/
theorem acceptMatchMsg_cases (msg : MatchMsg) :
    ((∀ contract actor,
        (acceptMatchMsg env server msg).result ≠ .ok (some (contract, actor))) ∧
      ((acceptMatchMsg env server msg).state = server ∨
        (acceptMatchMsg env server msg).state =
          server.setIdent msg.instanceId msg.ident)) ∨
      ∃ contract actor,
        Accepts env msg contract actor ∧
        server.instances.contains msg.instanceId = true ∧
        (acceptMatchMsg env server msg).result = .ok (some (contract, actor)) ∧
        (acceptMatchMsg env server msg).state =
          (server.setIdent msg.instanceId msg.ident).record msg.instanceId
            contract.hash msg.collateralInfo := by
  have refused : ∀ contract actor,
      (Except.ok none : Except PyError (Option (ParsedContract × Actor))) ≠
        .ok (some (contract, actor)) := by
    intro contract actor impossible
    cases impossible
  have raised : ∀ error contract actor,
      (Except.error error : Except PyError (Option (ParsedContract × Actor))) ≠
        .ok (some (contract, actor)) := by
    intro error contract actor impossible
    cases impossible
  unfold acceptMatchMsg Outcome.attempt
  cases parsed : parseContract env.tradeContext env.ecdsa.load env.contractHash
    msg.contractMsg with
  | error error => exact Or.inl ⟨raised error, Or.inl rfl⟩
  | ok contract =>
      simp only
      split
      · exact Or.inl ⟨refused, Or.inl rfl⟩
      next isKnown =>
      split
      · exact Or.inl ⟨refused, Or.inr rfl⟩
      next sameHash =>
      split
      · exact Or.inl ⟨refused, Or.inr rfl⟩
      next isHash =>
      split
      · exact Or.inl ⟨refused, Or.inr rfl⟩
      next actor isActor =>
      cases isSigned : collateralIsSigned env contract actor
        msg.collateralInfo with
      | error error => exact Or.inl ⟨raised error, Or.inr rfl⟩
      | ok signed =>
          cases signed with
          | false => exact Or.inl ⟨refused, Or.inr rfl⟩
          | true =>
              refine Or.inr ⟨contract, actor, ?_,
                Bool.eq_true_of_not_eq_false isKnown, rfl, rfl⟩
              exact {
                parsed := parsed
                sameHash := not_not.mp sameHash
                isHash := not_not.mp isHash
                isActor := isActor
                isSigned := isSigned }

/-- Checking a `MATCH` message and recording its collateral is quiet. -/
theorem acceptMatchMsg_quiet (msg : MatchMsg) :
    server.Quiet (acceptMatchMsg env server msg).state := by
  have named := quiet_setIdent server msg.instanceId msg.ident
  rcases acceptMatchMsg_cases env server msg with
    ⟨_, same | same⟩ | ⟨contract, _, _, _, _, same⟩
  · rw [same]
    exact Quiet.refl server
  · rw [same]
    exact named
  · rw [same]
    exact named.trans (quiet_modifyInstance _ _ fun found =>
      found.quiet_setCollateral contract.hash msg.collateralInfo)

/-- What is asked of accepted messages only can be decided. -/
instance decidableOfAccepted
    {property : ParsedContract → Actor → Prop}
    [∀ contract actor, Decidable (property contract actor)] :
    (result : Except PyError (Option (ParsedContract × Actor))) →
      Decidable (∀ contract actor, result = .ok (some (contract, actor)) →
        property contract actor)
  | .ok (some (contract, actor)) =>
      decidable_of_iff (property contract actor)
        ⟨by rintro holds _ _ ⟨⟩; exact holds,
          fun holds => holds contract actor rfl⟩
  | .ok none | .error _ => isTrue fun _ _ returned => by cases returned

theorem saveFound_quiet
    (contract : ParsedContract)
    (output : Option OutputRef) :
    server.Quiet (server.saveFound contract output) := by
  cases output with
  | none => exact Quiet.refl server
  | some output =>
      exact quiet_modifyInstance server output.instanceId fun _ =>
        ⟨rfl, rfl, rfl, rfl, fun _ known => known⟩

/-- Chunk sizes play no part in the search for an output. -/
theorem findOutput_saveFound
    (contract : ParsedContract)
    (output : Option OutputRef)
    (side : Actor) :
    findOutput env (server.saveFound contract output) contract side =
      findOutput env server contract side := by
  cases output with
  | none => rfl
  | some output =>
      unfold saveFound saveChunks findOutput
      rw [greenAddresses_modifyInstance]
      cases server.greenAddresses.get? (contract.side side).depositTxid with
      | none => rfl
      | some id =>
          simp only [Option.bind_eq_bind, Option.bind_some,
            get?_modifyInstance]
          split
          next same =>
            subst same
            cases server.instances.get? output.instanceId <;> rfl
          · rfl

end Match

/-! ## Registering -/

/-- The server with one more instance. -/
def register
    (server : ContractServer Hex)
    (id : InstanceId)
    (registered : Instance Hex) : ContractServer Hex :=
  { server with
    instances := server.instances.set id registered
    greenAddresses :=
      server.greenAddresses.set registered.details.depositTxid id }

/-- What a `REGISTER` message can do: nothing, or add a new instance without
collateral, locks and links. -/
def Registers
    (server : ContractServer Hex)
    (id : InstanceId)
    (after : ContractServer Hex) : Prop :=
  after = server ∨
    ∃ registered : Instance Hex,
      server.instances.get? id = none ∧
      registered.collateralInfo = ∅ ∧
      registered.locked = [] ∧
      registered.links = ∅ ∧
      after = server.register id registered

theorem parseRegisterMsg_cases
    (env : ServerEnv Hex)
    (server : ContractServer Hex)
    (msg : RegisterMsg Hex) :
    server.Registers msg.instanceId (parseRegisterMsg env server msg).state := by
  have same : server.Registers msg.instanceId server := Or.inl rfl
  unfold parseRegisterMsg
  refine Outcome.attempt_state (motive := server.Registers msg.instanceId)
    same ?_
  intro ecdsa1 _
  refine Outcome.attempt_state (motive := server.Registers msg.instanceId)
    same ?_
  intro ecdsa2 _
  split
  · exact same
  next isNew =>
  refine Outcome.attempt_state (motive := server.Registers msg.instanceId)
    same ?_
  intro sig3 _
  refine Outcome.attempt_state (motive := server.Registers msg.instanceId)
    same ?_
  intro checked _
  cases checked with
  | error code => exact same
  | ok details =>
      simp only
      split
      · exact same
      · rw [Dict.contains, Option.not_isSome_iff_eq_none] at isNew
        exact Or.inr ⟨_, isNew, rfl, rfl, rfl, rfl⟩

/-- An instance of the server with one more is that one or an old one. -/
theorem mem_register
    {server : ContractServer Hex}
    {id other : InstanceId}
    {registered found : Instance Hex}
    (stored : (server.register id registered).instances.get? other =
      some found) :
    found = registered ∨ server.instances.get? other = some found := by
  rw [register, Dict.get?_set] at stored
  split at stored
  · exact Or.inl (Option.some.inj stored).symm
  · exact Or.inr stored

/-- An instance that is stored is not the new one. -/
theorem get?_register
    {server : ContractServer Hex}
    {id other : InstanceId}
    {registered old : Instance Hex}
    (new : server.instances.get? id = none)
    (stored : server.instances.get? other = some old) :
    (server.register id registered).instances.get? other = some old := by
  rw [register, Dict.get?_set, if_neg]
  · exact stored
  · rintro rfl
    rw [new] at stored
    cases stored

/-! ## Locking both outputs -/

/-- The server once the buyer's output is locked. -/
def lockBuyer
    (server : ContractServer Hex)
    (works : TwoSided) : ContractServer Hex :=
  { server with matched := server.matched ++ [works] }.lockSide works .buyer

/-- The server once both outputs are locked. -/
def locks
    (server : ContractServer Hex)
    (works : TwoSided) : ContractServer Hex :=
  (server.lockBuyer works).lockSide works .seller

/-- A server after messages to the instances of a two-sided contract. -/
def Sends (works : TwoSided) (before after : ContractServer Hex) : Prop :=
  ∃ new, after = { before with sent := before.sent ++ new } ∧
    ∀ entry ∈ new, ∃ side, entry.2.instanceId = (works.side side).instanceId

theorem Sends.nothing (works : TwoSided) (server : ContractServer Hex) :
    Sends works server server := by
  refine ⟨[], by rw [List.append_nil], ?_⟩
  intro entry impossible
  cases impossible

theorem Sends.trans
    {works : TwoSided}
    {first second third : ContractServer Hex}
    (before : Sends works first second)
    (after : Sends works second third) :
    Sends works first third := by
  obtain ⟨sent, rfl, toSides⟩ := before
  obtain ⟨more, rfl, toSides'⟩ := after
  refine ⟨sent ++ more, by rw [← List.append_assoc], ?_⟩
  rw [List.forall_mem_append]
  exact ⟨toSides, toSides'⟩

/-- Sending one `READY` message changes nothing else. -/
theorem sendReady_sends
    (server : ContractServer Hex)
    (works : TwoSided)
    (side : Actor) :
    Sends works server (server.sendReady works side).state := by
  have nothing := Sends.nothing works server
  unfold sendReady
  refine Outcome.attempt_state nothing ?_
  intro found _
  refine Outcome.attempt_state nothing ?_
  intro ready built
  split
  · refine ⟨[(found.ident, ready)], rfl, ?_⟩
    rw [List.forall_mem_singleton]
    simp only [newReadyMsg, Except.bind_eq_ok_iff] at built
    obtain ⟨parts, _, returned⟩ := built
    cases returned
    exact ⟨side, rfl⟩
  · exact nothing

/-- Messages go out only when both instances are completely locked. -/
theorem lockBoth_sends
    (env : ServerEnv Hex)
    (server : ContractServer Hex)
    (works : TwoSided) :
    Sends works (server.locks works) (lockBoth env server works).state ∧
      ((lockBoth env server works).state = server.locks works ∨
        (server.lockBuyer works).isReady works.buyer.instanceId = true ∧
        (server.locks works).isReady works.seller.instanceId = true) := by
  have nothing := Sends.nothing works (server.locks works)
  unfold lockBoth
  simp only
  split
  · exact ⟨nothing, Or.inl rfl⟩
  next ready =>
    rw [Bool.not_eq_false, Bool.and_eq_true] at ready
    refine ⟨?_, Or.inr ready⟩
    refine Outcome.attempt_state nothing ?_
    intro buyerFee _
    refine Outcome.attempt_state nothing ?_
    intro sellerFee _
    split
    · exact nothing
    · refine Outcome.bind_state (sendReady_sends _ works .buyer) ?_
      intro _ _
      exact (sendReady_sends _ works .buyer).trans
        (sendReady_sends _ works .seller)

/-- What the second part of a `MATCH` message changes: nothing but chunk sizes,
or both locks of a contract found on both sides. -/
theorem matchSides_cases
    (env : ServerEnv Hex)
    (server : ContractServer Hex)
    (contract : ParsedContract) :
    server.Quiet (matchSides env server contract).state ∨
      ∃ buyer seller saved,
        findOutput env server contract .buyer = some buyer ∧
        findOutput env server contract .seller = some seller ∧
        server.Quiet saved ∧
        (matchSides env server contract).state =
          (lockBoth env saved ⟨contract, buyer, seller⟩).state := by
  have saved := (saveFound_quiet server contract
    (findOutput env server contract .buyer)).trans
    (saveFound_quiet _ contract (findOutput env server contract .seller))
  unfold matchSides
  simp only [findOutput_saveFound]
  split
  next buyer seller isBuyer isSeller =>
    refine Or.inr ⟨buyer, seller, _, isBuyer, isSeller, saved, rfl⟩
  · exact Or.inl saved

end ContractServer
end Coinbend
