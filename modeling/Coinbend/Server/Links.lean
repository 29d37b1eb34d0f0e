import Coinbend.Library.Pairing
import Coinbend.Server.Locking

/-!
# Links of matched outputs

`READY` collects the other side of every link of an instance.  Nothing ties the
instance a `MATCH` message names to its signer, and an instance needs only some
collateral to be linked.  In runs where every accepted message names its
signer's instance and both instances hold the collateral of the contracts they
are linked for, the links are mutual and `READY` can always be built.
-/

namespace Coinbend

variable {Hex : Type}

namespace ContractServer

/-! ## Collateral -/

/-- The instance holds collateral for the contract. -/
def HasCollateral
    (server : ContractServer Hex)
    (id : InstanceId)
    (contractHash : ContractHash) : Prop :=
  ((server.instances.get? id).bind fun found =>
    found.collateralInfo.get? contractHash).isSome

instance
    (server : ContractServer Hex)
    (id : InstanceId)
    (contractHash : ContractHash) :
    Decidable (server.HasCollateral id contractHash) :=
  inferInstanceAs (Decidable (_ = true))

theorem hasCollateral_iff
    (server : ContractServer Hex)
    (id : InstanceId)
    (contractHash : ContractHash) :
    server.HasCollateral id contractHash ↔
      ∃ found info, server.instances.get? id = some found ∧
        found.collateralInfo.get? contractHash = some info := by
  rw [HasCollateral, Option.isSome_iff_exists]
  simp only [Option.bind_eq_some_iff]
  constructor
  · rintro ⟨info, found, stored, recorded⟩
    exact ⟨found, info, stored, recorded⟩
  · rintro ⟨found, info, stored, recorded⟩
    exact ⟨info, found, stored, recorded⟩

/-- The collateral of a contract is the message of the side the instance
belongs to, for the chunk of the other side. -/
def Recorded
    (env : ServerEnv Hex)
    (owner : PubKey × PubKey)
    (contractHash : ContractHash)
    (info : CollateralMsg) : Prop :=
  ∃ msg contract actor,
    Accepts env msg contract actor ∧
    contract.hash = contractHash ∧
    msg.collateralInfo = info ∧
    owner = (contract.side actor).keys ∧
    env.amountOfText info.chunkSize =
      some (contract.side actor.other).chunkSize

theorem pub1_of_collateralIsSigned
    {env : ServerEnv Hex}
    {contract : ParsedContract}
    {actor : Actor}
    {info : CollateralMsg}
    (isSigned : collateralIsSigned env contract actor info = .ok true) :
    info.pub1 = (contract.side actor).ecdsa.1 := by
  simp only [collateralIsSigned, Except.bind_eq_ok_iff, Except.pure_eq_ok_iff,
    decide_eq_true_eq] at isSigned
  obtain ⟨_, _, _, isActor, _⟩ := isSigned
  exact isActor

/-- Every instance holds the collateral of its owner only. -/
def CollateralOwned (env : ServerEnv Hex) (server : ContractServer Hex) : Prop :=
  ∀ id found contractHash info,
    server.instances.get? id = some found →
    found.collateralInfo.get? contractHash = some info →
    Recorded env found.owner contractHash info

/-- A server none of whose instances got another owner or other collateral. -/
def SameCollateral (before after : ContractServer Hex) : Prop :=
  ∀ id found, after.instances.get? id = some found →
    ∃ old, before.instances.get? id = some old ∧
      found.owner = old.owner ∧ found.collateralInfo = old.collateralInfo

theorem SameCollateral.trans
    {first second third : ContractServer Hex}
    (before : first.SameCollateral second)
    (after : second.SameCollateral third) :
    first.SameCollateral third := by
  intro id found stored
  obtain ⟨middle, isMiddle, owner, collateral⟩ := after id found stored
  obtain ⟨old, isOld, owner', collateral'⟩ := before id middle isMiddle
  exact ⟨old, isOld, owner.trans owner', collateral.trans collateral'⟩

theorem sameCollateral_of_instances_eq
    {before after : ContractServer Hex}
    (same : after.instances = before.instances) :
    before.SameCollateral after := by
  intro id found stored
  exact ⟨found, same ▸ stored, rfl, rfl⟩

theorem sameCollateral_modifyInstance
    (server : ContractServer Hex)
    (id : InstanceId)
    {change : Instance Hex → Instance Hex}
    (keeps : ∀ found, (change found).owner = found.owner ∧
      (change found).collateralInfo = found.collateralInfo) :
    server.SameCollateral (server.modifyInstance id change) := by
  intro other found stored
  obtain ⟨old, isOld, ⟨_, rfl⟩ | ⟨_, rfl⟩⟩ := mem_modifyInstance stored
  · exact ⟨old, isOld, keeps old⟩
  · exact ⟨found, isOld, rfl, rfl⟩

section Collateral

variable {env : ServerEnv Hex} {before after server : ContractServer Hex}

theorem CollateralOwned.of_same
    (owned : CollateralOwned env before)
    (same : before.SameCollateral after) :
    CollateralOwned env after := by
  intro id found contractHash info stored recorded
  obtain ⟨old, isOld, owner, collateral⟩ := same id found stored
  rw [collateral] at recorded
  rw [owner]
  exact owned id old contractHash info isOld recorded

/-- Recording the collateral of an accepted message in its signer's instance. -/
theorem CollateralOwned.record
    (owned : CollateralOwned env server)
    {msg : MatchMsg}
    {contract : ParsedContract}
    {actor : Actor}
    (accepts : Accepts env msg contract actor)
    (isOwner : ∀ found, server.instances.get? msg.instanceId = some found →
      found.owner = (contract.side actor).keys)
    (isChunk : env.amountOfText msg.collateralInfo.chunkSize =
      some (contract.side actor.other).chunkSize) :
    CollateralOwned env
      (server.record msg.instanceId contract.hash msg.collateralInfo) := by
  intro id found contractHash info stored recorded
  obtain ⟨old, isOld, ⟨same, rfl⟩ | ⟨_, rfl⟩⟩ := mem_modifyInstance stored
  · subst same
    rw [Dict.get?_set] at recorded
    split at recorded
    next isHash =>
      rw [Option.some.injEq] at recorded
      exact ⟨msg, contract, actor, accepts, isHash.symm, recorded,
        isOwner old isOld, recorded ▸ isChunk⟩
    · exact owned msg.instanceId old contractHash info isOld recorded
  · exact owned id found contractHash info isOld recorded

end Collateral

/-! ## Links -/

/-- Where an output is linked to, and for which contract. -/
def linkOf
    (server : ContractServer Hex)
    (output : OutputRef) : Option (OutputRef × ContractHash) := do
  let found ← server.instances.get? output.instanceId
  let link ← found.links.get? output.index
  return (⟨link.instanceId, link.index⟩, link.contractHash)

theorem linkOf_of_get?
    {server : ContractServer Hex}
    {id : InstanceId}
    {found : Instance Hex}
    (stored : server.instances.get? id = some found)
    (index : Nat) :
    server.linkOf ⟨id, index⟩ =
      (found.links.get? index).map fun link =>
        (⟨link.instanceId, link.index⟩, link.contractHash) := by
  unfold linkOf
  simp only [stored, Option.bind_eq_bind, Option.bind_some]
  cases found.links.get? index <;> rfl

theorem linkOf_of_get?_none
    {server : ContractServer Hex}
    {id : InstanceId}
    (missing : server.instances.get? id = none)
    (index : Nat) :
    server.linkOf ⟨id, index⟩ = none := by
  unfold linkOf
  simp only [missing, Option.bind_eq_bind, Option.bind_none]

section Links

variable {before after server : ContractServer Hex}

theorem Quiet.linkOf_eq (quiet : before.Quiet after) :
    after.linkOf = before.linkOf := by
  funext ⟨id, index⟩
  cases stored : before.instances.get? id with
  | some old =>
      obtain ⟨found, isFound, same⟩ := quiet.forward id old stored
      rw [linkOf_of_get? stored, linkOf_of_get? isFound, same.links]
  | none =>
      have missing : after.instances.get? id = none := by
        cases stored' : after.instances.get? id with
        | none => rfl
        | some found =>
            obtain ⟨old, isOld, _⟩ := quiet.backward id found stored'
            rw [stored] at isOld
            cases isOld
      rw [linkOf_of_get?_none stored, linkOf_of_get?_none missing]

/-- Locking one output links it to the other one. -/
theorem linkOf_lockSide
    (server : ContractServer Hex)
    {works : TwoSided}
    {side : Actor}
    {found : Instance Hex}
    (stored : server.instances.get? (works.side side).instanceId =
      some found) :
    (server.lockSide works side).linkOf =
      Function.update server.linkOf (works.side side)
        (some (works.side side.other, works.contract.hash)) := by
  funext ⟨id, index⟩
  by_cases sameId : id = (works.side side).instanceId
  · subst sameId
    have changed : (server.lockSide works side).instances.get?
        (works.side side).instanceId = some
          { found with
            locked := found.locked ++ [(works.side side).index]
            links := found.links.set (works.side side).index
              ⟨(works.side side.other).instanceId,
                (works.side side.other).index, works.contract.hash⟩ } := by
      rw [lockSide, get?_modifyInstance, if_pos rfl, stored]
      rfl
    rw [linkOf_of_get? changed, Dict.get?_set]
    split
    next sameIndex =>
      subst sameIndex
      exact (Function.update_self (works.side side) _ server.linkOf).symm
    next other =>
      rw [Function.update_of_ne, linkOf_of_get? stored]
      intro same
      exact other (congrArg OutputRef.index same)
  · have unchanged : (server.lockSide works side).instances.get? id =
        server.instances.get? id := by
      rw [lockSide, get?_modifyInstance, if_neg sameId]
    rw [Function.update_of_ne]
    · unfold linkOf
      rw [unchanged]
    · intro same
      exact sameId (congrArg OutputRef.instanceId same)

/-- Locking both outputs joins them. -/
theorem linkOf_locks
    {works : TwoSided}
    (stored : ∀ side, ∃ found,
      server.instances.get? (works.side side).instanceId = some found) :
    (server.locks works).linkOf =
      Pairing.join server.linkOf works.buyer works.seller works.contract.hash := by
  obtain ⟨buyer, isBuyer⟩ := stored .buyer
  obtain ⟨seller, isSeller⟩ := stored .seller
  obtain ⟨seller', isSeller', _⟩ :=
    (lockSide_extends { server with matched := server.matched ++ [works] }
      works .buyer).details _ seller isSeller
  rw [locks, linkOf_lockSide (server.lockBuyer works) isSeller', lockBuyer,
    linkOf_lockSide { server with matched := server.matched ++ [works] } isBuyer]
  rfl

end Links

/-! ## Building READY -/

/-- The other side of every link of an instance holds the collateral of the
link's contract. -/
def LinksRecorded (server : ContractServer Hex) : Prop :=
  ∀ id found, server.instances.get? id = some found →
    ∀ link ∈ found.links.values,
      server.HasCollateral link.instanceId link.contractHash

/-- The message is built when all the collateral it collects is there. -/
theorem newReadyMsg_ok
    {server : ContractServer Hex}
    {links : Dict Nat Link}
    (recorded : ∀ link ∈ links.values,
      server.HasCollateral link.instanceId link.contractHash)
    (id : InstanceId)
    (sig3 : Sig) :
    ∃ ready, server.newReadyMsg id sig3 links = .ok ready := by
  unfold newReadyMsg
  refine Except.exists_bind_eq_ok (Except.exists_mapM_eq_ok _ _ ?_)
    fun parts => ⟨_, rfl⟩
  intro link isLink
  obtain ⟨found, info, stored, isInfo⟩ :=
    (hasCollateral_iff _ _ _).mp (recorded link isLink)
  rw [stored]
  simp only [Except.ofOption, Except.ok_bind, isInfo]
  exact ⟨_, rfl⟩

theorem sendReady_ok
    {server : ContractServer Hex}
    {works : TwoSided}
    {side : Actor}
    {found : Instance Hex}
    (recorded : server.LinksRecorded)
    (stored : server.instances.get? (works.side side).instanceId =
      some found) :
    (server.sendReady works side).result = .ok () := by
  obtain ⟨ready, built⟩ := newReadyMsg_ok (recorded _ found stored)
    (works.side side).instanceId found.sig3
  unfold sendReady
  simp only [stored, Except.ofOption, Outcome.attempt_ok, built]
  split <;> rfl

theorem chunkTotal_ne_keyError
    (chunks : Dict Nat ChunkSizes)
    (side : Actor)
    (vouts : List CTxOut)
    (index : Nat)
    (total : C) :
    chunkTotal chunks side vouts index total ≠ .error .keyError := by
  induction vouts generalizing index total with
  | nil => exact Except.ok_ne_error
  | cons vout vouts inductionHypothesis =>
      unfold chunkTotal
      split
      · exact Except.ok_ne_error
      · exact Except.bind_ne_error (C.add_ne_keyError _ _) fun sum _ =>
          inductionHypothesis (index + 1) sum

/-- The fee check looks up recorded chunk sizes only where there are some. -/
theorem feeIsCorrect_ne_keyError
    (env : ServerEnv Hex)
    (found : Instance Hex)
    (side : Actor) :
    feeIsCorrect env found side ≠ .error .keyError := by
  unfold feeIsCorrect
  refine Except.bind_ne_error (chunkTotal_ne_keyError _ _ _ _ _) ?_
  intro collateral _
  refine Except.bind_ne_error (C.ofDecimal_ne_keyError _) ?_
  intro fee _
  refine Except.bind_ne_error (C.ofDecimal_ne_keyError _) ?_
  intro contractTotal _
  refine Except.bind_ne_error (C.add_ne_keyError _ _) ?_
  intro totalCoins _
  refine Except.bind_ne_error (C.ofDecimal_ne_keyError _) ?_
  intro change _
  refine Except.bind_ne_error (C.sub_ne_keyError _ _) ?_
  intro charged _
  refine Except.bind_ne_error (C.mul_ne_keyError _ _) ?_
  intro fees _
  refine Except.bind_ne_error (C.add_ne_keyError _ _) ?_
  intro expectedFee _
  exact Except.ok_ne_error

/-- Nothing is missing when both instances exist and all their links are
recorded. -/
theorem lockBoth_ne_keyError
    {env : ServerEnv Hex}
    {server : ContractServer Hex}
    {works : TwoSided}
    (stored : ∀ side, ∃ found,
      (server.locks works).instances.get? (works.side side).instanceId =
        some found)
    (recorded : (server.locks works).LinksRecorded) :
    (lockBoth env server works).result ≠ .error .keyError := by
  have fee_ne : ∀ side,
      sideFeeIsCorrect env (server.locks works) works side ≠
        .error .keyError := by
    intro side
    obtain ⟨found, isFound⟩ := stored side
    unfold sideFeeIsCorrect
    rw [isFound]
    exact feeIsCorrect_ne_keyError env found side
  unfold lockBoth
  simp only
  split
  · exact Except.ok_ne_error
  refine Outcome.attempt_result_ne (fee_ne .buyer) ?_
  intro buyerFee _
  refine Outcome.attempt_result_ne (fee_ne .seller) ?_
  intro sellerFee _
  split
  · exact Except.ok_ne_error
  obtain ⟨buyer, isBuyer⟩ := stored .buyer
  obtain ⟨seller, isSeller⟩ := stored .seller
  obtain ⟨new, sent, _⟩ :=
    sendReady_sends (server.locks works) works .buyer
  have buyerSent := sendReady_ok recorded isBuyer
  have sellerSent : (((server.locks works).sendReady works .buyer).state.sendReady
      works .seller).result = .ok () := by
    rw [sent]
    exact sendReady_ok recorded isSeller
  change (((server.locks works).sendReady works .buyer).bind fun server _ =>
    server.sendReady works .seller).result ≠ _
  rw [Outcome.bind_of_ok buyerSent, sellerSent]
  exact Except.ok_ne_error

/-! ## The invariant -/

/-- Collateral is held by its owner, links are mutual and the other side of
every link holds its collateral. -/
structure LinksSound
    (env : ServerEnv Hex)
    (server : ContractServer Hex) : Prop where
  owned : CollateralOwned env server
  isMutual : Pairing.Mutual server.linkOf
  recorded : server.LinksRecorded

/-- The two outputs of a contract may be linked: neither is linked to a third
output, and both instances hold the collateral of the contract. -/
def Joinable
    (server : ContractServer Hex)
    (contractHash : ContractHash)
    (buyer seller : OutputRef) : Prop :=
  Pairing.OnlyTo server.linkOf buyer buyer seller ∧
    Pairing.OnlyTo server.linkOf seller buyer seller ∧
    server.HasCollateral buyer.instanceId contractHash ∧
    server.HasCollateral seller.instanceId contractHash

/-- The outputs found for the two sides of a contract may be linked. -/
def JoinsOwn
    (env : ServerEnv Hex)
    (server : ContractServer Hex)
    (contract : ParsedContract) : Prop :=
  ∀ buyer ∈ findOutput env server contract .buyer,
    ∀ seller ∈ findOutput env server contract .seller,
      server.Joinable contract.hash buyer seller

/-- The message names the instance of its signer and its collateral is for the
chunk of the other side. -/
def NamesOwn
    (env : ServerEnv Hex)
    (server : ContractServer Hex)
    (msg : MatchMsg)
    (contract : ParsedContract)
    (actor : Actor) : Prop :=
  (∀ found ∈ server.instances.get? msg.instanceId,
    found.owner = (contract.side actor).keys) ∧
    env.amountOfText msg.collateralInfo.chunkSize =
      some (contract.side actor.other).chunkSize

section Sound

variable {env : ServerEnv Hex} {before after server : ContractServer Hex}

theorem Quiet.hasCollateral
    (quiet : before.Quiet after)
    {id : InstanceId}
    {contractHash : ContractHash}
    (has : before.HasCollateral id contractHash) :
    after.HasCollateral id contractHash := by
  obtain ⟨old, info, stored, recorded⟩ := (hasCollateral_iff _ _ _).mp has
  obtain ⟨found, isFound, same⟩ := quiet.forward id old stored
  have kept := same.collateral contractHash (by rw [recorded]; rfl)
  obtain ⟨info', recorded'⟩ := Option.isSome_iff_exists.mp kept
  exact (hasCollateral_iff _ _ _).mpr ⟨found, info', isFound, recorded'⟩

theorem lockSide_hasCollateral
    (works : TwoSided)
    (side : Actor)
    {id : InstanceId}
    {contractHash : ContractHash}
    (has : server.HasCollateral id contractHash) :
    (server.lockSide works side).HasCollateral id contractHash := by
  obtain ⟨old, info, stored, recorded⟩ := (hasCollateral_iff _ _ _).mp has
  rw [hasCollateral_iff, lockSide, get?_modifyInstance]
  split
  next same =>
    subst same
    rw [stored]
    exact ⟨_, info, rfl, recorded⟩
  · exact ⟨old, info, stored, recorded⟩

theorem LinksRecorded.quiet
    (recorded : before.LinksRecorded)
    (quiet : before.Quiet after) :
    after.LinksRecorded := by
  intro id found stored link isLink
  obtain ⟨old, isOld, same⟩ := quiet.backward id found stored
  rw [same.links] at isLink
  exact quiet.hasCollateral (recorded id old isOld link isLink)

/-- Linking an output to one whose instance holds the collateral. -/
theorem LinksRecorded.lockSide
    (recorded : server.LinksRecorded)
    {works : TwoSided}
    {side : Actor}
    (has : server.HasCollateral (works.side side.other).instanceId
      works.contract.hash) :
    (server.lockSide works side).LinksRecorded := by
  intro id found stored link isLink
  apply lockSide_hasCollateral
  obtain ⟨old, isOld, ⟨_, rfl⟩ | ⟨_, rfl⟩⟩ := mem_modifyInstance stored
  · rcases Dict.mem_values_set isLink with rfl | old_link
    · exact has
    · exact recorded id old isOld link old_link
  · exact recorded id found isOld link isLink

theorem LinksRecorded.locks
    (recorded : server.LinksRecorded)
    {works : TwoSided}
    (has : ∀ side, server.HasCollateral (works.side side).instanceId
      works.contract.hash) :
    (server.locks works).LinksRecorded := by
  have logged : { server with
      matched := server.matched ++ [works] }.LinksRecorded := recorded
  have bought : (server.lockBuyer works).LinksRecorded :=
    logged.lockSide (has .seller)
  exact bought.lockSide (lockSide_hasCollateral works .buyer (has .buyer))

theorem lockSide_sameCollateral
    (server : ContractServer Hex)
    (works : TwoSided)
    (side : Actor) :
    server.SameCollateral (server.lockSide works side) :=
  sameCollateral_modifyInstance _ _ fun _ => ⟨rfl, rfl⟩

theorem locks_sameCollateral
    (server : ContractServer Hex)
    (works : TwoSided) :
    server.SameCollateral (server.locks works) := by
  have logged : server.SameCollateral
      { server with matched := server.matched ++ [works] } :=
    sameCollateral_of_instances_eq rfl
  exact (logged.trans (lockSide_sameCollateral _ works .buyer)).trans
    (lockSide_sameCollateral _ works .seller)

theorem saveFound_sameCollateral
    (server : ContractServer Hex)
    (contract : ParsedContract)
    (output : Option OutputRef) :
    server.SameCollateral (server.saveFound contract output) := by
  cases output with
  | none => exact sameCollateral_of_instances_eq rfl
  | some output =>
      exact sameCollateral_modifyInstance _ _ fun _ => ⟨rfl, rfl⟩

/-- Linking two outputs that may be linked. -/
theorem LinksSound.lockBoth
    (sound : LinksSound env server)
    {works : TwoSided}
    (stored : ∀ side, ∃ found,
      server.instances.get? (works.side side).instanceId = some found)
    (joinable : server.Joinable works.contract.hash works.buyer works.seller) :
    LinksSound env (ContractServer.lockBoth env server works).state ∧
      (ContractServer.lockBoth env server works).result ≠ .error .keyError := by
  obtain ⟨buyerOnly, sellerOnly, buyerHas, sellerHas⟩ := joinable
  have has : ∀ side, server.HasCollateral (works.side side).instanceId
      works.contract.hash := by
    intro side
    cases side with
    | buyer => exact buyerHas
    | seller => exact sellerHas
  have recorded := sound.recorded.locks has
  have stored_locks : ∀ side, ∃ found,
      (server.locks works).instances.get? (works.side side).instanceId =
        some found := by
    intro side
    obtain ⟨old, isOld⟩ := stored side
    have kept : ({ server with
        matched := server.matched ++ [works] } : ContractServer Hex).instances.get?
          (works.side side).instanceId = some old := isOld
    obtain ⟨bought, isBought, _⟩ :=
      (lockSide_extends _ works .buyer).details _ old kept
    obtain ⟨found, isFound, _⟩ :=
      (lockSide_extends _ works .seller).details _ bought isBought
    exact ⟨found, isFound⟩
  refine ⟨?_, lockBoth_ne_keyError stored_locks recorded⟩
  obtain ⟨new, same, _⟩ := (lockBoth_sends env server works).1
  rw [same]
  have isMutual := Pairing.mutual_join sound.isMutual works.contract.hash
    buyerOnly sellerOnly
  rw [← linkOf_locks stored] at isMutual
  exact {
    owned := sound.owned.of_same (locks_sameCollateral server works)
    isMutual := isMutual
    recorded := recorded }

/-- Matching a contract whose outputs may be linked. -/
theorem matchSides_linksSound
    {contract : ParsedContract}
    (sound : LinksSound env server)
    (joins : JoinsOwn env server contract) :
    LinksSound env (matchSides env server contract).state ∧
      (matchSides env server contract).result ≠ .error .keyError := by
  have quiet := (saveFound_quiet server contract
    (findOutput env server contract .buyer)).trans
    (saveFound_quiet _ contract (findOutput env server contract .seller))
  have same := (saveFound_sameCollateral server contract
    (findOutput env server contract .buyer)).trans
    (saveFound_sameCollateral _ contract
      (findOutput env server contract .seller))
  have saved : LinksSound env _ := {
    owned := sound.owned.of_same same
    isMutual := quiet.linkOf_eq ▸ sound.isMutual
    recorded := sound.recorded.quiet quiet }
  unfold matchSides
  simp only [findOutput_saveFound]
  split
  next buyer seller isBuyer isSeller =>
    obtain ⟨buyerOnly, sellerOnly, buyerHas, sellerHas⟩ :=
      joins buyer isBuyer seller isSeller
    refine saved.lockBoth ?_ ?_
    · intro side
      have stored : ∃ found, server.instances.get?
          ((⟨contract, buyer, seller⟩ : TwoSided).side side).instanceId =
            some found := by
        cases side with
        | buyer =>
            obtain ⟨found, _, _, stored, _⟩ := findOutput_funds isBuyer
            exact ⟨found, stored⟩
        | seller =>
            obtain ⟨found, _, _, stored, _⟩ := findOutput_funds isSeller
            exact ⟨found, stored⟩
      obtain ⟨old, isOld⟩ := stored
      obtain ⟨found, isFound, _⟩ := quiet.forward _ old isOld
      exact ⟨found, isFound⟩
    · rw [Joinable, quiet.linkOf_eq]
      exact ⟨buyerOnly, sellerOnly, quiet.hasCollateral buyerHas,
        quiet.hasCollateral sellerHas⟩
  · exact ⟨saved, Except.ok_ne_error⟩

/-- Recording an accepted message. -/
theorem acceptMatchMsg_linksSound
    {msg : MatchMsg}
    (sound : LinksSound env server)
    (names : ∀ contract actor,
      (acceptMatchMsg env server msg).result = .ok (some (contract, actor)) →
      NamesOwn env server msg contract actor) :
    LinksSound env (acceptMatchMsg env server msg).state := by
  have quiet := acceptMatchMsg_quiet env server msg
  have named : server.SameCollateral
      (server.setIdent msg.instanceId msg.ident) :=
    sameCollateral_modifyInstance _ _ fun _ => ⟨rfl, rfl⟩
  refine {
    owned := ?_
    isMutual := quiet.linkOf_eq ▸ sound.isMutual
    recorded := sound.recorded.quiet quiet }
  rcases acceptMatchMsg_cases env server msg with
    ⟨_, same | same⟩ | ⟨contract, actor, accepts, _, isOk, same⟩
  · rw [same]
    exact sound.owned
  · rw [same]
    exact sound.owned.of_same named
  · rw [same]
    obtain ⟨isOwner, isChunk⟩ := names contract actor isOk
    refine (sound.owned.of_same named).record accepts ?_ isChunk
    intro found stored
    obtain ⟨old, isOld, owner, _⟩ := named _ found stored
    rw [owner]
    exact isOwner old isOld

/-- A newly registered setup has no collateral and no links. -/
theorem parseRegisterMsg_linksSound
    (sound : LinksSound env server)
    (msg : RegisterMsg Hex) :
    LinksSound env (parseRegisterMsg env server msg).state := by
  rcases parseRegisterMsg_cases env server msg with
    same | ⟨registered, new, no_collateral, _, no_links, same⟩
  · rw [same]
    exact sound
  rw [same]
  refine {
    owned := ?_
    isMutual := ?_
    recorded := ?_ }
  · intro id found contractHash info stored recorded
    rcases mem_register stored with rfl | old
    · rw [no_collateral] at recorded
      cases recorded
    · exact sound.owned id found contractHash info old recorded
  · have linkOf_eq :
        (server.register msg.instanceId registered).linkOf = server.linkOf := by
      funext ⟨id, index⟩
      by_cases isNew : id = msg.instanceId
      · subst isNew
        have stored : (server.register msg.instanceId registered).instances.get?
            msg.instanceId = some registered :=
          Dict.get?_set_same _ _ _
        rw [linkOf_of_get? stored, linkOf_of_get?_none new, no_links]
        rfl
      · have unchanged :
            (server.register msg.instanceId registered).instances.get? id =
              server.instances.get? id :=
          Dict.get?_set_of_ne _ _ isNew
        unfold linkOf
        rw [unchanged]
    rw [linkOf_eq]
    exact sound.isMutual
  · intro id found stored link isLink
    rcases mem_register stored with rfl | old
    · rw [no_links] at isLink
      cases isLink
    · obtain ⟨linked, info, isLinked, recorded⟩ :=
        (hasCollateral_iff _ _ _).mp (sound.recorded id found old link isLink)
      exact (hasCollateral_iff _ _ _).mpr
        ⟨linked, info, get?_register new isLinked, recorded⟩

end Sound

/-! ## Runs -/

/-- An accepted `MATCH` message names its signer's instance, its collateral is
for the chunk of the other side, and the outputs it matches may be linked. -/
def LinksFit (env : ServerEnv Hex) (server : ContractServer Hex) :
    ServerEvent Hex → Prop
  | .matchMsg msg => ∀ contract actor,
      (acceptMatchMsg env server msg).result = .ok (some (contract, actor)) →
      NamesOwn env server msg contract actor ∧
        JoinsOwn env (acceptMatchMsg env server msg).state contract
  | _ => True

instance
    (env : ServerEnv Hex)
    (server : ContractServer Hex)
    (msg : MatchMsg)
    (contract : ParsedContract)
    (actor : Actor) :
    Decidable (NamesOwn env server msg contract actor) :=
  inferInstanceAs (Decidable (_ ∧ _))

instance
    (server : ContractServer Hex)
    (contractHash : ContractHash)
    (buyer seller : OutputRef) :
    Decidable (server.Joinable contractHash buyer seller) :=
  inferInstanceAs (Decidable (_ ∧ _ ∧ _ ∧ _))

instance
    (env : ServerEnv Hex)
    (server : ContractServer Hex)
    (contract : ParsedContract) :
    Decidable (JoinsOwn env server contract) :=
  inferInstanceAs (Decidable
    (∀ buyer ∈ findOutput env server contract .buyer,
      ∀ seller ∈ findOutput env server contract .seller,
        server.Joinable contract.hash buyer seller))

instance LinksFit.decidable
    (env : ServerEnv Hex)
    (server : ContractServer Hex) :
    (event : ServerEvent Hex) → Decidable (LinksFit env server event)
  | .matchMsg _ => decidableOfAccepted _
  | .connectionMade _ | .connectionLost _ | .registerMsg _ => isTrue trivial

/-- Matching the contract of a message looks up nothing that is missing: the
instances of both sides, the linked instances and their collateral are all
there. -/
def ReadyBuilt (env : ServerEnv Hex) (server : ContractServer Hex) :
    ServerEvent Hex → Prop
  | .matchMsg msg => ∀ contract actor,
      (acceptMatchMsg env server msg).result = .ok (some (contract, actor)) →
      (matchSides env (acceptMatchMsg env server msg).state contract).result ≠
        .error .keyError
  | _ => True

theorem serverStep_linksSound
    (env : ServerEnv Hex)
    (server : ContractServer Hex)
    (event : ServerEvent Hex)
    (sound : LinksSound env server)
    (fits : LinksFit env server event) :
    LinksSound env (serverStep env server event) ∧
      ReadyBuilt env server event := by
  cases event with
  | connectionMade ident =>
      exact ⟨⟨sound.owned, sound.isMutual, sound.recorded⟩, trivial⟩
  | connectionLost ident =>
      exact ⟨⟨sound.owned, sound.isMutual, sound.recorded⟩, trivial⟩
  | registerMsg msg => exact ⟨parseRegisterMsg_linksSound sound msg, trivial⟩
  | matchMsg msg =>
      have accepted := acceptMatchMsg_linksSound sound
        fun contract actor isOk => (fits contract actor isOk).1
      have joined : ∀ contract actor,
          (acceptMatchMsg env server msg).result =
            .ok (some (contract, actor)) →
          LinksSound env (matchSides env (acceptMatchMsg env server msg).state
            contract).state ∧
          (matchSides env (acceptMatchMsg env server msg).state
            contract).result ≠ .error .keyError :=
        fun contract actor isOk =>
          matchSides_linksSound accepted (fits contract actor isOk).2
      refine ⟨?_, fun contract actor isOk => (joined contract actor isOk).2⟩
      unfold serverStep parseMatchMsg
      refine Outcome.bind_state accepted ?_
      intro found isOk
      cases found with
      | none => exact accepted
      | some pair => exact (joined pair.1 pair.2 isOk).1

theorem linksSound_empty (env : ServerEnv Hex) :
    LinksSound env (ContractServer.empty : ContractServer Hex) where
  owned := by
    intro id found contractHash info stored
    cases stored
  isMutual := Pairing.mutual_none
  recorded := by
    intro id found stored
    cases stored

/-- In runs of fitting messages collateral is held by its owner, links are
mutual and every `READY` message can be built. -/
theorem serverRun_links
    (env : ServerEnv Hex)
    (events : List (ServerEvent Hex))
    (fits : Machine.Allowed (serverStep env) (LinksFit env)
      ContractServer.empty events) :
    LinksSound env
        (Machine.run (serverStep env) ContractServer.empty events) ∧
      Machine.Allowed (serverStep env) (ReadyBuilt env)
        ContractServer.empty events := by
  constructor
  · exact Machine.invariant_run (serverStep env)
      (fun server event sound fits =>
        (serverStep_linksSound env server event sound fits).1)
      (linksSound_empty env) fits
  · exact Machine.allowed_of_invariant (serverStep env)
      (fun server event sound fits =>
        serverStep_linksSound env server event sound fits)
      (linksSound_empty env) fits

/-- Both sides name their own instance. -/
theorem serverRun_links_sample :
    LinksSound Sample.serverEnv
        (Machine.run (serverStep Sample.serverEnv) ContractServer.empty
          (Sample.serverEvents [])) ∧
      Machine.Allowed (serverStep Sample.serverEnv)
        (ReadyBuilt Sample.serverEnv) ContractServer.empty
        (Sample.serverEvents []) :=
  serverRun_links Sample.serverEnv (Sample.serverEvents []) (by decide +kernel)

end ContractServer

namespace Sample

/-- The buyer's message for another order of the same two parties. -/
def matchOther : MatchMsg :=
  { matchBuyer with
    contractMsg := { serverContractMsg with orderHash := "other" }
    ours := handshakeOf "buyer1" "other"
    theirs := handshakeOf "seller1" "other" }

/-- Both setups are registered and the buyer has matched another order. -/
def otherMatched : ContractServer CTransaction :=
  Machine.run (serverStep serverEnv) ContractServer.empty [
    .connectionMade "10.0.0.1:1",
    .connectionMade "10.0.0.2:1",
    .registerMsg (registerBuyer []),
    .registerMsg (registerSeller []),
    .matchMsg matchOther]

/-- Both setups are registered and the buyer names the seller's. -/
def misnamed : ContractServer CTransaction :=
  Machine.run (serverStep serverEnv) ContractServer.empty [
    .registerMsg (registerBuyer []),
    .registerMsg (registerSeller []),
    .matchMsg { matchBuyer with instanceId := "sellerInstance" }]

end Sample

namespace ContractServer

/-- Collateral for another contract lets the buyer's output be linked without
any for this one: the lookup for the seller's `READY` fails.  And a message may
leave its collateral in the instance of the other side. -/
theorem linked_without_collateral :
    ¬ReadyBuilt Sample.serverEnv Sample.otherMatched
        (.matchMsg Sample.matchSeller) ∧
      ¬CollateralOwned Sample.serverEnv Sample.misnamed := by
  constructor
  · intro built
    have missing : ((acceptMatchMsg Sample.serverEnv Sample.otherMatched
        Sample.matchSeller).result.toOption.join.map fun found =>
          (matchSides Sample.serverEnv (acceptMatchMsg Sample.serverEnv
            Sample.otherMatched Sample.matchSeller).state found.1).result ==
              .error .keyError) = some true := by
      decide +kernel
    obtain ⟨⟨contract, actor⟩, accepted, raised⟩ :=
      Option.map_eq_some_iff.mp missing
    refine built contract actor ?_ (eq_of_beq raised)
    revert accepted
    cases (acceptMatchMsg Sample.serverEnv Sample.otherMatched
      Sample.matchSeller).result with
    | error error =>
        intro impossible
        cases impossible
    | ok found =>
        intro accepted
        exact congrArg Except.ok accepted
  · intro owned
    have stored : (Sample.misnamed.instances.get? "sellerInstance").map
        (fun found =>
          (found.owner, found.collateralInfo.get? "contract of order")) =
        some (("seller1", "seller2"),
          some Sample.matchBuyer.collateralInfo) := by
      decide +kernel
    obtain ⟨found, isFound, same⟩ := Option.map_eq_some_iff.mp stored
    rw [Prod.mk.injEq] at same
    obtain ⟨owner, recorded⟩ := same
    obtain ⟨msg, contract, actor, accepts, _, isInfo, isOwner, _⟩ :=
      owned _ found _ _ isFound recorded
    have signed := pub1_of_collateralIsSigned accepts.isSigned
    rw [isInfo] at signed
    rw [owner] at isOwner
    have impossible : "buyer1" = "seller1" :=
      signed.trans (congrArg Prod.fst isOwner).symm
    exact absurd impossible (by decide)

end ContractServer
end Coinbend
