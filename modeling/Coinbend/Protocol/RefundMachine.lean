import Coinbend.Microtransfer.State
import Mathlib.Logic.Function.Basic

/-!
# Refund before transfer, abstractly

What the order of refund and payments depends on: which contracts a node has,
the state of each match, the setup transaction and the signed refund of each
factory and the contracts that were paid.  A match passes its refund gate only
by an accepted refund signature, a factory's refund is replaced only while no
other contract of the factory is behind its gate, and its setup transaction
only while none is; then every match behind its gate belongs to a contract
with an accepted refund of its setup transaction.
-/

namespace Coinbend

/-- The states a match enters when the counterparty has returned its signature
of our refund. -/
def ProtocolState.isRefundGate (state : ProtocolState) : Bool :=
  state = .pendingSellerReturnRefundSig ∨ state = .pendingBuyerReturnSetupTx

/-- The refund gates and every state behind them. -/
def afterRefund (state : Option ProtocolState) : Bool :=
  match state with
  | some .pendingSellerReturnRefundSig
  | some .pendingSellerGetSetupTx
  | some .sellerSentGetSetupTx
  | some .pendingBuyerReturnSetupTx
  | some .pendingBuyerGetSetupTx
  | some .buyerSentGetSetupTx
  | some .pendingSellerReturnSetupTx
  | some .sellerInitiateMicrotransfer
  | some .buyerAcceptMicrotransfer
  | some .sellerAcceptMicrotransfer
  | some .pendingMicrotransferComplete
  | some .pendingMicrotransferConfirm
  | some .microtransferComplete => true
  | _ => false

/-- Only a gate leads behind the gates. -/
theorem afterRefund_of_enter
    {current : Option ProtocolState}
    {state : ProtocolState}
    (allowed : stateMachine current state = true)
    (entered : current = some state ∨ state.isRefundGate = false)
    (behind : afterRefund (some state) = true) :
    afterRefund current = true := by
  have sources_behind : ∀ current ∈ state.sources,
      state.isRefundGate = false → afterRefund (some state) = true →
      afterRefund current = true := by
    cases state <;> decide
  rcases entered with rfl | notGate
  · exact behind
  rcases (stateMachine_iff current state).mp allowed with rfl | source
  · exact behind
  · exact sources_behind current source notGate behind

/-- A match that has passed its gate stays behind it. -/
theorem afterRefund_enter
    {current : Option ProtocolState}
    {state : ProtocolState}
    (allowed : stateMachine current state = true)
    (behind : afterRefund current = true) :
    afterRefund (some state) = true := by
  have target_behind : ∀ current ∈ state.sources,
      afterRefund current = true → afterRefund (some state) = true := by
    cases state <;> decide
  rcases (stateMachine_iff current state).mp allowed with rfl | source
  · exact behind
  · exact target_behind current source behind

/-- What the refund order depends on.  Factories are named by their trade; a
setup transaction is named by its id. -/
structure RefundView (Terms Refund : Type) where
  contracts : Nat → String → Option (Nat × Terms)
  state : Nat → Option ProtocolState
  setup : Nat → Option String
  signed : Nat → Option Refund
  paid : String → Prop

/-- The trade and the match a contract hash belongs to. -/
abbrev Home := String → Option (Nat × Nat)

/-- No two hashes belong to one match. -/
def Home.Injective (home : Home) : Prop :=
  ∀ {hash other trade otherTrade matched},
    home hash = some (trade, matched) →
    home other = some (otherTrade, matched) → hash = other

/-- Whether a signed refund was accepted as the refund of a setup transaction
to a contract with some terms. -/
abbrev Acceptance (Terms Refund : Type) := Terms → String → Refund → Prop

namespace RefundView

variable {Terms Refund : Type}

/-- A contract with a hash is behind its gate. -/
def Behind (view : RefundView Terms Refund) (hash : String) : Prop :=
  ∃ trade matched terms,
    view.contracts trade hash = some (matched, terms) ∧
    afterRefund (view.state matched) = true

/-- No contract of a factory is behind its gate. -/
def Early (view : RefundView Terms Refund) (trade : Nat) : Prop :=
  ∀ hash matched terms,
    view.contracts trade hash = some (matched, terms) →
    afterRefund (view.state matched) = false

/-- The contract of a match has an accepted refund of the setup transaction of
its factory. -/
def Held
    (accepted : Acceptance Terms Refund)
    (view : RefundView Terms Refund)
    (matched : Nat) : Prop :=
  ∃ trade hash terms setup refund,
    view.contracts trade hash = some (matched, terms) ∧
    view.setup trade = some setup ∧
    view.signed trade = some refund ∧
    accepted terms setup refund

/-- Contracts are registered where their hash belongs, every match behind its
gate has an accepted refund, and only contracts behind their gate were paid. -/
structure RefundFirst
    (home : Home)
    (accepted : Acceptance Terms Refund)
    (view : RefundView Terms Refund) : Prop where
  homed : ∀ {trade hash matched terms},
    view.contracts trade hash = some (matched, terms) →
    home hash = some (trade, matched)
  held : ∀ {matched},
    afterRefund (view.state matched) = true → view.Held accepted matched
  paid_behind : ∀ {hash}, view.paid hash → view.Behind hash

section Facts

variable {home : Home} {accepted : Acceptance Terms Refund} {view : RefundView Terms Refund}

/-- The accepted refund of a contract behind its gate is in its factory. -/
theorem RefundFirst.held_of_behind
    (first : view.RefundFirst home accepted)
    (injective : home.Injective)
    {trade : Nat}
    {hash : String}
    {matched : Nat}
    {terms : Terms}
    (found : view.contracts trade hash = some (matched, terms))
    (behind : afterRefund (view.state matched) = true) :
    ∃ setup refund, view.setup trade = some setup ∧
      view.signed trade = some refund ∧ accepted terms setup refund := by
  obtain ⟨other, otherHash, otherTerms, setup, refund, otherFound, isSetup,
    signed, works⟩ := first.held behind
  have homed := first.homed found
  have otherHomed := first.homed otherFound
  have sameHash := injective homed otherHomed
  subst sameHash
  rw [homed] at otherHomed
  cases otherHomed
  rw [found] at otherFound
  cases otherFound
  exact ⟨setup, refund, isSetup, signed, works⟩

/-- A contract for which a payment was made is behind its gate. -/
theorem RefundFirst.behind_of_paid
    (first : view.RefundFirst home accepted)
    {trade : Nat}
    {hash : String}
    {matched : Nat}
    {terms : Terms}
    (found : view.contracts trade hash = some (matched, terms))
    (paid : view.paid hash) :
    afterRefund (view.state matched) = true := by
  obtain ⟨other, otherMatched, otherTerms, otherFound, behind⟩ :=
    first.paid_behind paid
  have homed := first.homed found
  rw [first.homed otherFound] at homed
  cases homed
  exact behind

theorem afterRefund_update
    {matched : Nat}
    {state : ProtocolState}
    (allowed : stateMachine (view.state matched) state = true)
    (other : Nat)
    (behind : afterRefund (view.state other) = true) :
    afterRefund (Function.update view.state matched (some state) other) =
      true := by
  by_cases same : other = matched
  · subst same
    rw [Function.update_self]
    exact afterRefund_enter allowed behind
  · rw [Function.update_of_ne same]
    exact behind

/-- A contract stays behind its gate when matches move. -/
theorem Behind.update
    {after : RefundView Terms Refund}
    {matched : Nat}
    {state : ProtocolState}
    {hash : String}
    (behind : view.Behind hash)
    (allowed : stateMachine (view.state matched) state = true)
    (contracts : after.contracts = view.contracts)
    (entered : after.state =
      Function.update view.state matched (some state)) :
    after.Behind hash := by
  obtain ⟨trade, other, terms, found, gone⟩ := behind
  refine ⟨trade, other, terms, ?_, ?_⟩
  · rw [contracts]
    exact found
  · rw [entered]
    exact afterRefund_update allowed other gone

end Facts

section Steps

variable {home : Home} {accepted : Acceptance Terms Refund}
variable {before after : RefundView Terms Refund}

/-- A newly stored contract hides no other one of a match behind its gate. -/
theorem contracts_register
    (first : before.RefundFirst home accepted)
    {trade : Nat}
    {hash : String}
    {matched : Nat}
    {terms : Terms}
    (homed : home hash = some (trade, matched))
    (early : afterRefund (before.state matched) = false)
    (contracts : after.contracts = Function.update before.contracts trade
      (Function.update (before.contracts trade) hash (some (matched, terms))))
    {other : Nat}
    {otherHash : String}
    {otherMatched : Nat}
    {otherTerms : Terms}
    (found : before.contracts other otherHash = some (otherMatched, otherTerms))
    (behind : afterRefund (before.state otherMatched) = true) :
    after.contracts other otherHash = some (otherMatched, otherTerms) := by
  have differentHash : otherHash ≠ hash := by
    rintro rfl
    have otherHomed := first.homed found
    rw [homed] at otherHomed
    cases otherHomed
    rw [early] at behind
    cases behind
  rw [contracts]
  by_cases sameTrade : other = trade
  · subst sameTrade
    rw [Function.update_self, Function.update_of_ne differentHash]
    exact found
  · rw [Function.update_of_ne sameTrade]
    exact found

/-- At most payments are made, for contracts behind their gate. -/
theorem RefundFirst.pay
    (first : before.RefundFirst home accepted)
    (contracts : after.contracts = before.contracts)
    (state : after.state = before.state)
    (setup : after.setup = before.setup)
    (signed : after.signed = before.signed)
    (paid : ∀ hash, after.paid hash → before.paid hash ∨ before.Behind hash) :
    after.RefundFirst home accepted := by
  exact {
    homed := by
      rw [contracts]
      exact first.homed
    held := by
      unfold Held
      rw [contracts, state, setup, signed]
      exact first.held
    paid_behind := by
      unfold Behind
      rw [contracts, state]
      intro hash isPaid
      rcases paid hash isPaid with earlier | behind
      · exact first.paid_behind earlier
      · exact behind }

/-- A contract is stored for a match before its gate. -/
theorem RefundFirst.register
    (first : before.RefundFirst home accepted)
    {trade : Nat}
    {hash : String}
    {matched : Nat}
    {terms : Terms}
    (homed : home hash = some (trade, matched))
    (early : afterRefund (before.state matched) = false)
    (contracts : after.contracts = Function.update before.contracts trade
      (Function.update (before.contracts trade) hash (some (matched, terms))))
    (state : after.state = before.state)
    (setup : after.setup = before.setup)
    (signed : after.signed = before.signed)
    (paid : ∀ hash, after.paid hash → before.paid hash) :
    after.RefundFirst home accepted := by
  exact {
    homed := by
      intro other otherHash otherMatched otherTerms found
      rw [contracts] at found
      by_cases sameTrade : other = trade
      · subst sameTrade
        rw [Function.update_self] at found
        by_cases sameHash : otherHash = hash
        · subst sameHash
          rw [Function.update_self] at found
          cases found
          exact homed
        · rw [Function.update_of_ne sameHash] at found
          exact first.homed found
      · rw [Function.update_of_ne sameTrade] at found
        exact first.homed found
    held := by
      rw [state]
      intro other behind
      obtain ⟨otherTrade, otherHash, otherTerms, otherSetup, refund, found,
        isSetup, isSigned, works⟩ := first.held behind
      refine ⟨otherTrade, otherHash, otherTerms, otherSetup, refund, ?_, ?_, ?_,
        works⟩
      · exact contracts_register first homed early contracts found behind
      · rw [setup]
        exact isSetup
      · rw [signed]
        exact isSigned
    paid_behind := by
      intro other isPaid
      obtain ⟨otherTrade, otherMatched, otherTerms, found, behind⟩ :=
        first.paid_behind (paid other isPaid)
      refine ⟨otherTrade, otherMatched, otherTerms, ?_, ?_⟩
      · exact contracts_register first homed early contracts found behind
      · rw [state]
        exact behind }

/-- A match moves, not through its refund gate. -/
theorem RefundFirst.enter
    (first : before.RefundFirst home accepted)
    {matched : Nat}
    {state : ProtocolState}
    (allowed : stateMachine (before.state matched) state = true)
    (notGate : before.state matched = some state ∨
      state.isRefundGate = false)
    (contracts : after.contracts = before.contracts)
    (entered : after.state =
      Function.update before.state matched (some state))
    (setup : after.setup = before.setup)
    (signed : after.signed = before.signed)
    (paid : ∀ hash, after.paid hash → before.paid hash) :
    after.RefundFirst home accepted := by
  exact {
    homed := by
      rw [contracts]
      exact first.homed
    held := by
      unfold Held
      rw [contracts, entered, setup, signed]
      intro other behind
      apply first.held
      by_cases same : other = matched
      · subst same
        rw [Function.update_self] at behind
        exact afterRefund_of_enter allowed notGate behind
      · rw [Function.update_of_ne same] at behind
        exact behind
    paid_behind := by
      intro hash isPaid
      exact (first.paid_behind (paid hash isPaid)).update allowed contracts
        entered }

/-- A match moves to its gate and the accepted refund is stored, while no other
contract of the factory is behind its gate. -/
theorem RefundFirst.accept
    (first : before.RefundFirst home accepted)
    {trade : Nat}
    {hash : String}
    {matched : Nat}
    {terms : Terms}
    {refund : Refund}
    {setup : String}
    {state : ProtocolState}
    (found : before.contracts trade hash = some (matched, terms))
    (allowed : stateMachine (before.state matched) state = true)
    (isSetup : before.setup trade = some setup)
    (works : accepted terms setup refund)
    (alone : ∀ other otherMatched otherTerms,
      before.contracts trade other = some (otherMatched, otherTerms) →
      other ≠ hash → afterRefund (before.state otherMatched) = false)
    (contracts : after.contracts = before.contracts)
    (entered : after.state =
      Function.update before.state matched (some state))
    (sameSetup : after.setup = before.setup)
    (signed : after.signed =
      Function.update before.signed trade (some refund))
    (paid : ∀ hash, after.paid hash → before.paid hash) :
    after.RefundFirst home accepted := by
  exact {
    homed := by
      rw [contracts]
      exact first.homed
    held := by
      unfold Held
      rw [contracts, entered, sameSetup, signed]
      intro other behind
      by_cases sameMatch : other = matched
      · subst sameMatch
        exact ⟨trade, hash, terms, setup, refund, found, isSetup,
          Function.update_self _ _ _, works⟩
      · rw [Function.update_of_ne sameMatch] at behind
        obtain ⟨otherTrade, otherHash, otherTerms, otherSetup, otherRefund,
          otherFound, otherIsSetup, isSigned, otherWorks⟩ := first.held behind
        have differentTrade : otherTrade ≠ trade := by
          rintro rfl
          have differentHash : otherHash ≠ hash := by
            rintro rfl
            rw [found] at otherFound
            cases otherFound
            exact sameMatch rfl
          rw [alone _ _ _ otherFound differentHash] at behind
          cases behind
        refine ⟨otherTrade, otherHash, otherTerms, otherSetup, otherRefund,
          otherFound, otherIsSetup, ?_, otherWorks⟩
        rw [Function.update_of_ne differentTrade]
        exact isSigned
    paid_behind := by
      intro other isPaid
      exact (first.paid_behind (paid other isPaid)).update allowed contracts
        entered }

/-- The setup transaction of a factory is recorded again under its id, or while
no contract of the factory is behind its gate. -/
theorem RefundFirst.setUp
    (first : before.RefundFirst home accepted)
    {trade : Nat}
    {setup : String}
    (settled : before.setup trade = some setup ∨ before.Early trade)
    (contracts : after.contracts = before.contracts)
    (state : after.state = before.state)
    (recorded : after.setup =
      Function.update before.setup trade (some setup))
    (signed : after.signed = before.signed)
    (paid : ∀ hash, after.paid hash → before.paid hash) :
    after.RefundFirst home accepted := by
  exact {
    homed := by
      rw [contracts]
      exact first.homed
    held := by
      unfold Held
      rw [contracts, state, recorded, signed]
      intro other behind
      obtain ⟨otherTrade, hash, terms, otherSetup, refund, found, isSetup,
        isSigned, works⟩ := first.held behind
      refine ⟨otherTrade, hash, terms, otherSetup, refund, found, ?_, isSigned,
        works⟩
      by_cases sameTrade : otherTrade = trade
      · subst sameTrade
        rcases settled with same | early
        · rw [Function.update_self, ← same]
          exact isSetup
        · rw [early hash other terms found] at behind
          cases behind
      · rw [Function.update_of_ne sameTrade]
        exact isSetup
    paid_behind := by
      unfold Behind
      rw [contracts, state]
      intro hash isPaid
      exact first.paid_behind (paid hash isPaid) }

end Steps

end RefundView
end Coinbend
