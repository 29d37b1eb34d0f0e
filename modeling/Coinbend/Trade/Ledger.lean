import Coinbend.Trade.Unmatching

/-!
# Histories of matches and unmatches

A ledger keeps what every outstanding match moved; the code has none.  Undoing
a match is right when the books of every trade are what the other outstanding
matches add up to.  A run of matches and unmatches is right exactly when every
unmatch meets a condition on the books it finds: the side that is cleared has
no other filling, and the other side is not closed.
-/

namespace Coinbend

/-- What a match moved between a buyer and a seller. -/
structure LedgerEntry where
  buy : TradeRef
  sell : TradeRef
  change : Nat
  value : Nat
  deriving DecidableEq

namespace LedgerEntry

/-- The match is one of the trade. -/
def Involves (entry : LedgerEntry) (ref : TradeRef) : Prop :=
  entry.buy = ref ∨ entry.sell = ref

instance (entry : LedgerEntry) (ref : TradeRef) :
    Decidable (entry.Involves ref) :=
  inferInstanceAs (Decidable (_ ∨ _))

/-- What a match contributes to a trade. -/
def share (amount : LedgerEntry → Nat) (ref : TradeRef) (entry : LedgerEntry) :
    Nat :=
  if entry.Involves ref then amount entry else 0

end LedgerEntry

/-- What the matches of a ledger contribute to a trade. -/
def contribution
    (amount : LedgerEntry → Nat)
    (ledger : List LedgerEntry)
    (ref : TradeRef) : Nat :=
  (ledger.map (LedgerEntry.share amount ref)).sum

@[simp] theorem contribution_nil
    (amount : LedgerEntry → Nat)
    (ref : TradeRef) :
    contribution amount [] ref = 0 := rfl

@[simp] theorem contribution_cons
    (amount : LedgerEntry → Nat)
    (entry : LedgerEntry)
    (ledger : List LedgerEntry)
    (ref : TradeRef) :
    contribution amount (entry :: ledger) ref =
      LedgerEntry.share amount ref entry + contribution amount ledger ref := by
  rw [contribution, List.map_cons, List.sum_cons, contribution]

/-- Taking an entry out takes its share. -/
theorem contribution_erase
    (amount : LedgerEntry → Nat)
    {entry : LedgerEntry}
    {ledger : List LedgerEntry}
    (member : entry ∈ ledger)
    (ref : TradeRef) :
    contribution amount ledger ref =
      LedgerEntry.share amount ref entry +
        contribution amount (ledger.erase entry) ref := by
  rw [← contribution_cons]
  exact ((List.perm_cons_erase member).map _).sum_eq

/-- Values that are at most those of a price add up to at most its value. -/
theorem paid_le_of_entries
    {ledger : List LedgerEntry}
    {ref : TradeRef}
    {price : Nat}
    (entries : ∀ entry ∈ ledger, entry.Involves ref →
      entry.value ≤ entry.change * price / decBase) :
    contribution LedgerEntry.value ledger ref ≤
      contribution LedgerEntry.change ledger ref * price / decBase := by
  induction ledger with
  | nil => exact Nat.zero_le _
  | cons entry ledger inductionHypothesis =>
      have rest := inductionHypothesis fun other member =>
        entries other (List.mem_cons_of_mem _ member)
      have first : LedgerEntry.share LedgerEntry.value ref entry ≤
          LedgerEntry.share LedgerEntry.change ref entry * price / decBase := by
        unfold LedgerEntry.share
        split
        next involved => exact entries entry List.mem_cons_self involved
        · exact Nat.zero_le _
      rw [contribution_cons, contribution_cons]
      exact (Nat.add_le_add first rest).trans (Trade.value_add_le _ _ _)

/-- The trades with the matches that are outstanding. -/
structure MatchBook where
  heap : TradeHeap
  ledger : List LedgerEntry

/-- A match, or the unmatch of an outstanding match. -/
inductive BookEvent
  | matched (self other : TradeRef)
  | unmatched (self other : TradeRef) (undone : LedgerEntry)

/-- A trade is closed when nothing of it remains, and open otherwise. -/
def statusFor (remaining : C) : TradeStatus :=
  if remaining = 0 then .closed else .open

namespace MatchBook

/-- What was filled of a trade by the outstanding matches. -/
def filledOf (state : MatchBook) (ref : TradeRef) : Nat :=
  contribution LedgerEntry.change state.ledger ref

/-- What was paid for it. -/
def paidOf (state : MatchBook) (ref : TradeRef) : Nat :=
  contribution LedgerEntry.value state.ledger ref

/-- The trades and the outstanding matches after an event. -/
def step (context : TradeContext) (state : MatchBook) : BookEvent → MatchBook
  | .matched self other =>
      let (buy, sell) := (state.heap self).buySell self other
      { heap := (state.heap.divide context self other).state
        ledger :=
          { buy, sell
            change := state.heap.changeOf buy sell
            value := state.heap.valueOf buy sell } :: state.ledger }
  | .unmatched self other undone =>
      { heap := (state.heap.multiply context self other).state
        ledger := state.ledger.erase undone }

/-- A buyer and a seller of the book are matched at a price the buyer offers,
or an outstanding match of two trades is undone. -/
def Legal
    (context : TradeContext)
    (book : Finset TradeRef)
    (state : MatchBook) : BookEvent → Prop
  | .matched self other =>
      TradeHeap.Crosses book state.heap ⟨context, self, other⟩
  | .unmatched self other undone =>
      undone ∈ state.ledger ∧
        (state.heap self).buySell self other = (undone.buy, undone.sell)

/-- The books of a trade are what the outstanding matches add up to. -/
structure Booked (state : MatchBook) (ref : TradeRef) : Prop where
  filled : (state.heap ref).filled.val = state.filledOf ref
  paid : (state.heap ref).paid.val = state.paidOf ref
  remaining : (state.heap ref).amount.sub (state.heap ref).filled =
    .ok (state.heap ref).remaining
  status : (state.heap ref).status = statusFor (state.heap ref).remaining

/-- After an event the books of every trade are what the outstanding matches
add up to, and an unmatch has returned. -/
def StepRight
    (context : TradeContext)
    (book : Finset TradeRef)
    (state : MatchBook)
    (event : BookEvent) : Prop :=
  (∀ ref ∈ book, (state.step context event).Booked ref) ∧
    match event with
    | .matched _ _ => True
    | .unmatched self other _ =>
        ∃ moved, (state.heap.multiply context self other).result = .ok moved

/-- Nothing is filled of a trade. -/
def Unfilled (state : MatchBook) (ref : TradeRef) : Prop :=
  state.filledOf ref = 0 ∧ state.paidOf ref = 0

/-- An unmatch meets books it handles: the side it clears has no filling but
the match, and the other side is not closed by the match. -/
def Undoable (state : MatchBook) : BookEvent → Prop
  | .matched _ _ => True
  | .unmatched _ _ undone =>
      let rest : MatchBook :=
        { state with ledger := state.ledger.erase undone }
      let buyer := state.heap undone.buy
      let seller := state.heap undone.sell
      (rest.Unfilled undone.sell ∧ seller.recv < buyer.sent ∧
          (undone.change = 0 ∨ buyer.remaining ≠ 0)) ∨
        (rest.Unfilled undone.buy ∧ buyer.sent < seller.recv ∧
          (undone.change = 0 ∨ seller.remaining ≠ 0)) ∨
        (rest.Unfilled undone.buy ∧ rest.Unfilled undone.sell)

/-- An outstanding match is one of a buyer and a seller of the book at the
seller's price. -/
structure EntryFits
    (book : Finset TradeRef)
    (heap : TradeHeap)
    (entry : LedgerEntry) : Prop where
  buy_mem : entry.buy ∈ book
  sell_mem : entry.sell ∈ book
  buys : (heap entry.buy).action = .buy
  sells : (heap entry.sell).action = .sell
  price : (heap entry.sell).ppc ≤ (heap entry.buy).ppc
  value_le : entry.value ≤ entry.change * (heap entry.sell).ppc.val / decBase

/-- What a trade of the book keeps whatever is matched. -/
structure TradeKeeps
    (context : TradeContext)
    (pair : CurrencyPair)
    (trade : Trade) : Prop where
  total : trade.amount.mul trade.ppc = .ok trade.total
  amount_ne_zero : trade.amount ≠ 0
  on_pair : trade.pair = pair
  valid : Trade.AddressesValid context trade.args

/-- What the books and the ledger keep. -/
structure Kept
    (context : TradeContext)
    (pair : CurrencyPair)
    (book : Finset TradeRef)
    (state : MatchBook) : Prop where
  booked : ∀ ref ∈ book, state.Booked ref
  trades : ∀ ref ∈ book, TradeKeeps context pair (state.heap ref)
  entries : ∀ entry ∈ state.ledger, EntryFits book state.heap entry

section Kept

variable {context : TradeContext} {pair : CurrencyPair}
  {book : Finset TradeRef} {state : MatchBook}

theorem EntryFits.value_le_buy
    {heap : TradeHeap}
    {entry : LedgerEntry}
    (fits : EntryFits book heap entry) :
    entry.value ≤ entry.change * (heap entry.buy).ppc.val / decBase :=
  fits.value_le.trans (Nat.div_le_div_right
    (Nat.mul_le_mul_left _ ((C.le_iff _ _).mp fits.price)))

/-- A trade whose books are the outstanding matches is sound. -/
theorem Kept.sound
    (kept : Kept context pair book state)
    {ref : TradeRef}
    (member : ref ∈ book) :
    (state.heap ref).Sound := by
  have booked := kept.booked ref member
  refine ⟨(kept.trades ref member).total, booked.remaining, ?_, ?_⟩
  · rw [booked.filled, booked.paid]
    apply paid_le_of_entries
    intro entry outstanding involved
    have fits := kept.entries entry outstanding
    rcases involved with rfl | rfl
    · exact fits.value_le_buy
    · exact fits.value_le
  · rw [booked.status, statusFor]
    split
    next empty => exact ⟨fun _ => empty, fun _ => rfl⟩
    next left =>
      exact ⟨fun closed => (nomatch closed), fun empty => absurd empty left⟩

theorem Kept.settled
    (ordered : pair.base < pair.quote)
    (kept : Kept context pair book state)
    {ref : TradeRef}
    (member : ref ∈ book) :
    (state.heap ref).Settled := by
  refine ⟨?_, (kept.trades ref member).total, ?_⟩
  · rw [(kept.trades ref member).on_pair]
    exact ordered
  · rw [Trade.remainingOf_eq]
    exact (kept.booked ref member).remaining

/-- The trades of the book can be copied. -/
theorem Kept.copy
    (ordered : pair.base < pair.quote)
    (kept : Kept context pair book state)
    {ref : TradeRef}
    (member : ref ∈ book) :
    (state.heap ref).copy context =
      .ok { state.heap ref with flipped := false } :=
  (kept.settled ordered member).copy (kept.trades ref member).valid

/-- What the trades and the entries keep does not depend on what is filled. -/
theorem TradeKeeps.of_terms
    {before after : Trade}
    (keeps : TradeKeeps context pair before)
    (terms : after.terms = before.terms)
    (addresses : after.destIp = before.destIp ∧
      after.recvAddr = before.recvAddr)
    (total : after.total = before.total) :
    TradeKeeps context pair after := by
  have amount : after.amount = before.amount :=
    congrArg TradeTerms.amount terms
  have ppc : after.ppc = before.ppc := congrArg TradeTerms.ppc terms
  have same_pair : after.pair = before.pair := congrArg TradeTerms.pair terms
  refine ⟨?_, ?_, ?_, ?_, ?_⟩
  · rw [amount, ppc, total]
    exact keeps.total
  · rw [amount]
    exact keeps.amount_ne_zero
  · rw [same_pair]
    exact keeps.on_pair
  · change after.destIp = "" ∨ context.isIpValid after.destIp = true
    rw [addresses.1]
    exact keeps.valid.destIp
  · change after.recvAddr = "" ∨
      context.isAddressValid after.recvAddr = true
    rw [addresses.2]
    exact keeps.valid.recvAddr

theorem EntryFits.of_terms
    {before after : TradeHeap}
    {entry : LedgerEntry}
    (fits : EntryFits book before entry)
    (terms : ∀ ref, (after ref).terms = (before ref).terms) :
    EntryFits book after entry := by
  have action (ref : TradeRef) : (after ref).action = (before ref).action :=
    congrArg TradeTerms.action (terms ref)
  have ppc (ref : TradeRef) : (after ref).ppc = (before ref).ppc :=
    congrArg TradeTerms.ppc (terms ref)
  refine ⟨fits.buy_mem, fits.sell_mem, ?_, ?_, ?_, ?_⟩
  · rw [action]
    exact fits.buys
  · rw [action]
    exact fits.sells
  · rw [ppc, ppc]
    exact fits.price
  · rw [ppc]
    exact fits.value_le

/-- An outstanding match is a match of sound trades. -/
theorem Kept.matching
    (kept : Kept context pair book state)
    {entry : LedgerEntry}
    (fits : EntryFits book state.heap entry) :
    state.heap.Matching entry.buy entry.sell where
  buys := fits.buys
  sells := fits.sells
  buy_sound := kept.sound fits.buy_mem
  sell_sound := kept.sound fits.sell_mem
  price := fits.price

/-! ## Matches -/

/-- A filled trade has the status of what remains. -/
theorem statusFor_of_filledBy
    {before after : Trade}
    {change value : Nat}
    (filledBy : before.FilledBy after change value)
    (left : before.amount.sub before.filled = .ok before.remaining)
    (status : before.status = statusFor before.remaining) :
    after.status = statusFor after.remaining := by
  have amount : after.amount = before.amount :=
    congrArg TradeTerms.amount filledBy.terms
  obtain ⟨filled_le, before_left⟩ := C.val_sub left
  obtain ⟨after_le, after_left⟩ := C.val_sub filledBy.remaining
  rw [amount, filledBy.filled] at after_le after_left
  rw [filledBy.status, statusFor]
  split
  · rfl
  next some_left =>
    rw [C.eq_zero_iff] at some_left
    rw [status, statusFor, if_neg]
    rw [C.eq_zero_iff]
    omega

/-- A trade of a new match is booked with it. -/
theorem Booked.cons
    {after : TradeHeap}
    {ref : TradeRef}
    {entry : LedgerEntry}
    (booked : state.Booked ref)
    (involved : entry.Involves ref)
    (filledBy : (state.heap ref).FilledBy (after ref) entry.change
      entry.value) :
    Booked { heap := after, ledger := entry :: state.ledger } ref := by
  have shares (amount : LedgerEntry → Nat) :
      contribution amount (entry :: state.ledger) ref =
        amount entry + contribution amount state.ledger ref := by
    rw [contribution_cons, LedgerEntry.share, if_pos involved]
  refine ⟨?_, ?_, filledBy.remaining, ?_⟩
  · rw [filledBy.filled, booked.filled, filledOf, filledOf, shares,
      Nat.add_comm]
  · rw [filledBy.paid, booked.paid, paidOf, paidOf, shares, Nat.add_comm]
  · exact statusFor_of_filledBy filledBy booked.remaining booked.status

/-- Trades that are not touched stay booked when their entries stay. -/
theorem Booked.of_same
    {after : MatchBook}
    {ref : TradeRef}
    (booked : state.Booked ref)
    (same : after.heap ref = state.heap ref)
    (entries : ∀ amount, contribution amount after.ledger ref =
      contribution amount state.ledger ref) :
    after.Booked ref := by
  refine ⟨?_, ?_, ?_, ?_⟩
  · rw [same, filledOf, entries]
    exact booked.filled
  · rw [same, paidOf, entries]
    exact booked.paid
  · rw [same]
    exact booked.remaining
  · rw [same]
    exact booked.status

/-- A match books what it moved. -/
theorem Kept.matched
    (ordered : pair.base < pair.quote)
    (kept : Kept context pair book state)
    {self other : TradeRef}
    (legal : state.Legal context book (.matched self other)) :
    Kept context pair book (state.step context (.matched self other)) := by
  obtain ⟨buy, sell, sides, buy_mem, sell_mem, buys, sells, price⟩ := legal
  have fits : EntryFits book state.heap
      { buy, sell
        change := state.heap.changeOf buy sell
        value := state.heap.valueOf buy sell } :=
    ⟨buy_mem, sell_mem, buys, sells, price, le_rfl⟩
  have matching : state.heap.Matching buy sell := kept.matching fits
  have members : self ∈ book ∧ other ∈ book := by
    rcases TradeHeap.sides_cases sides with ⟨_, rfl, rfl⟩ | ⟨_, rfl, rfl⟩
    · exact ⟨buy_mem, sell_mem⟩
    · exact ⟨sell_mem, buy_mem⟩
  obtain ⟨after, exchanged, effect⟩ := TradeHeap.divide_of_copied sides
    matching (kept.copy ordered members.1) (kept.copy ordered members.2)
  have divided : (state.heap.divide context self other).state = after := by
    rw [effect]
    cases (after self).difference context
      { state.heap self with flipped := false } <;> rfl
  have stepped : state.step context (.matched self other) =
      { heap := after
        ledger :=
          { buy, sell
            change := state.heap.changeOf buy sell
            value := state.heap.valueOf buy sell } :: state.ledger } := by
    rw [step, sides]
    simp only [divided]
  rw [stepped]
  refine ⟨fun ref member => ?_, fun ref member => ?_, fun entry member => ?_⟩
  · by_cases is_buy : ref = buy
    · subst is_buy
      exact (kept.booked ref member).cons (Or.inl rfl) exchanged.buyer
    · by_cases is_sell : ref = sell
      · subst is_sell
        exact (kept.booked ref member).cons (Or.inr rfl) exchanged.seller
      · apply (kept.booked ref member).of_same
        · exact exchanged.others ref is_buy is_sell
        · intro amount
          rw [contribution_cons, LedgerEntry.share, if_neg, Nat.zero_add]
          rintro (same | same)
          · exact is_buy same.symm
          · exact is_sell same.symm
  · by_cases is_buy : ref = buy
    · subst is_buy
      exact (kept.trades ref member).of_terms exchanged.buyer.terms
        exchanged.buyer.addresses exchanged.buyer.total
    · by_cases is_sell : ref = sell
      · subst is_sell
        exact (kept.trades ref member).of_terms exchanged.seller.terms
          exchanged.seller.addresses exchanged.seller.total
      · change TradeKeeps context pair (after ref)
        rw [exchanged.others ref is_buy is_sell]
        exact kept.trades ref member
  · rcases List.mem_cons.mp member with rfl | outstanding
    · exact fits.of_terms exchanged.terms
    · exact (kept.entries entry outstanding).of_terms exchanged.terms

/-! ## Unmatches -/

/-- A trade whose books were set is booked when they are what is left of the
ledger. -/
theorem booked_iff_of_setTo
    {before : Trade}
    {after : MatchBook}
    {ref : TradeRef}
    {filled paid : Nat}
    {status : TradeStatus}
    (setTo : before.SetTo (after.heap ref) filled paid status) :
    after.Booked ref ↔
      filled = after.filledOf ref ∧ paid = after.paidOf ref ∧
        status = statusFor (after.heap ref).remaining := by
  constructor
  · intro booked
    refine ⟨?_, ?_, ?_⟩
    · rw [← setTo.filled, booked.filled]
    · rw [← setTo.paid, booked.paid]
    · rw [← setTo.status, booked.status]
  · rintro ⟨filled_eq, paid_eq, status_eq⟩
    refine ⟨?_, ?_, setTo.remaining, ?_⟩
    · rw [setTo.filled, filled_eq]
    · rw [setTo.paid, paid_eq]
    · rw [setTo.status, status_eq]

/-- What remains of a trade whose books were set. -/
theorem remaining_of_setTo
    {before after : Trade}
    {filled paid : Nat}
    {status : TradeStatus}
    (setTo : before.SetTo after filled paid status) :
    after.remaining.val = before.amount.val - filled := by
  have amount : after.amount = before.amount :=
    congrArg TradeTerms.amount setTo.terms
  rw [(C.val_sub setTo.remaining).2, amount, setTo.filled]

/-- A cleared trade is open. -/
theorem open_of_cleared
    {before after : Trade}
    {paid : Nat}
    {status : TradeStatus}
    (setTo : before.SetTo after 0 paid status)
    (amount_ne_zero : before.amount ≠ 0) :
    .open = statusFor after.remaining := by
  rw [statusFor, if_neg]
  rw [C.eq_zero_iff, remaining_of_setTo setTo, Nat.sub_zero, ← C.eq_zero_iff]
  exact amount_ne_zero

/-- A trade keeps its status exactly when the change leaves it open or
closed. -/
theorem same_status_iff
    {before after : Trade}
    {filled paid : Nat}
    {status : TradeStatus}
    (setTo : before.SetTo after filled paid status)
    (booked : before.status = statusFor before.remaining) :
    before.status = statusFor after.remaining ↔
      (before.remaining.val = 0 ↔ before.amount.val - filled = 0) := by
  have remaining := remaining_of_setTo setTo
  rw [booked, statusFor, statusFor, ← remaining, ← C.eq_zero_iff,
    ← C.eq_zero_iff]
  by_cases empty : before.remaining = 0 <;>
    by_cases empty_after : after.remaining = 0 <;>
    simp [empty, empty_after]

/-- The state an unmatch leaves. -/
theorem step_unmatched
    (context : TradeContext)
    (state : MatchBook)
    (self other : TradeRef)
    (undone : LedgerEntry) :
    state.step context (.unmatched self other undone) =
      { heap := (state.heap.multiply context self other).state
        ledger := state.ledger.erase undone } := rfl

/-- An unmatch that returned is right when its two sides are booked. -/
theorem stepRight_iff_of_undone
    (kept : Kept context pair book state)
    {self other : TradeRef}
    {undone : LedgerEntry}
    (outstanding : undone ∈ state.ledger)
    {buyFilled buyPaid sellFilled sellPaid : Nat}
    {buyStatus sellStatus : TradeStatus}
    (effect : state.heap.Undone (state.heap.multiply context self other).state
      undone.buy undone.sell buyFilled buyPaid sellFilled sellPaid buyStatus
      sellStatus)
    {moved : Trade}
    (returned : (state.heap.multiply context self other).result = .ok moved) :
    StepRight context book state (.unmatched self other undone) ↔
      (state.step context (.unmatched self other undone)).Booked undone.buy ∧
        (state.step context (.unmatched self other undone)).Booked
          undone.sell := by
  have fits := kept.entries undone outstanding
  constructor
  · rintro ⟨booked, _⟩
    exact ⟨booked _ fits.buy_mem, booked _ fits.sell_mem⟩
  · rintro ⟨buyer, seller⟩
    refine ⟨fun ref member => ?_, moved, returned⟩
    by_cases is_buy : ref = undone.buy
    · rw [is_buy]
      exact buyer
    · by_cases is_sell : ref = undone.sell
      · rw [is_sell]
        exact seller
      · apply (kept.booked ref member).of_same
        · exact effect.others ref is_buy is_sell
        · intro amount
          rw [step_unmatched, contribution_erase amount outstanding ref,
            LedgerEntry.share, if_neg, Nat.zero_add]
          rintro (same | same)
          · exact is_buy same.symm
          · exact is_sell same.symm

/-- The books of the two sides of an outstanding match: the match and the
rest. -/
theorem Kept.sides_split
    (kept : Kept context pair book state)
    {undone : LedgerEntry}
    (outstanding : undone ∈ state.ledger)
    {rest : MatchBook}
    (rest_eq : rest = { state with ledger := state.ledger.erase undone }) :
    ((state.heap undone.buy).recv.val =
          undone.change + rest.filledOf undone.buy ∧
        (state.heap undone.buy).sent.val =
          undone.value + rest.paidOf undone.buy) ∧
      (state.heap undone.sell).sent.val =
          undone.change + rest.filledOf undone.sell ∧
        (state.heap undone.sell).recv.val =
          undone.value + rest.paidOf undone.sell := by
  have fits := kept.entries undone outstanding
  have matching := kept.matching fits
  have split (amount : LedgerEntry → Nat) {ref : TradeRef}
      (involved : undone.Involves ref) :
      contribution amount state.ledger ref =
        amount undone + contribution amount rest.ledger ref := by
    rw [contribution_erase amount outstanding ref, LedgerEntry.share,
      if_pos involved, rest_eq]
  have buyer := kept.booked _ fits.buy_mem
  have seller := kept.booked _ fits.sell_mem
  refine ⟨⟨?_, ?_⟩, ?_, ?_⟩
  · rw [← matching.buy_filled, buyer.filled, filledOf, split _ (Or.inl rfl),
      filledOf]
  · rw [← matching.buy_paid, buyer.paid, paidOf, split _ (Or.inl rfl), paidOf]
  · rw [← matching.sell_filled, seller.filled, filledOf, split _ (Or.inr rfl),
      filledOf]
  · rw [← matching.sell_paid, seller.paid, paidOf, split _ (Or.inr rfl),
      paidOf]

/-- An unmatch of the book is right exactly when it meets books it handles. -/
theorem Kept.unmatched_iff
    (ordered : pair.base < pair.quote)
    (kept : Kept context pair book state)
    {self other : TradeRef}
    {undone : LedgerEntry}
    (legal : state.Legal context book (.unmatched self other undone)) :
    StepRight context book state (.unmatched self other undone) ↔
      state.Undoable (.unmatched self other undone) := by
  obtain ⟨outstanding, sides⟩ := legal
  have fits := kept.entries undone outstanding
  have matching := kept.matching fits
  have members : self ∈ book ∧ other ∈ book := by
    rcases TradeHeap.sides_cases sides with ⟨_, is_buy, is_sell⟩ |
      ⟨_, is_sell, is_buy⟩
    · rw [is_buy, is_sell]
      exact ⟨fits.buy_mem, fits.sell_mem⟩
    · rw [is_buy, is_sell]
      exact ⟨fits.sell_mem, fits.buy_mem⟩
  have self_ordered : (state.heap self).pair.base <
      (state.heap self).pair.quote := (kept.settled ordered members.1).ordered
  obtain ⟨rest, rest_eq⟩ : ∃ rest : MatchBook,
      rest = { state with ledger := state.ledger.erase undone } := ⟨_, rfl⟩
  obtain ⟨⟨recv_b, sent_b⟩, sent_s, recv_s⟩ :=
    kept.sides_split outstanding rest_eq
  have filledOf_eq (ref : TradeRef) :
      (state.step context (.unmatched self other undone)).filledOf ref =
        rest.filledOf ref := by
    rw [rest_eq]
    rfl
  have paidOf_eq (ref : TradeRef) :
      (state.step context (.unmatched self other undone)).paidOf ref =
        rest.paidOf ref := by
    rw [rest_eq]
    rfl
  have undoable : state.Undoable (.unmatched self other undone) ↔
      (rest.Unfilled undone.sell ∧
          (state.heap undone.sell).recv.val < (state.heap undone.buy).sent.val ∧
          (undone.change = 0 ∨ (state.heap undone.buy).remaining.val ≠ 0)) ∨
        (rest.Unfilled undone.buy ∧
          (state.heap undone.buy).sent.val < (state.heap undone.sell).recv.val ∧
          (undone.change = 0 ∨ (state.heap undone.sell).remaining.val ≠ 0)) ∨
        (rest.Unfilled undone.buy ∧ rest.Unfilled undone.sell) := by
    rw [rest_eq, ← C.lt_iff, ← C.lt_iff, Ne, Ne, ← C.eq_zero_iff,
      ← C.eq_zero_iff]
    exact Iff.rfl
  have buyer := kept.booked _ fits.buy_mem
  have seller := kept.booked _ fits.sell_mem
  have buyer_amount := (kept.trades _ fits.buy_mem).amount_ne_zero
  have seller_amount := (kept.trades _ fits.sell_mem).amount_ne_zero
  obtain ⟨buyer_le, buyer_left⟩ := C.val_sub buyer.remaining
  obtain ⟨seller_le, seller_left⟩ := C.val_sub seller.remaining
  rw [matching.buy_filled] at buyer_le buyer_left
  rw [matching.sell_filled] at seller_le seller_left
  rw [undoable]
  unfold Unfilled
  cases TradeHeap.multiply_cases sides matching self_ordered
      (kept.copy ordered members.1) (kept.copy ordered members.2) with
  | raised error raises short =>
      refine iff_of_false ?_ ?_
      · rintro ⟨_, moved, returned⟩
        rw [raises] at returned
        cases returned
      · omega
  | more moved returns more covered effect =>
      rw [stepRight_iff_of_undone kept outstanding effect returns,
        booked_iff_of_setTo effect.buyer, booked_iff_of_setTo effect.seller,
        filledOf_eq, filledOf_eq, paidOf_eq, paidOf_eq, step_unmatched,
        same_status_iff effect.buyer buyer.status]
      have opened := open_of_cleared effect.seller seller_amount
      simp only [← opened, and_true]
      omega
  | less moved returns less covered effect =>
      rw [stepRight_iff_of_undone kept outstanding effect returns,
        booked_iff_of_setTo effect.buyer, booked_iff_of_setTo effect.seller,
        filledOf_eq, filledOf_eq, paidOf_eq, paidOf_eq, step_unmatched,
        same_status_iff effect.seller seller.status]
      have opened := open_of_cleared effect.buyer buyer_amount
      simp only [← opened, and_true]
      omega
  | equal moved returns equal effect =>
      rw [stepRight_iff_of_undone kept outstanding effect returns,
        booked_iff_of_setTo effect.buyer, booked_iff_of_setTo effect.seller,
        filledOf_eq, filledOf_eq, paidOf_eq, paidOf_eq, step_unmatched]
      have buyer_opened := open_of_cleared effect.buyer buyer_amount
      have seller_opened := open_of_cleared effect.seller seller_amount
      simp only [← buyer_opened, ← seller_opened, and_true]
      omega

/-- Undoing a match leaves what the trades keep. -/
theorem keeps_of_undone
    (kept : Kept context pair book state)
    {after : TradeHeap}
    {buy sell : TradeRef}
    {buyFilled buyPaid sellFilled sellPaid : Nat}
    {buyStatus sellStatus : TradeStatus}
    (effect : state.heap.Undone after buy sell buyFilled buyPaid sellFilled
      sellPaid buyStatus sellStatus) :
    (∀ ref ∈ book, TradeKeeps context pair (after ref)) ∧
      ∀ ref, (after ref).terms = (state.heap ref).terms := by
  constructor
  · intro ref member
    by_cases is_buy : ref = buy
    · subst is_buy
      exact (kept.trades ref member).of_terms effect.buyer.terms
        effect.buyer.addresses effect.buyer.total
    · by_cases is_sell : ref = sell
      · subst is_sell
        exact (kept.trades ref member).of_terms effect.seller.terms
          effect.seller.addresses effect.seller.total
      · rw [effect.others ref is_buy is_sell]
        exact kept.trades ref member
  · intro ref
    by_cases is_buy : ref = buy
    · subst is_buy
      exact effect.buyer.terms
    · by_cases is_sell : ref = sell
      · subst is_sell
        exact effect.seller.terms
      · rw [effect.others ref is_buy is_sell]

/-- An unmatch that is right keeps the books. -/
theorem Kept.unmatched
    (ordered : pair.base < pair.quote)
    (kept : Kept context pair book state)
    {self other : TradeRef}
    {undone : LedgerEntry}
    (legal : state.Legal context book (.unmatched self other undone))
    (right : StepRight context book state (.unmatched self other undone)) :
    Kept context pair book (state.step context (.unmatched self other undone)) := by
  obtain ⟨booked, moved, returned⟩ := right
  obtain ⟨outstanding, sides⟩ := legal
  have fits := kept.entries undone outstanding
  have matching := kept.matching fits
  have members : self ∈ book ∧ other ∈ book := by
    rcases TradeHeap.sides_cases sides with ⟨_, is_buy, is_sell⟩ |
      ⟨_, is_sell, is_buy⟩
    · rw [is_buy, is_sell]
      exact ⟨fits.buy_mem, fits.sell_mem⟩
    · rw [is_buy, is_sell]
      exact ⟨fits.sell_mem, fits.buy_mem⟩
  have keeps :
      (∀ ref ∈ book, TradeKeeps context pair
        ((state.heap.multiply context self other).state ref)) ∧
        ∀ ref, ((state.heap.multiply context self other).state ref).terms =
          (state.heap ref).terms := by
    cases TradeHeap.multiply_cases sides matching
        (kept.settled ordered members.1).ordered
        (kept.copy ordered members.1) (kept.copy ordered members.2) with
    | raised error raises short =>
        rw [raises] at returned
        cases returned
    | more moved returns more covered effect => exact keeps_of_undone kept effect
    | less moved returns less covered effect => exact keeps_of_undone kept effect
    | equal moved returns equal effect => exact keeps_of_undone kept effect
  refine ⟨booked, keeps.1, fun entry member => ?_⟩
  exact (kept.entries entry (List.mem_of_mem_erase member)).of_terms keeps.2

end Kept

/-! ## Histories -/

/-- Open trades of which nothing is matched are booked. -/
theorem kept_of_opened
    {context : TradeContext}
    {pair : CurrencyPair}
    {book : Finset TradeRef}
    {heap : TradeHeap}
    (opened : ∀ ref ∈ book, (heap ref).Opened pair)
    (valid : ∀ ref ∈ book, Trade.AddressesValid context (heap ref).args) :
    Kept context pair book { heap, ledger := [] } := by
  refine ⟨fun ref member => ?_, fun ref member => ?_, fun _ member => ?_⟩
  · have fresh := opened ref member
    obtain ⟨filled, paid⟩ := Trade.filled_of_untouched fresh.sent fresh.recv
    have sound := fresh.sound
    refine ⟨?_, ?_, sound.remaining, ?_⟩
    · change (heap ref).filled.val = 0
      rw [filled, C.val_zero]
    · change (heap ref).paid.val = 0
      rw [paid, C.val_zero]
    · change (heap ref).status = statusFor (heap ref).remaining
      rw [fresh.is_open, statusFor, if_neg]
      intro empty
      have closed := sound.closed_iff.mpr empty
      rw [fresh.is_open] at closed
      cases closed
  · have fresh := opened ref member
    exact ⟨fresh.sound.total, fresh.amount_ne_zero, fresh.on_pair,
      valid ref member⟩
  · cases member

/-- In every history of matches and unmatches, the unmatches undo exactly one
match each if and only if each of them meets books it handles; and then the
books of every trade are its outstanding matches. -/
theorem history_right_iff
    {context : TradeContext}
    {pair : CurrencyPair}
    {book : Finset TradeRef}
    {heap : TradeHeap}
    (ordered : pair.base < pair.quote)
    (opened : ∀ ref ∈ book, (heap ref).Opened pair)
    (valid : ∀ ref ∈ book, Trade.AddressesValid context (heap ref).args)
    (events : List BookEvent) :
    (Machine.Allowed (step context)
        (fun state event => state.Legal context book event ∧
          StepRight context book state event)
        { heap, ledger := [] } events ↔
      Machine.Allowed (step context)
        (fun state event => state.Legal context book event ∧
          state.Undoable event)
        { heap, ledger := [] } events) ∧
      (Machine.Allowed (step context)
          (fun state event => state.Legal context book event ∧
            state.Undoable event)
          { heap, ledger := [] } events →
        ∀ ref ∈ book,
          (Machine.run (step context) { heap, ledger := [] } events).Booked
            ref) := by
  have agree (state : MatchBook) (event : BookEvent)
      (kept : Kept context pair book state) :
      (state.Legal context book event ∧ StepRight context book state event) ↔
        (state.Legal context book event ∧ state.Undoable event) := by
    cases event with
    | matched self other =>
        refine and_congr_right fun legal => ?_
        exact iff_of_true ⟨(kept.matched ordered legal).booked, trivial⟩ trivial
    | unmatched self other undone =>
        exact and_congr_right fun legal => kept.unmatched_iff ordered legal
  have keeps (state : MatchBook) (event : BookEvent)
      (kept : Kept context pair book state)
      (allowed : state.Legal context book event ∧ state.Undoable event) :
      Kept context pair book (state.step context event) := by
    have right := (agree state event kept).mpr allowed
    cases event with
    | matched self other => exact kept.matched ordered right.1
    | unmatched self other undone =>
        exact kept.unmatched ordered right.1 right.2
  have initially := kept_of_opened opened valid
  exact ⟨Machine.allowed_iff_of_invariant (step context) agree keeps initially
      events,
    fun allowed => (Machine.invariant_run (step context) keeps initially
      allowed).booked⟩

end MatchBook

namespace Sample

/-- Two sellers of three coins and of one coin, and buyers of one and of five
coins. -/
def undoHeap : TradeHeap
  | 0 => openTrade .sell (C.coins 3) (C.coins 2) (C.coins 6)
  | 1 => openTrade .buy (C.coins 1) (C.coins 3) (C.coins 3)
  | 2 => openTrade .sell (C.coins 1) (C.coins 2) (C.coins 2)
  | _ => openTrade .buy (C.coins 5) (C.coins 2) (C.coins 10)

theorem undoHeap_opened (ref : TradeRef) :
    (undoHeap ref).Opened bitcoinLitecoin := by
  unfold undoHeap
  split
  · exact openTrade_opened (by decide +kernel) (by decide)
  · exact openTrade_opened (by decide +kernel) (by decide)
  · exact openTrade_opened (by decide +kernel) (by decide)
  · exact openTrade_opened (by decide +kernel) (by decide)

/-- A match of whole coins at two. -/
def entryOfCoins (buy sell : TradeRef) (coins : Nat) : LedgerEntry where
  buy := buy
  sell := sell
  change := coins * decBase
  value := 2 * coins * decBase

/-- The first seller is matched with both buyers and the second one with the
larger buyer; then the larger match is undone. -/
def undoHistory : List BookEvent :=
  [.matched 0 1, .matched 0 3, .matched 2 3,
    .unmatched 0 3 (entryOfCoins 3 0 2)]

end Sample

/-- The seller and the buyer have equal totals, so the unmatch also clears what
they traded with others. -/
theorem undoHistory_clears_others :
    ((Machine.run (MatchBook.step Sample.bookContext)
        { heap := Sample.undoHeap, ledger := [] }
        Sample.undoHistory).heap 0).sent = 0 ∧
      ((Machine.run (MatchBook.step Sample.bookContext)
        { heap := Sample.undoHeap, ledger := [] }
        Sample.undoHistory).heap 3).recv = 0 ∧
      ((Machine.run (MatchBook.step Sample.bookContext)
        { heap := Sample.undoHeap, ledger := [] }
        Sample.undoHistory).ledger =
          [Sample.entryOfCoins 3 2 1, Sample.entryOfCoins 1 0 1]) ∧
      ¬(Machine.run (MatchBook.step Sample.bookContext)
        { heap := Sample.undoHeap, ledger := [] }
        Sample.undoHistory).Booked 0 := by
  have ledger : (Machine.run (MatchBook.step Sample.bookContext)
      { heap := Sample.undoHeap, ledger := [] }
      Sample.undoHistory).ledger =
        [Sample.entryOfCoins 3 2 1, Sample.entryOfCoins 1 0 1] := by
    decide +kernel
  refine ⟨by decide +kernel, by decide +kernel, ledger, fun booked => ?_⟩
  have filled := booked.filled
  rw [MatchBook.filledOf, ledger] at filled
  revert filled
  decide +kernel

/-- The smaller match of the first seller can be undone while it is open. -/
theorem undoHeap_history_right :
    (Machine.run (MatchBook.step Sample.bookContext)
        { heap := Sample.undoHeap, ledger := [] }
        [.matched 0 1, .matched 2 3,
          .unmatched 0 1 (Sample.entryOfCoins 1 0 1)]).Booked 0 := by
  refine (@MatchBook.history_right_iff Sample.bookContext
    Sample.bitcoinLitecoin {0, 1, 2, 3} Sample.undoHeap (by decide +kernel)
    (fun ref _ => Sample.undoHeap_opened ref) ?_ _).2 ?_ 0 (by decide)
  · intro ref member
    simp only [Finset.mem_insert, Finset.mem_singleton] at member
    rcases member with rfl | rfl | rfl | rfl
    · exact ⟨Or.inl rfl, Or.inl rfl⟩
    · exact ⟨Or.inl rfl, Or.inl rfl⟩
    · exact ⟨Or.inl rfl, Or.inl rfl⟩
    · exact ⟨Or.inl rfl, Or.inl rfl⟩
  · refine ⟨⟨⟨1, 0, ?_⟩, trivial⟩, ⟨⟨3, 2, ?_⟩, trivial⟩, ⟨⟨?_, ?_⟩, ?_⟩,
      trivial⟩
    · decide +kernel
    · decide +kernel
    · decide +kernel
    · decide +kernel
    · refine Or.inr (Or.inr ⟨?_, ?_⟩)
      · exact ⟨by decide +kernel, by decide +kernel⟩
      · exact ⟨by decide +kernel, by decide +kernel⟩

end Coinbend
