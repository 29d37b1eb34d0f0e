import Coinbend.Trade.Rows
import Mathlib.Data.List.Sort

/-!
# Finding stored orders

`OrderBook.find_matches`: a SELECT on the whole part of the price, a trade
built from every row, and `Trade.__eq__` for the rest.  A trade built from a
row has the default status of the constructor, which is not `"open"`, and
`Trade.__eq__` answers nothing for a trade that is not open: no stored order
is ever found.
-/

namespace Coinbend

/-- A row of the `order_book` table. -/
structure OrderRow where
  id : Nat
  ntp : Nat
  action : String
  baseCurrency : String
  quoteCurrency : String
  amountWhole : Nat
  amountDec : Nat
  ppcWhole : Nat
  ppcDec : Nat
  orderHash : String
  deriving DecidableEq

namespace OrderRow

/-- The row as the database cursor returns it. -/
def toRow (row : OrderRow) : Row :=
  ⟨[("id", .int row.id),
    ("ntp", .int row.ntp),
    ("action", .text row.action),
    ("base_currency", .text row.baseCurrency),
    ("quote_currency", .text row.quoteCurrency),
    ("amount_whole", .int row.amountWhole),
    ("amount_dec", .int row.amountDec),
    ("ppc_whole", .int row.ppcWhole),
    ("ppc_dec", .int row.ppcDec),
    ("order_hash", .text row.orderHash)]⟩

/-- The stored amount, counted in the sixteenth decimal. -/
def amountVal (row : OrderRow) : Nat :=
  row.amountWhole * decBase + row.amountDec

/-- The stored price, counted in the sixteenth decimal. -/
def ppcVal (row : OrderRow) : Nat :=
  row.ppcWhole * decBase + row.ppcDec

end OrderRow

/-- `ORDER BY ntp DESC` of the database, which orders rows of one time as it
likes. -/
structure SqlOrder where
  sort : List OrderRow → List OrderRow
  sort_perm : ∀ rows, (sort rows).Perm rows
  sort_sorted : ∀ rows, (sort rows).Pairwise fun first second =>
    second.ntp ≤ first.ntp

/-- `LIMIT 10000`. -/
def rowLimit : Nat := 10000

/-- The WHERE clause of `find_matches`. -/
def Selects (trade : Trade) (row : OrderRow) : Prop :=
  row.baseCurrency = trade.pair.base ∧
    row.quoteCurrency = trade.pair.quote ∧
    (match trade.action with
      | .buy => row.ppcWhole ≤ trade.ppc.whole
      | .sell => trade.ppc.whole ≤ row.ppcWhole) ∧
    row.action = trade.action.toggle.text

instance (trade : Trade) (row : OrderRow) : Decidable (Selects trade row) := by
  unfold Selects
  cases trade.action <;> infer_instance

/-- The rows the SELECT returns. -/
def selectedRows
    (sql : SqlOrder)
    (table : List OrderRow)
    (trade : Trade) : List OrderRow :=
  (sql.sort (table.filter fun row => Selects trade row)).take rowLimit

/-- One round of the loop over the rows.  An amount times a price out of range
leaves a trade without its numbers; it has its status, and `__eq__` answers
nothing before it reads what is missing. -/
def matchRow
    (context : TradeContext)
    (trade : Trade)
    (matched : List Trade)
    (row : OrderRow) : Except PyError (List Trade) :=
  match tradeFromRow context row.toRow with
  | .ok found =>
      .ok (if trade.matchable found then matched ++ [found] else matched)
  | .error .attributeError => .ok matched
  | .error error => .error error

/-- `find_matches`. -/
def findMatches
    (sql : SqlOrder)
    (context : TradeContext)
    (table : List OrderRow)
    (trade : Trade) : Except PyError (List Trade) :=
  (selectedRows sql table trade).foldlM (matchRow context trade) []

/-! ## Compatible orders -/

/-- The stored order can be filled against the trade: one pair, opposite
actions, one amount, and a selling price that is not above the buying
price. -/
def Compatible (trade : Trade) (row : OrderRow) : Prop :=
  row.baseCurrency = trade.pair.base ∧
    row.quoteCurrency = trade.pair.quote ∧
    row.action = trade.action.toggle.text ∧
    row.amountVal = trade.amount.val ∧
    (match trade.action with
      | .buy => row.ppcVal ≤ trade.ppc.val
      | .sell => trade.ppc.val ≤ row.ppcVal)

instance (trade : Trade) (row : OrderRow) :
    Decidable (Compatible trade row) := by
  unfold Compatible
  cases trade.action <;> infer_instance

/-- The coarse filter on the whole part loses no compatible order. -/
theorem selects_of_compatible
    {trade : Trade}
    {row : OrderRow}
    (dec_lt : row.ppcDec < decBase)
    (compatible : Compatible trade row) :
    Selects trade row := by
  obtain ⟨base, quote, action, -, price⟩ := compatible
  refine ⟨base, quote, ?_, action⟩
  have own_lt := trade.ppc.dec_lt
  have own : trade.ppc.val = trade.ppc.whole * decBase + trade.ppc.dec := rfl
  rw [OrderRow.ppcVal, own] at price
  unfold decBase at price dec_lt own_lt
  cases direction : trade.action with
  | buy =>
      simp only [direction] at price ⊢
      omega
  | sell =>
      simp only [direction] at price ⊢
      omega

/-- Below the limit the SELECT returns every compatible order. -/
theorem selectedRows_compatible_perm
    (sql : SqlOrder)
    {table : List OrderRow}
    (decs_lt : ∀ row ∈ table, row.ppcDec < decBase)
    {trade : Trade}
    (few : (table.filter fun row => Selects trade row).length ≤ rowLimit) :
    ((selectedRows sql table trade).filter fun row =>
        Compatible trade row).Perm
      (table.filter fun row => Compatible trade row) := by
  have sorted := sql.sort_perm (table.filter fun row => Selects trade row)
  have all : selectedRows sql table trade =
      sql.sort (table.filter fun row => Selects trade row) := by
    apply List.take_of_length_le
    rw [sorted.length_eq]
    exact few
  rw [all]
  refine (sorted.filter _).trans (List.Perm.of_eq ?_)
  rw [List.filter_filter]
  apply List.filter_congr
  intro row member
  rw [← Bool.decide_and, decide_eq_decide]
  constructor
  · exact fun both => both.1
  · intro compatible
    exact ⟨compatible, selects_of_compatible (decs_lt row member) compatible⟩

/-- The trades returned are the compatible orders the SELECT returns, in its
order; an order is known by its hash. -/
def ReturnsCompatible
    (sql : SqlOrder)
    (context : TradeContext)
    (table : List OrderRow)
    (trade : Trade) : Prop :=
  ∃ matched, findMatches sql context table trade = .ok matched ∧
    matched.map Trade.orderHash =
      ((selectedRows sql table trade).filter fun row =>
        Compatible trade row).map OrderRow.orderHash

/-! ## The loop -/

/-- The constructor keeps the status it is given. -/
theorem Trade.new_status
    {context : TradeContext}
    {args : TradeArgs}
    {trade : Trade}
    (constructed : Trade.new context args = .ok trade) :
    trade.status = args.status := by
  unfold Trade.new at constructed
  split at constructed
  · cases constructed
  · split at constructed
    · cases constructed
    · obtain ⟨numbers, remaining, -, -, rfl⟩ :=
        (Trade.analyzeTrade_eq_ok_iff _ _ _).mp constructed
      rfl

/-- A trade from a row waits for a deposit. -/
theorem tradeFromRow_status
    {context : TradeContext}
    {row : Row}
    {trade : Trade}
    (read : tradeFromRow context row = .ok trade) :
    trade.status = .pendingGreenAddressDeposit := by
  unfold tradeFromRow at read
  simp only [Except.bind_eq_ok_iff] at read
  obtain ⟨_, -, _, -, _, -, _, -, _, -, _, -, _, -, _, -, _, -, new⟩ := read
  exact Trade.new_status new

/-- No trade from a row matches. -/
theorem matchable_tradeFromRow
    {context : TradeContext}
    {row : Row}
    {found : Trade}
    (read : tradeFromRow context row = .ok found)
    (trade : Trade) :
    trade.matchable found = false := by
  have closed : found.status ≠ .open := by
    rw [tradeFromRow_status read]
    decide
  unfold Trade.matchable
  exact if_pos (Or.inr closed)

/-- A trade is built from a row, with its numbers or, where the amount times
the price is out of range, without. -/
def Builds (context : TradeContext) (row : OrderRow) : Prop :=
  (∃ found, tradeFromRow context row.toRow = .ok found) ∨
    tradeFromRow context row.toRow = .error .attributeError

/-- One round raises or leaves the matches as they are. -/
theorem matchRow_eq_ok_iff
    (context : TradeContext)
    (trade : Trade)
    (matched after : List Trade)
    (row : OrderRow) :
    matchRow context trade matched row = .ok after ↔
      Builds context row ∧ after = matched := by
  unfold matchRow Builds
  cases read : tradeFromRow context row.toRow with
  | ok found =>
      simp only [matchable_tradeFromRow read]
      simp [eq_comm]
  | error error =>
      cases error <;> simp [eq_comm]

/-- The loop returns when a trade is built from every row, and then it has
found nothing. -/
theorem foldlM_matchRow_eq_ok_iff
    (context : TradeContext)
    (trade : Trade)
    (matched after : List Trade)
    (rows : List OrderRow) :
    rows.foldlM (matchRow context trade) matched = .ok after ↔
      (∀ row ∈ rows, Builds context row) ∧ after = matched := by
  induction rows with
  | nil =>
      rw [List.foldlM_nil, Except.pure_eq_ok_iff]
      simp [eq_comm]
  | cons row rows hypothesis =>
      rw [List.foldlM_cons, Except.bind_eq_ok_iff, List.forall_mem_cons]
      constructor
      · rintro ⟨next, round, later⟩
        obtain ⟨builds, rfl⟩ := (matchRow_eq_ok_iff _ _ _ _ _).mp round
        obtain ⟨each, same⟩ := hypothesis.mp later
        exact ⟨⟨builds, each⟩, same⟩
      · rintro ⟨⟨builds, each⟩, same⟩
        exact ⟨matched, (matchRow_eq_ok_iff _ _ _ _ _).mpr ⟨builds, rfl⟩,
          hypothesis.mpr ⟨each, same⟩⟩

/-- `find_matches` returns the compatible orders exactly when a trade is built
from every selected row and none of them is compatible; and below the limit the
compatible rows among the selected ones are those of the table. -/
theorem findMatches_compatible_iff
    (sql : SqlOrder)
    (context : TradeContext)
    (table : List OrderRow)
    (trade : Trade) :
    (ReturnsCompatible sql context table trade ↔
      ∀ row ∈ selectedRows sql table trade,
        Builds context row ∧ ¬Compatible trade row) ∧
      ((∀ row ∈ table, row.ppcDec < decBase) →
        (table.filter fun row => Selects trade row).length ≤ rowLimit →
        ((selectedRows sql table trade).filter fun row =>
            Compatible trade row).Perm
          (table.filter fun row => Compatible trade row)) := by
  refine ⟨?_, fun decs_lt few => selectedRows_compatible_perm sql decs_lt few⟩
  have none_compatible :
      ([] : List Trade).map Trade.orderHash =
          ((selectedRows sql table trade).filter fun row =>
            Compatible trade row).map OrderRow.orderHash ↔
        ∀ row ∈ selectedRows sql table trade, ¬Compatible trade row := by
    rw [List.map_nil, eq_comm, List.map_eq_nil_iff, List.filter_eq_nil_iff]
    simp
  simp only [ReturnsCompatible, findMatches, foldlM_matchRow_eq_ok_iff]
  constructor
  · rintro ⟨matched, ⟨readable, rfl⟩, same⟩ row member
    exact ⟨readable row member, none_compatible.mp same row member⟩
  · intro each
    refine ⟨[], ⟨fun row member => (each row member).1, rfl⟩, ?_⟩
    exact none_compatible.mpr fun row member => (each row member).2

/-- Rows of one time stay in the order of the table. -/
def SqlOrder.stable : SqlOrder where
  sort := List.insertionSort fun first second => second.ntp ≤ first.ntp
  sort_perm := List.perm_insertionSort _
  sort_sorted rows := by
    have total : ∀ first second : OrderRow,
        second.ntp ≤ first.ntp ∨ first.ntp ≤ second.ntp :=
      fun first second => Nat.le_total _ _
    have trans : ∀ first second third : OrderRow,
        second.ntp ≤ first.ntp → third.ntp ≤ second.ntp →
          third.ntp ≤ first.ntp :=
      fun _ _ _ newer older => Nat.le_trans older newer
    have : Std.Total fun first second : OrderRow =>
      second.ntp ≤ first.ntp := ⟨total⟩
    have : IsTrans OrderRow fun first second => second.ntp ≤ first.ntp :=
      ⟨trans⟩
    exact List.pairwise_insertionSort _ rows

namespace Sample

/-- An open sell of 1.5 coins at the price 2. -/
def openSell : Trade :=
  { rowTrade fullArgs (C.coins 3) with status := .open }

/-- A stored buy of 1.5 coins at the price 2. -/
def buyRow : OrderRow where
  id := 1
  ntp := 1500000000
  action := "buy"
  baseCurrency := "bitcoin"
  quoteCurrency := "litecoin"
  amountWhole := 1
  amountDec := 5000000000000000
  ppcWhole := 2
  ppcDec := 0
  orderHash := "hash"

end Sample

/-- The only stored order can be filled and is not found. -/
theorem findMatches_misses_buyRow :
    Compatible Sample.openSell Sample.buyRow ∧
      findMatches .stable Sample.rowContext [Sample.buyRow] Sample.openSell =
        .ok [] ∧
      ¬ReturnsCompatible .stable Sample.rowContext [Sample.buyRow]
        Sample.openSell := by
  have nothing : findMatches .stable Sample.rowContext [Sample.buyRow]
      Sample.openSell = .ok [] := by
    decide +kernel
  refine ⟨by decide +kernel, nothing, ?_⟩
  rintro ⟨found, returned, same⟩
  cases nothing.symm.trans returned
  revert same
  decide +kernel

end Coinbend
